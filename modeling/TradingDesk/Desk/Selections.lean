import TradingDesk.Desk.Basic

/-! The saved selections at the desk: shown, changed and forgotten. -/

namespace TradingDesk
namespace Desk

def showSelections : Action Unit := do
  let c ← assetClass
  let t ← theme
  line ("asset_class  " ++ c.name)
  line ("theme        " ++ t.title)

def change (f : Preferences → Preferences) : Action Unit :=
  modify fun d => { d with preferences := f d.preferences }

def saveAssetClass (c : AssetClass) : Action Unit := do
  change (·.set Selections.assetClassKey c.toJson)
  showSelections

def toggleTheme : Action Unit := do
  let t ← theme
  change (·.set Selections.themeKey t.toggled.toJson)
  showSelections

/-- The defaults hold again; what was saved is told. -/
def forgetSelections : Action Unit := do
  for key in [Selections.assetClassKey, Selections.themeKey] do
    let (saved, p) := (← get).preferences.remove key
    change fun _ => p
    if saved then note (.info ("Preference '" ++ key ++ "' cleared"))
  showSelections

end Desk
end TradingDesk
