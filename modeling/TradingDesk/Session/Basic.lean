import TradingDesk.Payload.Choice
import TradingDesk.Session.Preferences
import TradingDesk.Session.Toasts

/-! What all panels share: the selected asset class, the theme and the toasts. A session that was restored
from preferences writes each selection back. -/

namespace TradingDesk

structure Selections where
  assetClass : AssetClass := .crypto
  theme : Theme := .dark
  deriving DecidableEq, Repr

namespace Selections

def assetClassKey : String := "asset_class"
def themeKey : String := "theme"

def restore (p : Preferences) : Selections :=
  { assetClass := p.get AssetClass.decoder assetClassKey .crypto
    theme := p.get Theme.decoder themeKey .dark }

def restoreLines (p : Preferences) : List LogLine :=
  let s := restore p
  p.complaints AssetClass.decoder assetClassKey ++ p.complaints Theme.decoder themeKey ++
    [.info ("Restored preferences – asset class: " ++ s.assetClass.name ++ ", theme: " ++ s.theme.title)]

end Selections

/-- `kept` tells whether selections are written to the preferences. -/
structure Session where
  selections : Selections := {}
  toasts : Toasts
  kept : Bool := false

namespace Session

def new (timeToLive limit : Nat) : Session :=
  { toasts := Toasts.new timeToLive limit }

def load (p : Preferences) (timeToLive limit : Nat) : Session :=
  { selections := Selections.restore p, toasts := Toasts.new timeToLive limit, kept := true }

def keep (key : String) (v : Json) (s : Session) (p : Preferences) : Preferences :=
  if s.kept then p.set key v else p

def selectAssetClass (c : AssetClass) (s : Session) (p : Preferences) : Session × Preferences :=
  ({ s with selections := { s.selections with assetClass := c } },
    s.keep Selections.assetClassKey c.toJson p)

def cycleAssetClass (s : Session) (p : Preferences) : Session × Preferences :=
  s.selectAssetClass s.selections.assetClass.next p

def toggleTheme (s : Session) (p : Preferences) : Session × Preferences :=
  let theme := s.selections.theme.toggled
  ({ s with selections := { s.selections with theme := theme } }, s.keep Selections.themeKey theme.toJson p)

def toast (now : Nat) (level : ToastLevel) (message : String) (s : Session) : Session :=
  { s with toasts := s.toasts.push now level message }

end Session
end TradingDesk
