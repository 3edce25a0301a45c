import TradingDesk.Session.Preferences

/-! The file of the preferences: a first line that tells what it is, and an object of the stored texts. -/

namespace TradingDesk
namespace Preferences

def heading : String := "Trading desk preferences\n"

def toText (p : Preferences) : String :=
  heading ++ (Json.object (p.entries.map fun (key, raw) => (key, .text raw))).write ++ "\n"

/-- An empty file holds no preferences. There is none when the file is something else. -/
def ofText (text : String) : Option Preferences :=
  if text = "" then some {}
  else if heading.toList.isPrefixOf text.toList then do
    let v ← (Json.parse (String.ofList (text.toList.drop heading.length))).toOption
    let members ← v.members?
    return ⟨Table.ofList (members.filterMap fun (key, raw) => raw.text?.map (key, ·))⟩
  else none

end Preferences
end TradingDesk
