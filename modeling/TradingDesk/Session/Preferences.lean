import TradingDesk.Json.Decoder
import TradingDesk.Json.Printer
import TradingDesk.Log
import TradingDesk.Table

/-! Preferences that outlive a session: a finite map from keys to JSON texts. A text that cannot be read as
the wanted kind counts as missing, and stays where it is. -/

namespace TradingDesk

structure Preferences where
  entries : Table String := []

inductive PreferencesError where
  | cannotOpen
  | notPreferences
  deriving DecidableEq

def PreferencesError.message : PreferencesError → String
  | .cannotOpen => "opening preferences database"
  | .notPreferences => "applying schema"

namespace Preferences

def raw? (key : String) (p : Preferences) : Option String :=
  p.entries.get? key

def setRaw (key raw : String) (p : Preferences) : Preferences :=
  ⟨p.entries.put key raw⟩

def set (key : String) (v : Json) (p : Preferences) : Preferences :=
  p.setRaw key v.write

/-- The stored value, or the default when there is none or it is of another kind. -/
def get (d : Json.Decoder α) (key : String) (default : α) (p : Preferences) : α :=
  match (p.raw? key).map d.ofText with
  | some (.ok a) => a
  | _ => default

def complaints (d : Json.Decoder α) (key : String) (p : Preferences) : List LogLine :=
  match (p.raw? key).map d.ofText with
  | some (.error e) =>
    [.warn ("Stored preference '" ++ key ++ "' is unreadable (" ++ e.message ++ ") – using default")]
  | _ => []

/-- Changes the stored value, or the default in its place, and stores the result. -/
def update (d : Json.Decoder α) (toJson : α → Json) (key : String) (default : α) (change : α → α)
    (p : Preferences) : α × Preferences :=
  let next := change (p.get d key default)
  (next, p.set key (toJson next))

/-- The answer tells whether there was something to remove. -/
def remove (key : String) (p : Preferences) : Bool × Preferences :=
  (p.entries.has key, ⟨p.entries.erase key⟩)

theorem raw?_setRaw (key other raw : String) (p : Preferences) :
    (p.setRaw key raw).raw? other = if other = key then some raw else p.raw? other :=
  Table.get?_put key other raw p.entries

end Preferences
end TradingDesk
