import TradingDesk.Log

/-! Which lines of the log are told. -/

namespace TradingDesk

def LogLevel.weight : LogLevel → Nat
  | .info => 0
  | .warn => 1
  | .error => 2

/-- The lightest level that is told; without one nothing is told. -/
structure LogFilter where
  lightest : Option LogLevel
  deriving DecidableEq, Repr

namespace LogFilter

/-- Levels by name and by number. Nothing is lighter than a piece of information, so the finest levels are
like it. -/
def named : List (String × LogFilter) :=
  [("off", ⟨none⟩), ("error", ⟨some .error⟩), ("warn", ⟨some .warn⟩), ("info", ⟨some .info⟩),
    ("debug", ⟨some .info⟩), ("trace", ⟨some .info⟩), ("0", ⟨none⟩), ("1", ⟨some .error⟩),
    ("2", ⟨some .warn⟩), ("3", ⟨some .info⟩), ("4", ⟨some .info⟩), ("5", ⟨some .info⟩)]

/-- The last level named in a list with commas. An empty list asks for errors, one without a level for
nothing. -/
def ofText (text : String) : LogFilter :=
  let parts := (text.splitOn ",").filter (· ≠ "")
  if parts.isEmpty then ⟨some .error⟩
  else ((parts.filterMap fun part => named.lookup part.toLower).getLast?).getD ⟨none⟩

def tells (l : LogLine) (f : LogFilter) : Bool :=
  f.lightest.any fun lightest => lightest.weight ≤ l.level.weight

def text (lines : List LogLine) (f : LogFilter) : String :=
  String.join ((lines.filter f.tells).map fun l => l.level.name ++ " " ++ l.message ++ "\n")

end LogFilter
end TradingDesk
