import TradingDesk.Table

/-! Files as far as the program sees them. Names are paths; segments that lead nowhere do not count. -/

namespace TradingDesk

/-- Texts of files by name, and the directories there are. The empty name is the directory in which the
program runs. -/
structure Disk where
  files : Table String := []
  directories : List String := [""]

namespace Disk

def segments (name : String) : List String :=
  (name.splitOn "/").filter fun s => s ≠ "" && s ≠ "."

def named (isAbsolute : Bool) (segments : List String) : String :=
  (if isAbsolute then "/" else "") ++ String.intercalate "/" segments

def isAbsolute (name : String) : Bool :=
  name.toList.head? = some '/'

/-- One name for each file. -/
def plainName (name : String) : String :=
  named (isAbsolute name) (segments name)

def parent (name : String) : String :=
  named (isAbsolute name) (segments name).dropLast

def ofFiles (files : List (String × String)) : Disk where
  files := Table.ofList (files.map fun (name, text) => (plainName name, text))
  directories := "" :: files.map fun (name, _) => parent name

def read? (name : String) (d : Disk) : Option String :=
  d.files.get? (plainName name)

def has (name : String) (d : Disk) : Bool :=
  name ≠ "" && (d.files.has (plainName name) || plainName name ∈ d.directories)

def canHold (name : String) (d : Disk) : Bool :=
  name.toList.getLast? ≠ some '/' && plainName name ∉ d.directories && parent name ∈ d.directories

def write (name text : String) (d : Disk) : Disk :=
  { d with files := d.files.put (plainName name) text }

/-- Opens a file that is made when there is none; the text is what it holds. -/
def open? (name : String) (d : Disk) : Option (String × Disk) :=
  if d.canHold name then
    let text := (d.read? name).getD ""
    some (text, d.write name text)
  else none

def added (before after : Disk) : List String :=
  (after.files.map Prod.fst).filter fun name => !before.files.has name

end Disk
end TradingDesk
