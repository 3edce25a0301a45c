/-! A place in a YAML text: what is left, and the line and column it starts at. -/

namespace TradingDesk
namespace Yaml

structure Cursor where
  rest : List Char
  line : Nat := 0
  column : Nat := 0

namespace Cursor

def isBlank (c : Char) : Bool :=
  c == ' ' || c == '\t'

/-- A blank, the end of a line or the end of the text. -/
def isGap : Option Char → Bool
  | none => true
  | some c => isBlank c || c == '\n'

def atEnd (c : Cursor) : Bool :=
  c.rest.isEmpty

def skip (n : Nat) (c : Cursor) : Cursor :=
  { c with rest := c.rest.drop n, column := c.column + n }

/-- A mark that stands alone, such as the dash of a list. -/
def isMark (mark : Char) (c : Cursor) : Bool :=
  c.rest.head? == some mark && isGap c.rest.tail.head?

def skipBlanks (c : Cursor) : Cursor :=
  c.skip (c.rest.takeWhile isBlank).length

/-- The next token, past blanks, comments and line ends. Tabs are allowed in flow content and, when `tabs`
says so, up to the end of the line. -/
def seek (inFlow : Bool) : (tabs comment : Bool) → List Char → (line column : Nat) → Option Cursor
  | _, _, [], line, column => some ⟨[], line, column⟩
  | tabs, comment, c :: rest, line, column =>
    if c == '\n' then seek inFlow inFlow false rest (line + 1) 0
    else if comment || c == ' ' then seek inFlow tabs comment rest line (column + 1)
    else if c == '\t' then
      if tabs then seek inFlow tabs false rest line (column + 1) else none
    else if c == '#' then seek inFlow tabs true rest line (column + 1)
    else some ⟨c :: rest, line, column⟩

def token (inFlow tabs : Bool) (c : Cursor) : Option Cursor :=
  seek inFlow tabs false c.rest c.line c.column

def nextLine (c : Cursor) : Option Cursor := do
  let t ← c.token false true
  if t.atEnd || c.line < t.line then some t else none

structure Gap where
  blanks : List Char
  lines : List (List Char)
  after : Cursor

/-- The blanks at the cursor; `lines` holds the blanks of each further line. -/
def gap (c : Cursor) : Gap :=
  let run := c.rest.takeWhile fun ch => isBlank ch || ch == '\n'
  let blanks := run.takeWhile isBlank
  let lines := ((String.ofList run).splitOn "\n").tail.map String.toList
  let column := match lines.getLast? with
    | some last => last.length
    | none => c.column + run.length
  ⟨blanks, lines, ⟨c.rest.drop run.length, c.line + lines.length, column⟩⟩

/-- What a gap stands for: its blanks, one blank for one line end, and a line end for each further one. -/
def Gap.text (g : Gap) : List Char :=
  match g.lines with
  | [] => g.blanks
  | [_] => [' ']
  | _ :: more => more.map fun _ => '\n'

end Cursor
end Yaml
end TradingDesk
