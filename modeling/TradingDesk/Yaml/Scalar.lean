import TradingDesk.Yaml.Cursor

/-! YAML scalars: between double quotes, between single quotes, or plain. A scalar may go on over several
lines, whose ends are folded. -/

namespace TradingDesk
namespace Yaml

def hexValue? (c : Char) : Option Nat :=
  if c.isDigit then some (c.toNat - '0'.toNat)
  else if 'a' ≤ c && c ≤ 'f' then some (c.toNat - 'a'.toNat + 10)
  else if 'A' ≤ c && c ≤ 'F' then some (c.toNat - 'A'.toNat + 10)
  else none

/-- The character of a code; surrogates have none. -/
def charOf? (n : Nat) : Option Char :=
  if n.isValidChar then some (Char.ofNat n) else none

def escapes : List (Char × Nat) :=
  [('0', 0), ('a', 7), ('b', 8), ('t', 9), ('\t', 9), ('n', 10), ('v', 11), ('f', 12), ('r', 13), ('e', 27),
    (' ', 32), ('"', 34), ('/', 47), ('\\', 92), ('N', 0x85), ('_', 0xA0), ('L', 0x2028), ('P', 0x2029)]

def codeLength? : Char → Option Nat
  | 'x' => some 2
  | 'u' => some 4
  | 'U' => some 8
  | _ => none

/-- An escape behind its backslash: the character and how long the escape is. -/
def escape? : List Char → Option (Char × Nat)
  | [] => none
  | c :: rest =>
    match escapes.lookup c with
    | some n => some (Char.ofNat n, 1)
    | none => do
      let width ← codeLength? c
      let digits ← (rest.take width).mapM hexValue?
      if digits.length = width then
        let ch ← charOf? (digits.foldl (fun n d => 16 * n + d) 0)
        return (ch, width + 1)
      else none

/-- The content of a scalar between double quotes, from behind the first one. -/
def doubleQuoted : Nat → Cursor → List Char → Option (String × Cursor)
  | 0, _, _ => none
  | fuel + 1, c, read =>
    match c.rest with
    | [] => none
    | '"' :: _ => some (String.ofList read.reverse, c.skip 1)
    | '\\' :: '\n' :: _ =>
      let g := (c.skip 1).gap
      doubleQuoted fuel g.after ((g.lines.drop 1).map (fun _ => '\n') ++ read)
    | '\\' :: rest => do
      let (ch, width) ← escape? rest
      doubleQuoted fuel (c.skip (width + 1)) (ch :: read)
    | ch :: _ =>
      if Cursor.isGap (some ch) then
        let g := c.gap
        doubleQuoted fuel g.after (g.text.reverse ++ read)
      else doubleQuoted fuel (c.skip 1) (ch :: read)

def singleQuoted : Nat → Cursor → List Char → Option (String × Cursor)
  | 0, _, _ => none
  | fuel + 1, c, read =>
    match c.rest with
    | [] => none
    | '\'' :: '\'' :: _ => singleQuoted fuel (c.skip 2) ('\'' :: read)
    | '\'' :: _ => some (String.ofList read.reverse, c.skip 1)
    | ch :: _ =>
      if Cursor.isGap (some ch) then
        let g := c.gap
        singleQuoted fuel g.after (g.text.reverse ++ read)
      else singleQuoted fuel (c.skip 1) (ch :: read)

def flowMarks : List Char := [',', '[', ']', '\x7b', '\x7d']

/-- A plain scalar ends here: at a colon that stands alone and, in flow content, at a mark. -/
def plainEnds (inFlow : Bool) (c : Cursor) : Bool :=
  match c.rest with
  | [] => true
  | ch :: _ => c.isMark ':' || (inFlow && flowMarks.contains ch)

/-- A colon just before a mark of flow content is refused. -/
def strayColon (inFlow : Bool) (c : Cursor) : Bool :=
  match c.rest with
  | ':' :: next :: _ => inFlow && flowMarks.contains next
  | _ => false

def tabInIndent (floor : Nat) (g : Cursor.Gap) : Bool :=
  g.lines.any fun line => (line.take floor).contains '\t'

/-- A plain scalar whose further lines start at column `floor` or further right. -/
def plainScalar (inFlow : Bool) (floor : Nat) : Nat → Cursor → List Char → Option (String × Cursor)
  | 0, _, _ => none
  | fuel + 1, c, read =>
    let done := some (String.ofList read.reverse, c)
    match c.rest with
    | [] => done
    | ch :: _ =>
      if strayColon inFlow c then none
      else if plainEnds inFlow c then done
      else if Cursor.isGap (some ch) then
        let g := c.gap
        let next := g.after
        if !inFlow && tabInIndent floor g then none
        else if plainEnds inFlow next || next.rest.head? == some '#' then done
        else if !inFlow && !g.lines.isEmpty && next.column < floor then done
        else plainScalar inFlow floor fuel next (g.text.reverse ++ read)
      else plainScalar inFlow floor fuel (c.skip 1) (ch :: read)

def plainStarts (inFlow : Bool) (c : Cursor) : Bool :=
  match c.rest with
  | [] => false
  | ch :: rest =>
    let reserved := ",[]\x7b\x7d#&*!|>'\"%@`".toList
    if ch == '-' then !Cursor.isGap rest.head?
    else if ch == '?' || ch == ':' then !inFlow && !Cursor.isGap rest.head?
    else !reserved.contains ch && !Cursor.isGap (some ch)

def scalarText (inFlow : Bool) (floor : Nat) (c : Cursor) : Option (Bool × String × Cursor) :=
  let fuel := c.rest.length + 1
  match c.rest with
  | '"' :: _ => (doubleQuoted fuel (c.skip 1) []).map fun (s, c) => (false, s, c)
  | '\'' :: _ => (singleQuoted fuel (c.skip 1) []).map fun (s, c) => (false, s, c)
  | _ =>
    if plainStarts inFlow c then (plainScalar inFlow floor fuel c []).map fun (s, c) => (true, s, c)
    else none

end Yaml
end TradingDesk
