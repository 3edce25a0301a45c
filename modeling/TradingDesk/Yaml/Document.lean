import TradingDesk.Yaml.Scalar

/-! A YAML document: scalars, lists and mappings, written in block or in flow style. Anchors, tags, block
scalars and further documents are not read. -/

namespace TradingDesk

/-- `plain` tells whether a scalar stood without quotes. What is left out is an empty plain scalar. -/
inductive Yaml where
  | scalar (plain : Bool) (text : String)
  | list (items : List Yaml)
  | mapping (entries : List (Yaml × Yaml))

namespace Yaml

def nothing : Yaml := .scalar true ""

/-- In flow content a value ends at one of these. -/
def endsValue (c : Cursor) : Bool :=
  match c.rest.head? with
  | some ',' | some ']' | some '\x7d' => true
  | _ => false

mutual

def flowNode : Nat → Cursor → Option (Yaml × Cursor)
  | 0, _ => none
  | fuel + 1, c =>
    match c.rest with
    | '[' :: _ => do
      let (items, c) ← flowItems fuel true (c.skip 1)
      return (.list items, c)
    | '\x7b' :: _ => do
      let (entries, c) ← flowEntries fuel true (c.skip 1)
      return (.mapping entries, c)
    | _ => do
      let (plain, text, c) ← scalarText true 0 c
      return (.scalar plain text, c)

def flowValue : Nat → Cursor → Option (Yaml × Cursor)
  | 0, _ => none
  | fuel + 1, c => do
    let t ← c.token true true
    if endsValue t then return (nothing, t)
    flowNode fuel t

/-- A node and, when a colon follows on its line, its value. -/
def flowPair : Nat → Cursor → Option (Yaml × Option Yaml × Cursor)
  | 0, _ => none
  | fuel + 1, c => do
    let (key, after) ← flowNode fuel c
    let after := after.skipBlanks
    if after.rest.head? == some ':' then
      let (value, rest) ← flowValue fuel (after.skip 1)
      return (key, some value, rest)
    else return (key, none, after)

/-- The items up to the closing bracket; commas stand between them. -/
def flowItems : Nat → Bool → Cursor → Option (List Yaml × Cursor)
  | 0, _, _ => none
  | fuel + 1, first, c => do
    let t ← c.token true true
    if t.rest.head? == some ']' then return ([], t.skip 1)
    let t ← if first then some t
      else if t.rest.head? == some ',' then (t.skip 1).token true true else none
    if t.rest.head? == some ']' then
      if first then none else return ([], t.skip 1)
    let (key, value, t) ← flowPair fuel t
    let item := match value with
      | some v => Yaml.mapping [(key, v)]
      | none => key
    let (items, t) ← flowItems fuel false t
    return (item :: items, t)

def flowEntries : Nat → Bool → Cursor → Option (List (Yaml × Yaml) × Cursor)
  | 0, _, _ => none
  | fuel + 1, first, c => do
    let t ← c.token true true
    if t.rest.head? == some '\x7d' then return ([], t.skip 1)
    let t ← if first then some t
      else if t.rest.head? == some ',' then (t.skip 1).token true true else none
    if t.rest.head? == some '\x7d' then return ([], t.skip 1)
    let (key, value, t) ← flowPair fuel t
    let (entries, t) ← flowEntries fuel false t
    return ((key, value.getD nothing) :: entries, t)

end

def startsFlow (c : Cursor) : Bool :=
  match c.rest.head? with
  | some '[' | some '\x7b' => true
  | _ => false

/-- A node of flow content, or a scalar, as the last thing on its line. -/
def inline (floor : Nat) (c : Cursor) : Option (Yaml × Cursor) := do
  let (node, after) ← if startsFlow c then flowNode (2 * c.rest.length + 2) c
    else (scalarText false floor c).map fun (plain, text, c) => (.scalar plain text, c)
  let next ← after.nextLine
  return (node, next)

def key? (c : Cursor) : Option (Yaml × Cursor) := do
  let (plain, text, after) ← scalarText false (c.column + 1) c
  let colon := after.skipBlanks
  if colon.line = c.line && colon.isMark ':' then some (.scalar plain text, colon.skip 1) else none

mutual

def blockNode (floor : Nat) : Nat → Cursor → Option (Yaml × Cursor)
  | 0, _ => none
  | fuel + 1, c =>
    if c.isMark '-' then do
      let (items, c) ← blockItems c.column false fuel c
      return (.list items, c)
    else if startsFlow c then inline floor c
    else if (key? c).isSome then do
      let (entries, c) ← blockEntries c.column fuel c
      return (.mapping entries, c)
    else inline floor c
termination_by structural fuel => fuel

/-- The items of a list whose dashes stand in one column. Below a key in the same column, another entry
may follow. -/
def blockItems (column : Nat) (belowKey : Bool) : Nat → Cursor → Option (List Yaml × Cursor)
  | 0, _ => none
  | fuel + 1, c =>
    if c.atEnd || c.column < column then some ([], c)
    else if column < c.column then none
    else if c.isMark '-' then do
      let t ← (c.skip 1).token false false
      let (item, t) ←
        if t.atEnd || (c.line < t.line && t.column ≤ column) then some (nothing, t)
        else blockNode (column + 1) fuel t
      let (items, t) ← blockItems column belowKey fuel t
      return (item :: items, t)
    else if belowKey then some ([], c)
    else none
termination_by structural fuel => fuel

/-- The entries of a mapping whose keys stand in one column. -/
def blockEntries (column : Nat) : Nat → Cursor → Option (List (Yaml × Yaml) × Cursor)
  | 0, _ => none
  | fuel + 1, c =>
    if c.atEnd || c.column < column then some ([], c)
    else if column < c.column then none
    else do
      let (key, after) ← key? c
      let (value, t) ← blockValue column fuel after
      let (entries, t) ← blockEntries column fuel t
      return ((key, value) :: entries, t)
termination_by structural fuel => fuel

/-- What follows the colon of an entry: the rest of its line, or a block further right. -/
def blockValue (column : Nat) : Nat → Cursor → Option (Yaml × Cursor)
  | 0, _ => none
  | fuel + 1, c => do
    let t ← c.token false true
    if t.atEnd then some (nothing, t)
    else if t.line = c.line then inline (column + 1) t
    else if column < t.column then blockNode (column + 1) fuel t
    else if t.column = column && t.isMark '-' then do
      let (items, t) ← blockItems column true fuel t
      return (.list items, t)
    else some (nothing, t)
termination_by structural fuel => fuel

end

/-- Every line ends with one character. -/
def unifyLines : List Char → List Char
  | '\r' :: '\n' :: rest => '\n' :: unifyLines rest
  | '\r' :: rest => '\n' :: unifyLines rest
  | c :: rest => (if c.toNat = 0x85 then '\n' else c) :: unifyLines rest
  | [] => []

def isPrintable (c : Char) : Bool :=
  let n := c.toNat
  n = 9 || n = 10 || n = 13 || (0x20 ≤ n && n ≤ 0x7E) || n = 0x85 ||
    (0xA0 ≤ n && n ≤ 0xFFFD && n ≠ 0xFEFF) || 0x10000 ≤ n

def documentMark (c : Cursor) : Bool :=
  c.column = 0 && c.rest.take 3 = ['-', '-', '-'] && Cursor.isGap (c.rest.drop 3).head?

def ofText (text : String) : Option Yaml := do
  let chars := match text.toList with
    | '\ufeff' :: rest => rest
    | cs => cs
  if !chars.all isPrintable then none
  let start : Cursor := ⟨unifyLines chars, 0, 0⟩
  let t ← start.token false false
  let t ← if documentMark t then (t.skip 3).token false true else some t
  if t.atEnd then return nothing
  let (node, t) ← blockNode 0 (2 * chars.length + 4) t
  if t.atEnd then return node else none

end Yaml
end TradingDesk
