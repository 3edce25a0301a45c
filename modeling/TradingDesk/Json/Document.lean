import TradingDesk.Json.Error
import TradingDesk.Number.Reading

/-! A JSON text as a tree that keeps its faults in place. A reader of the tree may use a value or pass
over it, and the two are told of different faults: a value that is passed over may be out of range
or hold a broken surrogate pair. The first fault on a reader's way is the one it reports. -/

namespace TradingDesk
namespace Json

/-- A break in the text: what is told to a reader that uses the value, and to one that passes over. -/
structure Fault where
  used : Error
  skipped : Error

def Fault.same (e : Error) : Fault := ⟨e, e⟩

inductive Ending where
  | closed
  | broken (fault : Fault)

/-- A tree of a text. `unusable` is a number or text that may only be passed over; `broken` ends the
text, and `scalar` says that it began as a word or number. -/
inductive Node where
  | null
  | bool (b : Bool)
  | integer (n : Int)
  | double (x : Float)
  | text (s : String)
  | unusable (e : Error)
  | list (items : List Node) (ending : Ending)
  | object (members : List (Except Error String × Node)) (ending : Ending)
  | broken (scalar : Bool) (fault : Fault)
  deriving Inhabited

def isBlank (c : Char) : Bool :=
  c == ' ' || c == '\n' || c == '\t' || c == '\r'

def skipBlank (cs : List Char) : List Char :=
  cs.dropWhile isBlank

/-! ### Texts -/

/-- One element between quotes: a character as it stands, a character named by a letter, or a 16-bit
unit named by four digits. -/
inductive Element where
  | plain (c : Char)
  | named (c : Char)
  | unit (n : Nat)

inductive TextEnd where
  | closed
  | ended
  | control
  | badLetter
  | badHex
  deriving DecidableEq

def hexValue? (c : Char) : Option Nat :=
  if c.isDigit then some (c.toNat - '0'.toNat)
  else if 'a' ≤ c && c ≤ 'f' then some (c.toNat - 'a'.toNat + 10)
  else if 'A' ≤ c && c ≤ 'F' then some (c.toNat - 'A'.toNat + 10)
  else none

def hex4? (a b c d : Char) : Option Nat :=
  match hexValue? a, hexValue? b, hexValue? c, hexValue? d with
  | some a, some b, some c, some d => some (((a * 16 + b) * 16 + c) * 16 + d)
  | _, _, _, _ => none

def namedChar? : Char → Option Char
  | '"' => some '"'
  | '\\' => some '\\'
  | '/' => some '/'
  | 'b' => some '\x08'
  | 'f' => some '\x0c'
  | 'n' => some '\n'
  | 'r' => some '\r'
  | 't' => some '\t'
  | _ => none

def bytes (cs : List Char) : Nat :=
  (String.ofList cs).utf8ByteSize

/-- The elements up to the closing quote, how they end, and the text behind. -/
def elements : List Char → List Element × TextEnd × List Char
  | [] => ([], .ended, [])
  | '"' :: rest => ([], .closed, rest)
  | '\\' :: 'u' :: a :: b :: c :: d :: rest =>
    match hex4? a b c d with
    | some n =>
      let (es, ending, rest) := elements rest
      (.unit n :: es, ending, rest)
    | none => ([], .badHex, [])
  | '\\' :: 'u' :: rest => ([], if bytes rest < 4 then .ended else .badHex, [])
  | '\\' :: c :: rest =>
    match namedChar? c with
    | some p =>
      let (es, ending, rest) := elements rest
      (.named p :: es, ending, rest)
    | none => ([], .badLetter, [])
  | ['\\'] => ([], .ended, [])
  | c :: rest =>
    if c.toNat < 0x20 then ([], .control, [])
    else
      let (es, ending, rest) := elements rest
      (.plain c :: es, ending, rest)

def TextEnd.error? : TextEnd → Option Error
  | .closed => none
  | .ended => some .endInText
  | .control => some .controlCharacter
  | .badLetter | .badHex => some .badEscape

/-- What is reported when a text ends behind the first half of a surrogate pair. -/
def TextEnd.afterHalf : TextEnd → Error
  | .ended => .endInText
  | .badHex => .badEscape
  | .closed | .control | .badLetter => .shortEscape

def isHigh (n : Nat) : Bool := 0xD800 ≤ n && n ≤ 0xDBFF
def isLow (n : Nat) : Bool := 0xDC00 ≤ n && n ≤ 0xDFFF

/-- The characters of the elements; two units that form a surrogate pair are one character. -/
def characters (ending : TextEnd) : List Element → Except Error (List Char)
  | [] => match ending.error? with
    | some e => .error e
    | none => .ok []
  | .plain c :: rest | .named c :: rest => (characters ending rest).map (c :: ·)
  | .unit n :: rest =>
    if isLow n then .error .loneSurrogate
    else if isHigh n then
      match rest with
      | .unit m :: rest =>
        if isLow m then
          let c := Char.ofNat (0x10000 + (n - 0xD800) * 0x400 + (m - 0xDC00))
          (characters ending rest).map (c :: ·)
        else .error .loneSurrogate
      | [] => .error ending.afterHalf
      | _ => .error .shortEscape
    else (characters ending rest).map (Char.ofNat n :: ·)

structure Quoted where
  content : Except Error String
  skipped : Option Error
  rest : List Char

def quoted (cs : List Char) : Quoted :=
  let (es, ending, rest) := elements cs
  ⟨(characters ending es).map String.ofList, ending.error?, rest⟩

/-! ### Numbers and words -/

def digits (cs : List Char) : List Char × List Char :=
  (cs.takeWhile Char.isDigit, cs.dropWhile Char.isDigit)

/-- A number cut off by the end of the text is told apart only when it is used. -/
def numberFault : List Char → Fault
  | [] => ⟨.endInValue, .badNumber⟩
  | _ => .same .badNumber

/-- Leading digits as a number below `2 ^ 64`, and the digits that no longer fit. -/
def fitting (n : Nat) : List Char → Nat × List Char
  | [] => (n, [])
  | c :: cs =>
    let more := 10 * n + Number.digit c
    if more < UInt64.size then fitting more cs else (n, c :: cs)

def powerOfTen (k : Nat) : Float :=
  Float.ofScientific 1 false k

/-- Scales by a power of ten in double arithmetic, at most 308 powers at a time. Three steps down lead
from 64 bits to zero. -/
def scaled (x : Float) : Nat → Int → Float
  | 0, _ => x
  | steps + 1, power =>
    if power.natAbs ≤ 308 then
      if 0 ≤ power then x * powerOfTen power.natAbs else x / powerOfTen power.natAbs
    else if x == 0 then x
    else if 0 ≤ power then Number.endless false
    else scaled (x / powerOfTen 308) steps (power + 308)

def doubleNode (negative : Bool) (n : Nat) (power : Int) : Node :=
  let x := scaled n.toUInt64.toFloat 4 power
  if x.isFinite then .double (if negative then -x else x) else .unusable .outOfRange

/-- A whole number of at most 64 bits stays whole; a negative zero does not. -/
def wholeNumber (negative : Bool) (ds : List Char) : Node :=
  match fitting 0 ds with
  | (n, []) =>
    if !negative then .integer n
    else if n == 0 || 0x8000000000000000 < n then doubleNode true n 0
    else .integer (-(n : Int))
  | (n, left) => doubleNode negative n left.length

/-- Of a fraction's digits those count that fit behind the integral ones. -/
def fractional (negative : Bool) (ds fraction : List Char) (power : Int) : Node :=
  let (whole, left) := fitting 0 ds
  let (n, unread) := fitting whole fraction
  doubleNode negative n (power + left.length - (fraction.length - unread.length : Nat))

def exponent : List Char → Except Fault (Option Int × List Char)
  | [] => .ok (none, [])
  | c :: cs =>
    if c == 'e' || c == 'E' then
      let (negative, cs) := Number.sign cs
      match digits cs with
      | ([], rest) => .error (numberFault rest)
      | (ds, rest) =>
        let n : Int := Number.digitsValue ds
        .ok (some (if negative then -n else n), rest)
    else .ok (none, c :: cs)

def fraction : List Char → Except Fault (List Char × List Char)
  | '.' :: cs => match digits cs with
    | ([], rest) => .error (numberFault rest)
    | (ds, rest) => .ok (ds, rest)
  | cs => .ok ([], cs)

/-- The integral digits: a single zero, or digits that start with none. -/
def integral (cs : List Char) : Except Fault (List Char × List Char) :=
  match digits cs with
  | ([], rest) => .error (numberFault rest)
  | (['0'], rest) => .ok (['0'], rest)
  | ('0' :: _, _) => .error (.same .badNumber)
  | (ds, rest) => .ok (ds, rest)

def numberParts (negative : Bool) (cs : List Char) : Except Fault (Node × List Char) := do
  let (before, rest) ← integral cs
  let (after, rest) ← fraction rest
  let (power, rest) ← exponent rest
  match after, power with
  | [], none => return (wholeNumber negative before, rest)
  | _, _ => return (fractional negative before after (power.getD 0), rest)

def number (negative : Bool) (cs : List Char) : Node × List Char :=
  match numberParts negative cs with
  | .ok found => found
  | .error fault => (.broken true fault, [])

/-- Reads the letters of a word whose first letter was seen. -/
def word (value : Node) : List Char → List Char → Node × List Char
  | [], cs => (value, cs)
  | _ :: _, [] => (.broken true (.same .endInValue), [])
  | w :: ws, c :: cs => if w == c then word value ws cs else (.broken true (.same .notWord), [])

/-! ### The tree -/

mutual

def value : Nat → List Char → Node × List Char
  | 0, _ => (.broken false (.same .notValue), [])
  | fuel + 1, cs =>
    match skipBlank cs with
    | [] => (.broken false (.same .endInValue), [])
    | 'n' :: rest => word .null ['u', 'l', 'l'] rest
    | 't' :: rest => word (.bool true) ['r', 'u', 'e'] rest
    | 'f' :: rest => word (.bool false) ['a', 'l', 's', 'e'] rest
    | '"' :: rest =>
      let q := quoted rest
      match q.content, q.skipped with
      | .ok s, _ => (.text s, q.rest)
      | .error e, none => (.unusable e, q.rest)
      | .error e, some skipped => (.broken false ⟨e, skipped⟩, [])
    | '[' :: rest =>
      let (found, ending, rest) := items fuel true rest
      (.list found ending, rest)
    | '\x7b' :: rest =>
      let (found, ending, rest) := members fuel true rest
      (.object found ending, rest)
    | '-' :: rest => number true rest
    | c :: rest => if c.isDigit then number false (c :: rest) else (.broken false (.same .notValue), [])

def items : Nat → Bool → List Char → List Node × Ending × List Char
  | 0, _, _ => ([], .broken (.same .notValue), [])
  | fuel + 1, first, cs =>
    match skipBlank cs with
    | [] => ([], .broken (.same .endInList), [])
    | ']' :: rest => ([], .closed, rest)
    | c :: rest =>
      if first then itemsFrom fuel (c :: rest)
      else if c == ',' then
        match skipBlank rest with
        | [] => ([], .broken (.same .endInValue), [])
        | ']' :: _ => ([], .broken ⟨.trailingComma, .notValue⟩, [])
        | rest => itemsFrom fuel rest
      else ([], .broken (.same .noListEnd), [])

def itemsFrom : Nat → List Char → List Node × Ending × List Char
  | 0, _ => ([], .broken (.same .notValue), [])
  | fuel + 1, cs =>
    match value fuel cs with
    | (.broken scalar fault, _) => ([.broken scalar fault], .closed, [])
    | (item, rest) =>
      let (found, ending, rest) := items fuel false rest
      (item :: found, ending, rest)

def members : Nat → Bool → List Char → List (Except Error String × Node) × Ending × List Char
  | 0, _, _ => ([], .broken (.same .notValue), [])
  | fuel + 1, first, cs =>
    match skipBlank cs with
    | [] => ([], .broken (.same .endInObject), [])
    | '\x7d' :: rest => ([], .closed, rest)
    | c :: rest =>
      if first then
        if c == '"' then membersFrom fuel rest else ([], .broken (.same .keyNotText), [])
      else if c == ',' then
        match skipBlank rest with
        | [] => ([], .broken ⟨.endInValue, .endInObject⟩, [])
        | '"' :: rest => membersFrom fuel rest
        | '\x7d' :: _ => ([], .broken ⟨.trailingComma, .keyNotText⟩, [])
        | _ => ([], .broken (.same .keyNotText), [])
      else ([], .broken (.same .noObjectEnd), [])

def membersFrom : Nat → List Char → List (Except Error String × Node) × Ending × List Char
  | 0, _ => ([], .broken (.same .notValue), [])
  | fuel + 1, cs =>
    let key := quoted cs
    match key.content, key.skipped with
    | .error e, some skipped => ([], .broken ⟨e, skipped⟩, [])
    | content, _ =>
      match skipBlank key.rest with
      | [] => ([(content, .broken false (.same .endInObject))], .closed, [])
      | ':' :: rest =>
        match value fuel rest with
        | (.broken scalar fault, _) => ([(content, .broken scalar fault)], .closed, [])
        | (item, rest) =>
          let (found, ending, rest) := members fuel false rest
          ((content, item) :: found, ending, rest)
      | _ => ([(content, .broken false (.same .noColon))], .closed, [])

end

structure Document where
  root : Node
  trailing : Bool

/-- Every call takes a character or passes on to one that does, so three steps a character suffice. -/
def Document.ofText (text : String) : Document :=
  let cs := text.toList
  let (root, rest) := value (3 * cs.length + 3) cs
  ⟨root, !(skipBlank rest).isEmpty⟩

/-! ### What a reader of the tree is told -/

def Ending.used? : Ending → Option Error
  | .closed => none
  | .broken fault => some fault.used

def Ending.skipped? : Ending → Option Error
  | .closed => none
  | .broken fault => some fault.skipped

mutual

/-- The first fault on the way of a reader that passes over the value. -/
def Node.skipped? : Node → Option Error
  | .broken _ fault => some fault.skipped
  | .list items ending => (skippedItems items).or ending.skipped?
  | .object members ending => (skippedMembers members).or ending.skipped?
  | _ => none

def skippedItems : List Node → Option Error
  | [] => none
  | n :: rest => n.skipped?.or (skippedItems rest)

def skippedMembers : List (Except Error String × Node) → Option Error
  | [] => none
  | (_, n) :: rest => n.skipped?.or (skippedMembers rest)

end

def Node.found : Node → Except Error Found
  | .null => .ok .null
  | .bool b => .ok (.bool b)
  | .integer n => .ok (.integer n)
  | .double x => .ok (.double x)
  | .text s => .ok (.text s)
  | .unusable e => .error e
  | .list _ _ => .ok .list
  | .object _ _ => .ok .object
  | .broken _ fault => .error fault.used

/-- Lists and objects of a text may be nested this deep when they are used. -/
def maxDepth : Nat := 127

mutual

def Node.levels : Node → Nat
  | .list items _ => levelsItems items + 1
  | .object members _ => levelsMembers members + 1
  | _ => 0

def levelsItems : List Node → Nat
  | [] => 0
  | n :: rest => max n.levels (levelsItems rest)

def levelsMembers : List (Except Error String × Node) → Nat
  | [] => 0
  | (_, n) :: rest => max n.levels (levelsMembers rest)

end

mutual

/-- The value of a tree, used in full; `room` more levels may be opened. -/
def Node.value (room : Nat) : Node → Except Error Json
  | .null => .ok .null
  | .bool b => .ok (.bool b)
  | .integer n => .ok (.integer n)
  | .double x => .ok (.double x)
  | .text s => .ok (.text s)
  | .unusable e => .error e
  | .broken _ fault => .error fault.used
  | .list items ending =>
    match room with
    | 0 => .error .tooDeep
    | room + 1 => do
      let found ← valueItems room items
      match ending.used? with
      | some e => .error e
      | none => .ok (.list found)
  | .object members ending =>
    match room with
    | 0 => .error .tooDeep
    | room + 1 => do
      let found ← valueMembers room members
      match ending.used? with
      | some e => .error e
      | none => .ok (.object (Table.ofList found))

def valueItems (room : Nat) : List Node → Except Error (List Json)
  | [] => .ok []
  | n :: rest => do
    let v ← n.value room
    let vs ← valueItems room rest
    return v :: vs

def valueMembers (room : Nat) : List (Except Error String × Node) → Except Error (List (String × Json))
  | [] => .ok []
  | (key, n) :: rest => do
    let k ← key
    let v ← n.value room
    let vs ← valueMembers room rest
    return (k, v) :: vs

end

mutual

def Node.ofJson : Json → Node
  | .null => .null
  | .bool b => .bool b
  | .integer n => .integer n
  | .double x => .double x
  | .text s => .text s
  | .list items => .list (ofItems items) .closed
  | .object members => .object (ofMembers members) .closed

def ofItems : List Json → List Node
  | [] => []
  | v :: rest => Node.ofJson v :: ofItems rest

def ofMembers : List (String × Json) → List (Except Error String × Node)
  | [] => []
  | (key, v) :: rest => (.ok key, Node.ofJson v) :: ofMembers rest

end

def parse (text : String) : Except Error Json := do
  let document := Document.ofText text
  let found ← document.root.value maxDepth
  if document.trailing then .error .trailingCharacters else return found

end Json
end TradingDesk
