import TradingDesk.Json.Basic

/-! JSON text, in one line or spread over lines. A double without a finite value is written as null. -/

namespace TradingDesk
namespace Json

def hexDigit (n : Nat) : Char :=
  (Nat.digitChar n)

def escaped (c : Char) : List Char :=
  match c with
  | '"' => ['\\', '"']
  | '\\' => ['\\', '\\']
  | '\n' => ['\\', 'n']
  | '\r' => ['\\', 'r']
  | '\t' => ['\\', 't']
  | '\x08' => ['\\', 'b']
  | '\x0c' => ['\\', 'f']
  | c =>
    if c.toNat < 0x20 then
      ['\\', 'u', '0', '0', hexDigit (c.toNat / 16), hexDigit (c.toNat % 16)]
    else [c]

def writtenText (s : String) : String :=
  String.ofList ('"' :: s.toList.flatMap escaped ++ ['"'])

def scalar : Json → String
  | .null => "null"
  | .bool b => toString b
  | .integer n => toString n
  | .double x => (Number.member? x).getD "null"
  | .text s => writtenText s
  | .list _ => "[]"
  | .object _ => "\x7b\x7d"

mutual

def write : Json → String
  | .list items => "[" ++ String.intercalate "," (writeItems items) ++ "]"
  | .object members => "\x7b" ++ String.intercalate "," (writeMembers members) ++ "\x7d"
  | v => scalar v

def writeItems : List Json → List String
  | [] => []
  | v :: rest => write v :: writeItems rest

def writeMembers : List (String × Json) → List String
  | [] => []
  | (key, v) :: rest => (writtenText key ++ ":" ++ write v) :: writeMembers rest

end

def indent (depth : Nat) : String :=
  String.ofList (List.replicate (2 * depth) ' ')

def spread (depth : Nat) (opening closing : String) (parts : List String) : String :=
  if parts.isEmpty then opening ++ closing
  else
    let lines := parts.map (indent (depth + 1) ++ ·)
    opening ++ "\n" ++ String.intercalate ",\n" lines ++ "\n" ++ indent depth ++ closing

mutual

/-- Every item and member on a line of its own, two blanks deeper than its parent. -/
def pretty (depth : Nat) : Json → String
  | .list items => spread depth "[" "]" (prettyItems (depth + 1) items)
  | .object members => spread depth "\x7b" "\x7d" (prettyMembers (depth + 1) members)
  | v => scalar v

def prettyItems (depth : Nat) : List Json → List String
  | [] => []
  | v :: rest => pretty depth v :: prettyItems depth rest

def prettyMembers (depth : Nat) : List (String × Json) → List String
  | [] => []
  | (key, v) :: rest => (writtenText key ++ ": " ++ pretty depth v) :: prettyMembers depth rest

end

end Json
end TradingDesk
