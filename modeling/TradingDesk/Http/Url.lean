import TradingDesk.Text.Blank

/-! Addresses of resources. A text is read as browsers read it: blanks around it and line ends inside it are
dropped, a backslash counts as a slash, dot segments are resolved, and characters that cannot stand
in an address are written as percent codes. -/

namespace TradingDesk

/-- `host` is the authority as it was written. -/
structure Url where
  scheme : String
  host : String
  path : String
  query : Option String := none
  fragment : Option String := none
  deriving DecidableEq, Repr

namespace Url

def hexDigit (n : Nat) : Char :=
  if n < 10 then Char.ofNat (48 + n) else Char.ofNat (55 + n)

def percentByte (b : UInt8) : List Char :=
  ['%', hexDigit (b.toNat / 16), hexDigit (b.toNat % 16)]

def percentChar (c : Char) : List Char :=
  (String.singleton c).toUTF8.toList.flatMap percentByte

/-- Control characters and everything beyond ASCII are always encoded. -/
def encode (reserved : List Char) (cs : List Char) : List Char :=
  cs.flatMap fun c =>
    if c.toNat < 0x20 || 0x7F ≤ c.toNat || reserved.contains c then percentChar c else [c]

def fragmentReserved : List Char := [' ', '"', '<', '>', '\x60']
def pathReserved : List Char := fragmentReserved ++ ['#', '?', '\x7b', '\x7d']
def queryReserved : List Char := [' ', '"', '#', '<', '>', '\'']

def isSlash (c : Char) : Bool :=
  c == '/' || c == '\\'

def splitOn (separates : Char → Bool) : List Char → List (List Char)
  | [] => [[]]
  | c :: rest =>
    if separates c then [] :: splitOn separates rest
    else match splitOn separates rest with
      | part :: parts => (c :: part) :: parts
      | [] => [[c]]

/-- How many dots a segment stands for, if it is made of dots only. A dot may be written as a code. -/
def dots : List Char → Option Nat
  | [] => some 0
  | '.' :: rest => (dots rest).map (· + 1)
  | '%' :: '2' :: c :: rest => if c == 'e' || c == 'E' then (dots rest).map (· + 1) else none
  | _ => none

/-- Resolves dot segments. A dot segment at the end leaves an empty segment. -/
def resolveDots : List (List Char) → List (List Char) → List (List Char)
  | done, [] => done
  | done, segment :: rest =>
    let ends := fun (l : List (List Char)) => if rest.isEmpty then l ++ [[]] else l
    match dots segment with
    | some 2 => resolveDots (ends done.dropLast) rest
    | some 1 => resolveDots (ends done) rest
    | _ => resolveDots (done ++ [encode pathReserved segment]) rest

def normalPath (cs : List Char) : List Char :=
  let cs := match cs with
    | c :: rest => if isSlash c then rest else c :: rest
    | [] => []
  (resolveDots [] (splitOn isSlash cs)).flatMap fun segment => '/' :: segment

def trimInput (cs : List Char) : List Char :=
  let drop := fun (l : List Char) => l.dropWhile fun c => c.toNat ≤ 0x20
  ((drop (drop cs).reverse).reverse).filter fun c => c != '\t' && c != '\n' && c != '\r'

/-- Letters, digits, dots, hyphens and underscores, and at most a number behind a colon. -/
def isAuthority (cs : List Char) : Bool :=
  let name := cs.takeWhile (· != ':')
  let number := (cs.dropWhile (· != ':')).drop 1
  !name.isEmpty && name.all (fun c => c.isAlphanum || c == '.' || c == '-' || c == '_') &&
    number.all Char.isDigit && number.length ≤ 5

def ofRest (scheme : String) (cs : List Char) : Option Url :=
  let cs := cs.dropWhile isSlash
  let host := cs.takeWhile fun c => !(isSlash c || c == '?' || c == '#')
  let rest := cs.drop host.length
  let whole := rest.takeWhile (· != '#')
  let path := whole.takeWhile (· != '?')
  let query := match whole.drop path.length with
    | [] => none
    | _ :: q => some (String.ofList (encode queryReserved q))
  let fragment := match rest.drop whole.length with
    | [] => none
    | _ :: f => some (String.ofList (encode fragmentReserved f))
  if isAuthority host then
    some ⟨scheme, String.ofList host, String.ofList (normalPath path), query, fragment⟩
  else none

def ofText (text : String) : Option Url :=
  let cs := trimInput text.toList
  let scheme := String.ofList ((cs.takeWhile (· != ':')).map Char.toLower)
  if scheme == "http" || scheme == "https" then ofRest scheme (cs.drop (scheme.length + 1)) else none

def target (u : Url) : String :=
  u.path ++ (u.query.elim "" ("?" ++ ·))

def text (u : Url) : String :=
  u.scheme ++ "://" ++ u.host ++ u.target ++ (u.fragment.elim "" ("#" ++ ·))

/-- One text of a form: letters, digits and four marks stay, a blank becomes a plus. -/
def formText (s : String) : List Char :=
  s.toList.flatMap fun c =>
    if c == ' ' then ['+']
    else if c.isAlphanum || ['*', '-', '.', '_'].contains c then [c]
    else percentChar c

def form (pairs : List (String × String)) : String :=
  let pair := fun (p : String × String) => String.ofList (formText p.1 ++ '=' :: formText p.2)
  String.intercalate "&" (pairs.map pair)

/-- The address with more query pairs. An empty query vanishes. -/
def withPairs (pairs : List (String × String)) (u : Url) : Url :=
  let all := (u.query.toList.filter (· != "")) ++ (if pairs.isEmpty then [] else [form pairs])
  { u with query := if all.isEmpty then none else some (String.intercalate "&" all) }

def inReference (c : Char) : Bool :=
  c.isAlphanum || "-._~:/?#@!$&'()*+,;=%".toList.contains c

def hasScheme (cs : List Char) : Bool :=
  let name := cs.takeWhile fun c => c.isAlphanum || c == '+' || c == '-' || c == '.'
  (name.head?.elim false Char.isAlpha) && (cs.drop name.length).head? == some ':'

/-- The address that a reference stands for when it is found at this address. -/
def resolve? (reference : String) (u : Url) : Option Url :=
  let cs := reference.toList
  let here := u.scheme ++ "://" ++ u.host
  if !cs.all inReference then none
  else if hasScheme cs then ofText reference
  else match cs with
    | '/' :: '/' :: _ => ofText (u.scheme ++ ":" ++ reference)
    | '/' :: _ => ofText (here ++ reference)
    | [] => some { u with fragment := none }
    | '#' :: _ => ofText (here ++ u.target ++ reference)
    | '?' :: _ => ofText (here ++ u.path ++ reference)
    | _ =>
      let folder := (u.path.toList.reverse.dropWhile (· != '/')).reverse
      ofText (here ++ String.ofList folder ++ reference)

end Url
end TradingDesk
