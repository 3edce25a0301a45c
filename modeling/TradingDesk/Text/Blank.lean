/-! Blank characters, trimming and padding. -/

namespace TradingDesk
namespace Text

/-- The twenty-five characters with the property White_Space. -/
def isBlank (c : Char) : Bool :=
  let n := c.toNat
  (9 ≤ n && n ≤ 13) || n == 0x20 || n == 0x85 || n == 0xA0 || n == 0x1680 ||
    (0x2000 ≤ n && n ≤ 0x200A) || n == 0x2028 || n == 0x2029 || n == 0x202F || n == 0x205F ||
    n == 0x3000

def trimLeftChars (cs : List Char) : List Char :=
  cs.dropWhile isBlank

def trimRightChars (cs : List Char) : List Char :=
  (cs.reverse.dropWhile isBlank).reverse

def trimChars (cs : List Char) : List Char :=
  trimRightChars (trimLeftChars cs)

def trim (text : String) : String :=
  String.ofList (trimChars text.toList)

def isBlankText (text : String) : Bool :=
  text.toList.all isBlank

/-- Lower case of the letters A to Z; the names compared with it hold no other letters. -/
def lowerAscii (text : String) : String :=
  String.ofList (text.toList.map Char.toLower)

def blanks (n : Nat) : String :=
  String.ofList (List.replicate n ' ')

def padRight (width : Nat) (text : String) : String :=
  text ++ blanks (width - text.length)

def padLeft (width : Nat) (text : String) : String :=
  blanks (width - text.length) ++ text

/-- Filled up on both sides; the odd blank goes to the right. -/
def padBoth (width : Nat) (text : String) : String :=
  let room := width - text.length
  blanks (room / 2) ++ text ++ blanks (room - room / 2)

end Text
end TradingDesk
