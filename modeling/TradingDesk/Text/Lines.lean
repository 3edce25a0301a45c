/-! Lines of a text. -/

namespace TradingDesk
namespace Text

/-- Each line ends at a line feed; what follows the last one is a line if there is something. -/
def linesOf : List Char → List (List Char)
  | [] => []
  | c :: cs =>
    if c = '\n' then [] :: linesOf cs
    else match linesOf cs with
      | [] => [[c]]
      | line :: rest => (c :: line) :: rest

def lines (text : String) : List String :=
  (linesOf text.toList).map String.ofList

end Text
end TradingDesk
