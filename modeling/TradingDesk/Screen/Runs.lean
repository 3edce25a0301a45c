import TradingDesk.Screen.Picture

/-! What a picture shows, as text and as runs of cells of one style. -/

namespace TradingDesk
namespace Screen

namespace Color

def name : Color → String
  | .black => "Black"
  | .white => "White"
  | .gray => "Gray"
  | .darkGray => "DarkGray"
  | .red => "Red"
  | .green => "Green"
  | .yellow => "Yellow"
  | .blue => "Blue"
  | .cyan => "Cyan"
  | .rgb r g b => "Rgb(" ++ toString r ++ ", " ++ toString g ++ ", " ++ toString b ++ ")"

end Color

namespace Picture

def shownText (cells : List Cell) : String :=
  let symbols := (String.join (cells.map Cell.symbol)).toList
  String.ofList (symbols.reverse.dropWhile (· == ' ')).reverse

/-- The runs of equal style of a row, each with its place and its cells. -/
def runs (place : Nat) : List Cell → List (Nat × List Cell × Style)
  | [] => []
  | c :: cs =>
    match runs (place + 1) cs with
    | (next, run, s) :: rest =>
      if s = c.style then (place, c :: run, s) :: rest else (place, [c], c.style) :: (next, run, s) :: rest
    | [] => [(place, [c], c.style)]

end Picture
end Screen
end TradingDesk
