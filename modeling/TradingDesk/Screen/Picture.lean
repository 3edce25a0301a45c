import TradingDesk.Screen.Wrapped

/-! Pictures of a given width and height, put together from lines of text, frames and other pictures. What
does not fit is cut off. -/

namespace TradingDesk
namespace Screen

abbrev Picture := List (List Cell)

namespace Picture

/-- Exactly `width` cells, cut or filled up. -/
def row (width : Nat) (filler : Cell) (cells : List Cell) : List Cell :=
  cells.take width ++ List.replicate (width - cells.length) filler

def rowOf (width : Nat) (gs : List Glyph) : List Cell :=
  row width {} ((Glyph.fitting width gs).flatMap Glyph.cells)

def line (width : Nat) (spans : List Span) : List Cell :=
  rowOf width (Glyph.ofSpans spans)

/-- A text in a field that has its style. -/
def field (width : Nat) (s : Span) : List Cell :=
  row width { style := s.style } ((Glyph.fitting width (Glyph.ofSpan s)).flatMap Glyph.cells)

def paragraph (width : Nat) (lines : List (List Span)) : Picture :=
  (lines.flatMap fun spans => wrapped width (Glyph.ofSpans spans)).map fun gs =>
    row width {} (gs.flatMap Glyph.cells)

/-- Exactly `height` rows, cut or filled up. -/
def tall (width height : Nat) (rows : Picture) : Picture :=
  rows.take height ++ List.replicate (height - rows.length) (row width {} [])

def beside (left right : Picture) : Picture :=
  List.zipWith (· ++ ·) left right

def stroke (symbol : String) : Cell := { symbol }

def upperEdge (width : Nat) (title : String) : List Cell :=
  let named := (Glyph.fitting width (Glyph.ofSpan { text := title })).flatMap Glyph.cells
  stroke "┌" :: row width (stroke "─") named ++ [stroke "┐"]

def lowerEdge (width : Nat) : List Cell :=
  stroke "└" :: row width (stroke "─") [] ++ [stroke "┘"]

/-- A frame with a title; `inner` is given the room within it. -/
def framed (title : String) (width height : Nat) (inner : Nat → Nat → Picture) : Picture :=
  let w := width - 2
  let h := height - 2
  let walled := (tall w h (inner w h)).map fun cells => stroke "│" :: cells ++ [stroke "│"]
  (upperEdge w title :: walled ++ [lowerEdge w]).take height

/-- `n` shares of a whole, each boundary at the nearest place. -/
def shares (n whole : Nat) : List Nat :=
  (List.range n).map fun i => ((i + 1) * whole + n / 2) / n - (i * whole + n / 2) / n

end Picture
end Screen
end TradingDesk
