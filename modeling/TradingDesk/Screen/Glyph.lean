import TradingDesk.Text.Blank
import TradingDesk.Text.Width

/-! What a screen shows: cells with a colour each, and the glyphs that are put into them. -/

namespace TradingDesk
namespace Screen

inductive Color where
  | black
  | white
  | gray
  | darkGray
  | red
  | green
  | yellow
  | blue
  | cyan
  | rgb (red green blue : Nat)
  deriving DecidableEq, Repr

/-- Where there is no colour, the terminal's own is taken. -/
structure Style where
  foreground : Option Color := none
  background : Option Color := none
  bold : Bool := false
  deriving DecidableEq, Repr

namespace Style

def plain : Style := {}
def ofColor (c : Color) : Style := { foreground := some c }
def boldOf (c : Color) : Style := { foreground := some c, bold := true }

end Style

structure Cell where
  symbol : String := " "
  style : Style := .plain
  deriving DecidableEq, Repr

structure Span where
  text : String
  style : Style := .plain

structure Glyph where
  symbol : List Char
  width : Nat
  style : Style

namespace Glyph

def noBreakSpace : Char := '\u00a0'

def isBlank (g : Glyph) : Bool :=
  g.symbol.all Text.isBlank && g.symbol != [noBreakSpace]

/-- Line feeds are left out. -/
def ofSpan (s : Span) : List Glyph :=
  ((Text.clusters s.text.toList).filter (· != ['\n'])).map fun c => ⟨c, Text.clusterWidth c, s.style⟩

def ofSpans (spans : List Span) : List Glyph :=
  spans.flatMap ofSpan

def widthOf (gs : List Glyph) : Nat :=
  (gs.map Glyph.width).foldl (· + ·) 0

/-- The cells of a glyph: its symbol, and blank cells behind a wide one. -/
def cells (g : Glyph) : List Cell :=
  match g.width with
  | 0 => []
  | n + 1 => { symbol := String.ofList g.symbol, style := g.style } :: List.replicate n {}

/-- The first glyphs, as long as the next one fits. -/
def fitting (room : Nat) : List Glyph → List Glyph
  | [] => []
  | g :: gs => if g.width ≤ room then g :: fitting (room - g.width) gs else []

end Glyph
end Screen
end TradingDesk
