import TradingDesk.Screen.Glyph

/-! Text that is broken into lines between its words. Blanks at the end of a line go with it, those at the
beginning of a line are left out, and a word that is longer than a line is broken. -/

namespace TradingDesk
namespace Screen

/-- How far a text has been broken: the lines that are full, the line that is being filled, and the blanks
and the part of a word that are not on it yet. -/
structure Wrapping where
  done : List (List Glyph) := []
  line : List Glyph := []
  blanks : List Glyph := []
  word : List Glyph := []
  afterWord : Bool := false

namespace Wrapping

open Glyph

def placeWord (w : Wrapping) : Wrapping :=
  { w with
    line := if w.line.isEmpty then w.word else w.line ++ w.blanks ++ w.word
    blanks := []
    word := [] }

/-- The word is complete, or it fills a line of its own. -/
def wordEnds (width : Nat) (g : Glyph) (w : Wrapping) : Bool :=
  (w.afterWord && g.isBlank) ||
    (w.line.isEmpty && (width < widthOf w.word + g.width || width < widthOf w.blanks + g.width))

def lineEnds (width : Nat) (g : Glyph) (w : Wrapping) : Bool :=
  width ≤ widthOf w.line ||
    (width ≤ widthOf w.line + widthOf w.blanks + widthOf w.word && 0 < g.width)

/-- Drops the blanks that fit into the room, and the one behind them. The answer is what is left, if
there was one that did not fit. -/
def blanksBeyond (room : Nat) : List Glyph → Option (List Glyph)
  | [] => none
  | b :: bs => if room < b.width then some bs else blanksBeyond (room - b.width) bs

def push (g : Glyph) (w : Wrapping) : Wrapping :=
  if g.isBlank then { w with blanks := w.blanks ++ [g], afterWord := false }
  else { w with word := w.word ++ [g], afterWord := true }

/-- Begins a new line. A blank right behind a full line is left out. -/
def endLine (width : Nat) (g : Glyph) (w : Wrapping) : Wrapping :=
  let left := blanksBeyond (width - widthOf w.line) w.blanks
  let next := { w with done := w.done ++ [w.line], line := [], blanks := left.getD [] }
  if g.isBlank && left.isNone then next else next.push g

def step (width : Nat) (w : Wrapping) (g : Glyph) : Wrapping :=
  if width < g.width then w
  else
    let w := if w.wordEnds width g then w.placeWord else w
    if w.lineEnds width g then w.endLine width g else w.push g

def finish (w : Wrapping) : List (List Glyph) :=
  let done := if w.line.isEmpty && w.word.isEmpty && !w.blanks.isEmpty then w.done ++ [[]] else w.done
  let last := if w.line.isEmpty then w.word else w.line ++ w.blanks ++ w.word
  let lines := if last.isEmpty then done else done ++ [last]
  if lines.isEmpty then [[]] else lines

end Wrapping

def wrapped (width : Nat) (gs : List Glyph) : List (List Glyph) :=
  (gs.foldl (Wrapping.step width) {}).finish

end Screen
end TradingDesk
