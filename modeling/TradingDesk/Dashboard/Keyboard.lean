/-! The keys of the dashboard. While a removal waits to be confirmed, only the answers to it and the
interrupt count. -/

namespace TradingDesk
namespace Keyboard

inductive Stroke where
  | letter (c : Char)
  | left
  | right
  | tab
  | backTab
  | escape
  | other
  deriving DecidableEq, Repr

/-- What the terminal reports. Only a key that goes down counts, not its release or repetition. -/
inductive Input where
  | key (stroke : Stroke) (control : Bool) (down : Bool)
  | other
  deriving DecidableEq, Repr

inductive Action where
  | quit
  | retry
  | toggleTheme
  | cycleAssetClass
  | nextPortfolio
  | previousPortfolio
  | requestRemoval
  | confirmRemoval
  | cancelRemoval
  | dismissToast
  deriving DecidableEq, Repr

def answering : Stroke → Option Action
  | .letter 'y' | .letter 'Y' => some .confirmRemoval
  | .letter 'n' | .letter 'N' | .escape => some .cancelRemoval
  | _ => none

def browsing : Stroke → Option Action
  | .letter 'q' | .letter 'Q' => some .quit
  | .letter 'r' => some .retry
  | .letter 't' => some .toggleTheme
  | .letter 'a' => some .cycleAssetClass
  | .right | .tab | .letter 'l' => some .nextPortfolio
  | .left | .backTab | .letter 'h' => some .previousPortfolio
  | .letter 'd' => some .requestRemoval
  | .letter 'x' => some .dismissToast
  | _ => none

def action? (confirming : Bool) : Input → Option Action
  | .key stroke control true =>
    if stroke = .letter 'c' && control then some .quit
    else if confirming then answering stroke
    else browsing stroke
  | _ => none

end Keyboard
end TradingDesk
