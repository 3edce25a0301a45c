/-! A removal in two steps: it is requested, and then confirmed or given up. -/

namespace TradingDesk

inductive Removal where
  | idle
  | pending (id : Int64)
  deriving DecidableEq

namespace Removal

def request (id : Int64) (_ : Removal) : Removal :=
  .pending id

def pending? : Removal → Option Int64
  | .idle => none
  | .pending id => some id

/-- The id to remove; nothing is pending afterwards. -/
def confirm (r : Removal) : Option Int64 × Removal :=
  (r.pending?, .idle)

def cancel (_ : Removal) : Removal :=
  .idle

end Removal
end TradingDesk
