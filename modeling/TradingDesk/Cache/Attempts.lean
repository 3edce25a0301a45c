import TradingDesk.Cache.State

/-! One request of the cache and its retries. The fetcher is asked again after a failure, as often as
the options allow; it is never asked while an answer is still out, and never after the outcome. -/

namespace TradingDesk

/-- `calls` counts how often the fetcher was asked; `asked` is the time of the call still out. -/
structure Attempts (V : Type) where
  attempt : Nat := 0
  calls : Nat := 0
  asked : Option Nat := none
  outcome : Option (Outcome V) := none

namespace Attempts

variable {V : Type}

def retryLine (e : Failure) : LogLine :=
  .warn ("fetch failed – retrying: " ++ e.message)

/-- Drives the request as far as answers are there. `ready n since` is the answer to call `n`, made at
`since`, when it has come. -/
def drive (retries : Nat) (ready : Nat → Nat → Option (Outcome V)) (now : Nat) (r : Attempts V) :
    Attempts V × List LogLine :=
  match r.outcome with
  | some _ => (r, [])
  | none =>
    let since := r.asked.getD now
    let calls := if r.asked.isSome then r.calls else r.calls + 1
    match ready (calls - 1) since with
    | none => ({ r with calls := calls, asked := some since }, [])
    | some (.ok v) => ({ r with calls := calls, asked := none, outcome := some (.ok v) }, [])
    | some (.error e) =>
      if r.attempt < retries then
        let next := { r with attempt := r.attempt + 1, calls := calls, asked := none }
        let (done, lines) := drive retries ready now next
        (done, retryLine e :: lines)
      else ({ r with calls := calls, asked := none, outcome := some (.error e) }, [])
termination_by retries - r.attempt

end Attempts
end TradingDesk
