import TradingDesk.Cache.Traffic

/-! A poller asks for a key again and again and publishes what it sees. Its first tick may be answered
by a cached value, every later one asks. A tick that comes more than five milliseconds late moves
the following ones. -/

namespace TradingDesk

/-- `deadline` is the time of the next tick, unknown until the poller first runs. -/
structure Poller (V : Type) where
  key : Key
  period : Nat
  accepts : V → Bool
  deadline : Option Nat := none
  first : Bool := true
  waiting : Bool := false
  published : QueryState V
  unseen : Bool := false

namespace Poller

variable {V : Type}

def callerName : String := "poller"

def new (accepts : V → Bool) (key : Key) (period : Nat) (c : Cache V) : Poller V :=
  { key, period, accepts, published := c.state accepts key }

def publish (state : QueryState V) (p : Poller V) : Poller V :=
  { p with published := state, unseen := true, waiting := false }

/-- The tick after one that was due at `deadline` and came at `now`. -/
def nextDeadline (period deadline now : Nat) : Nat :=
  if deadline + 5 < now then now + period else deadline + period

def told (polled : Traffic.Polled V) (p : Poller V) : Poller V :=
  match polled.state with
  | some state => p.publish state
  | none => { p with waiting := true }

/-- The poller goes on as far as it can at this moment: it looks at its request, or ticks when a tick is
due. `none` when there is nothing to do. -/
def advance (world : Traffic.World V) (now : Nat) (p : Poller V) (t : Traffic V) :
    Option (Poller V × Traffic V × List LogLine) :=
  if p.waiting then
    match t.poll world now callerName with
    | some (t, polled) => if polled.state.isSome then some (p.told polled, t, polled.lines)
        else some (p, t, polled.lines)
    | none => none
  else
    let deadline := p.deadline.getD now
    if now < deadline then none
    else
      let mode := if p.first then FetchMode.fetch else .refetch
      let (t, polled) := t.start world now callerName mode p.accepts p.key
      let p := { p with first := false, deadline := some (nextDeadline p.period deadline now) }
      some (p.told polled, t, polled.lines)

end Poller
end TradingDesk
