import TradingDesk.Cache.Key
import TradingDesk.Failure
import TradingDesk.Log

/-! Cached answers of the backend, one slot for each key. A slot keeps its last value and its last error
apart; an invalidation marks it stale, raises its generation and lets go of the request under way, so
that the late outcome of that request is never stored. -/

namespace TradingDesk

abbrev Outcome (V : Type) : Type := Except Failure V

inductive QueryState (V : Type) where
  | loading
  | error (text : String)
  | data (value : V)
  deriving DecidableEq

namespace QueryState

def data? : QueryState V → Option V
  | .data v => some v
  | _ => none

def error? : QueryState V → Option String
  | .error text => some text
  | _ => none

def isLoading : QueryState V → Bool
  | .loading => true
  | _ => false

/-- The state of a value's part; a value without it counts as not there. -/
def narrow (part : V → Option W) : QueryState V → QueryState W
  | .loading => .loading
  | .error text => .error text
  | .data v => (part v).elim .loading .data

end QueryState

/-- The request that a slot waits for, and the generation under which it was started. -/
structure Flight where
  id : Nat
  generation : Nat
  deriving DecidableEq

structure Slot (V : Type) where
  data : Option V := none
  error : Option String := none
  fetchedAt : Option Nat := none
  stale : Bool := false
  generation : Nat := 0
  flight : Option Flight := none

/-- `retries` are the attempts after a first failure; `staleAfter` is the age beyond which a value is
asked for again. -/
structure CacheOptions where
  retries : Nat := 0
  staleAfter : Option Nat := none

structure Cache (V : Type) where
  slots : List (Key × Slot V) := []
  options : CacheOptions := {}
  nextRequest : Nat := 0

namespace Slot

variable {V : Type}

/-- The slot after an outcome. An error leaves the value. -/
def settled (s : Slot V) (outcome : Outcome V) (now : Nat) : Slot V :=
  match outcome with
  | .ok v => { s with data := some v, error := none, fetchedAt := some now, stale := false, flight := none }
  | .error e => { s with error := some e.message, flight := none }

/-- The slot waits for this very request under its own generation. -/
def waitsFor (s : Slot V) (id : Nat) : Bool :=
  match s.flight with
  | some flight => flight.id == id && flight.generation == s.generation
  | none => false

def invalidated (s : Slot V) : Slot V :=
  { s with stale := true, generation := s.generation + 1, flight := none }

end Slot

namespace Cache

variable {V : Type}

def slot? (key : Key) (c : Cache V) : Option (Slot V) :=
  c.slots.lookup key

def setSlot (key : Key) (s : Slot V) (c : Cache V) : Cache V :=
  let rec go : List (Key × Slot V) → List (Key × Slot V)
    | [] => [(key, s)]
    | (k, old) :: rest => if k = key then (k, s) :: rest else (k, old) :: go rest
  { c with slots := go c.slots }

def youngEnough (options : CacheOptions) (now : Nat) (s : Slot V) : Bool :=
  match options.staleAfter, s.fetchedAt with
  | some age, some since => now - since ≤ age
  | _, _ => true

/-- The value that answers a fetch without a request; `accepts` tells the caller's type of values. -/
def fresh? (accepts : V → Bool) (now : Nat) (key : Key) (c : Cache V) : Option V := do
  let s ← c.slot? key
  if s.stale || s.error.isSome || !youngEnough c.options now s then none
  else s.data.filter accepts

/-- Joins the request under way for the key, or starts one. The last part tells which. -/
def joinOrStart (key : Key) (c : Cache V) : Cache V × Nat × Bool :=
  let s := (c.slot? key).getD {}
  match s.flight with
  | some flight => (c, flight.id, false)
  | none =>
    let flight : Flight := ⟨c.nextRequest, s.generation⟩
    ({ c.setSlot key { s with flight := some flight } with nextRequest := c.nextRequest + 1 },
      flight.id, true)

def settle (key : Key) (id : Nat) (outcome : Outcome V) (now : Nat) (c : Cache V) : Cache V × List LogLine :=
  match c.slot? key with
  | none => (c, [])
  | some s =>
    if s.waitsFor id then
      let lines := match outcome with
        | .ok _ => []
        | .error e => [LogLine.warn ("fetch failed: " ++ e.message)]
      (c.setSlot key (s.settled outcome now), lines)
    else (c, [])

/-- Invalidates every key below the prefix; the count tells how many there were. -/
def invalidate (start : Key) (c : Cache V) : Cache V × Nat :=
  ({ c with slots := c.slots.map fun (key, s) =>
      (key, if key.startsWith start then s.invalidated else s) },
    (c.slots.filter fun entry => entry.1.startsWith start).length)

/-- After a successful change every key below one of the prefixes is invalidated. The outcome of the change is
handed on. -/
def mutate (outcome : Outcome α) (starts : List Key) (c : Cache V) : Cache V × Outcome α :=
  match outcome with
  | .ok a => (starts.foldl (fun c start => (c.invalidate start).1) c, .ok a)
  | .error e => (c, .error e)

def typeMismatch (key : Key) : String :=
  (Failure.payload ("cached value for '" ++ key.shown ++ "' has an unexpected type")).message

def shownAs (accepts : V → Bool) (key : Key) (v : V) : QueryState V :=
  if accepts v then .data v else .error (typeMismatch key)

def state (accepts : V → Bool) (key : Key) (c : Cache V) : QueryState V :=
  match c.slot? key with
  | none => .loading
  | some s =>
    match s.error, s.data with
    | some text, _ => .error text
    | none, some v => shownAs accepts key v
    | none, none => .loading

def lastData (accepts : V → Bool) (key : Key) (c : Cache V) : Option V := do
  let s ← c.slot? key
  s.data.filter accepts

def isFetching (key : Key) (c : Cache V) : Bool :=
  match c.slot? key with
  | some s => s.flight.isSome
  | none => false

def answerOf (accepts : V → Bool) (key : Key) : Outcome V → QueryState V
  | .ok v => shownAs accepts key v
  | .error e => .error e.message

end Cache
end TradingDesk
