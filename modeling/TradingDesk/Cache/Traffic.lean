import TradingDesk.Cache.Attempts

/-! A cache with its callers and the requests they share. Whichever caller is polled drives the request;
the first that sees it finished settles the slot. A caller that is dropped leaves its request to the
others. -/

namespace TradingDesk

inductive FetchMode where
  | fetch
  | refetch
  deriving DecidableEq

structure Caller (V : Type) where
  key : Key
  request : Nat
  accepts : V → Bool

structure Traffic (V : Type) where
  cache : Cache V := {}
  requests : List (Nat × Attempts V) := []
  callers : List (String × Caller V) := []

namespace Traffic

variable {V : Type}

/-- The answers that have come: `world id n since` is the answer to call `n` of request `id`. -/
abbrev World (V : Type) : Type := Nat → Nat → Nat → Option (Outcome V)

def request (id : Nat) (t : Traffic V) : Attempts V :=
  (t.requests.lookup id).getD {}

def setRequest (id : Nat) (r : Attempts V) (t : Traffic V) : Traffic V :=
  { t with requests := (id, r) :: t.requests.filter fun entry => entry.1 != id }

def drop (name : String) (t : Traffic V) : Traffic V :=
  { t with callers := t.callers.filter fun entry => entry.1 != name }

/-- What a poll shows: the state, when the request is finished, and the log. -/
structure Polled (V : Type) where
  state : Option (QueryState V)
  lines : List LogLine

def pollCaller (world : World V) (now : Nat) (name : String) (caller : Caller V) (t : Traffic V) :
    Traffic V × Polled V :=
  let (r, retried) :=
    (t.request caller.request).drive t.cache.options.retries (world caller.request) now
  let t := t.setRequest caller.request r
  match r.outcome with
  | none => (t, ⟨none, retried⟩)
  | some outcome =>
    let (cache, lines) := t.cache.settle caller.key caller.request outcome now
    let t := { t with cache := cache }.drop name
    (t, ⟨some (Cache.answerOf caller.accepts caller.key outcome), retried ++ lines⟩)

def poll (world : World V) (now : Nat) (name : String) (t : Traffic V) :
    Option (Traffic V × Polled V) :=
  (t.callers.lookup name).map fun caller => t.pollCaller world now name caller

/-- A caller starts and is polled once. A fetch of a fresh value needs no request. -/
def start (world : World V) (now : Nat) (name : String) (mode : FetchMode) (accepts : V → Bool)
    (key : Key) (t : Traffic V) : Traffic V × Polled V :=
  let hit := if mode = .fetch then t.cache.fresh? accepts now key else none
  match hit with
  | some v => (t, ⟨some (.data v), []⟩)
  | none =>
    let (cache, id, _) := t.cache.joinOrStart key
    let caller : Caller V := ⟨key, id, accepts⟩
    let t := { (t.drop name) with cache := cache }
    { t with callers := (name, caller) :: t.callers }.pollCaller world now name caller

def asked (before after : Traffic V) : List (Nat × Nat) :=
  after.requests.filterMap fun (id, r) =>
    let n := r.calls - (before.request id).calls
    if n = 0 then none else some (id, n)

end Traffic
end TradingDesk
