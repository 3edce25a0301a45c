import Mathlib.Logic.Function.Basic
import TradingDesk.Proofs.Cache.Tally

/-! Many visitors of one cache. Looking at the slot, joining a request, polling it and bringing its outcome to
the slot are moves of their own, so that any other move may come between two of them. -/

namespace TradingDesk
open History

/-- Where a visitor stands between two of its moves. The `source` of an answer is the request whose outcome it
shows. -/
inductive Stand (V : Type) where
  | looking
  | joining
  | waiting (request : Nat)
  | settling (request : Nat) (outcome : Outcome V)
  | answered (source : Option Nat) (state : QueryState V)
  | gone

/-- The request that a visitor waits for, brings the outcome of, or was answered by. -/
def Stand.request? {V : Type} : Stand V → Option Nat
  | .waiting request => some request
  | .settling request _ => some request
  | .answered source _ => source
  | _ => none

/-- A call of `fetch` or `refetch` that was begun; `accepts` tells its type of values. -/
structure Visitor (V : Type) where
  key : Key
  accepts : V → Bool
  stand : Stand V

/-- The mutations keep the prefixes that they have still to invalidate. -/
structure Crowd (V : Type) where
  cache : Cache V := {}
  requests : Nat → Attempts V := fun _ => {}
  visitors : List (Visitor V) := []
  mutations : List (List Key) := []
  history : History V := []

/-- `advance` is the next move of a visitor; `ready` are the answers that have come to its request by then. -/
inductive Move (V : Type) where
  | call (mode : FetchMode) (accepts : V → Bool) (key : Key)
  | advance (visitor : Nat) (now : Nat) (ready : Nat → Nat → Option (Outcome V))
  | drop (visitor : Nat)
  | invalidate (start : Key)
  | mutate (outcome : Outcome Unit) (starts : List Key)
  | mutateNext (mutation : Nat)

namespace Crowd

variable {V : Type}

def put (i : Nat) (v : Visitor V) (stand : Stand V) (c : Crowd V) : Crowd V :=
  { c with visitors := c.visitors.set i { v with stand := stand } }

def invalidated (start : Key) (c : Crowd V) : Crowd V :=
  { c with cache := (c.cache.invalidate start).1, history := .invalidated start :: c.history }

/-- The request whose outcome was the last one settled for a key. -/
def lastSource (key : Key) (c : Crowd V) : Option Nat :=
  (settlements key c.history).head?.map Settlement.request

def afterPoll (request : Nat) (attempts : Attempts V) : Stand V :=
  match attempts.outcome with
  | some outcome => .settling request outcome
  | none => .waiting request

def advance (i : Nat) (v : Visitor V) (now : Nat) (ready : Nat → Nat → Option (Outcome V)) (c : Crowd V) :
    Crowd V :=
  match v.stand with
  | .looking =>
    match c.cache.fresh? v.accepts now v.key with
    | some value =>
      { c.put i v (.answered (c.lastSource v.key) (.data value)) with
        history := .hit i v.key (c.lastSource v.key) :: c.history }
    | none => c.put i v .joining
  | .joining =>
    let (cache, request, isNew) := c.cache.joinOrStart v.key
    { c.put i v (.waiting request) with
      cache := cache, history := .joined i v.key request isNew :: c.history }
  | .waiting request =>
    let (attempts, _) := (c.requests request).drive c.cache.options.retries ready now
    { c.put i v (afterPoll request attempts) with requests := Function.update c.requests request attempts }
  | .settling request outcome =>
    { c.put i v (.answered (some request) (Cache.answerOf v.accepts v.key outcome)) with
      cache := (c.cache.settle v.key request outcome now).1
      history := .seen v.key request outcome now :: c.history }
  | .answered _ _ => c
  | .gone => c

def leave (i : Nat) (v : Visitor V) (c : Crowd V) : Crowd V :=
  match v.stand with
  | .answered _ _ => c
  | _ => c.put i v .gone

def step (c : Crowd V) : Move V → Crowd V
  | .call mode accepts key =>
    { c with
      visitors := c.visitors ++ [⟨key, accepts, if mode = .fetch then .looking else .joining⟩]
      history := .called c.visitors.length key :: c.history }
  | .advance i now ready =>
    match c.visitors[i]? with
    | some v => c.advance i v now ready
    | none => c
  | .drop i =>
    match c.visitors[i]? with
    | some v => c.leave i v
    | none => c
  | .invalidate start => c.invalidated start
  | .mutate (.ok _) starts => { c with mutations := c.mutations ++ [starts] }
  | .mutate (.error _) _ => c
  | .mutateNext n =>
    match c.mutations[n]? with
    | some (start :: rest) => { c.invalidated start with mutations := c.mutations.set n rest }
    | _ => c

def steps (moves : List (Move V)) (c : Crowd V) : Crowd V :=
  moves.foldl step c

def run (options : CacheOptions) (moves : List (Move V)) : Crowd V :=
  steps moves { cache := { options } }

theorem step_advance (c : Crowd V) (i now : Nat) (v : Visitor V) (ready : Nat → Nat → Option (Outcome V))
    (here : c.visitors[i]? = some v) : c.step (.advance i now ready) = c.advance i v now ready := by
  simp only [step, here]

theorem put_visitor (c : Crowd V) (i : Nat) (v : Visitor V) (stand : Stand V) (here : c.visitors[i]? = some v) :
    (c.put i v stand).visitors[i]? = some { v with stand := stand } := by
  have inside : i < c.visitors.length := (List.getElem?_eq_some_iff.mp here).1
  simp [put, inside]

theorem put_other (c : Crowd V) (i j : Nat) (v : Visitor V) (stand : Stand V) (differ : j ≠ i) :
    (c.put i v stand).visitors[j]? = c.visitors[j]? := by
  simp [put, Ne.symm differ]

/-! What a move can do. -/

inductive Moved (c : Crowd V) : Crowd V → Prop where
  | rest : Moved c c
  | called (key : Key) (accepts : V → Bool) (stand : Stand V) (begun : stand = .looking ∨ stand = .joining) :
    Moved c { c with
      visitors := c.visitors ++ [⟨key, accepts, stand⟩]
      history := .called c.visitors.length key :: c.history }
  | hit (i : Nat) (v : Visitor V) (now : Nat) (value : V) (here : c.visitors[i]? = some v)
    (stands : v.stand = .looking) (fresh : c.cache.fresh? v.accepts now v.key = some value) :
    Moved c { c.put i v (.answered (c.lastSource v.key) (.data value)) with
      history := .hit i v.key (c.lastSource v.key) :: c.history }
  | missed (i : Nat) (v : Visitor V) (here : c.visitors[i]? = some v) (stands : v.stand = .looking) :
    Moved c (c.put i v .joining)
  | joined (i : Nat) (v : Visitor V) (flight : Flight) (here : c.visitors[i]? = some v)
    (stands : v.stand = .joining) (under : (c.cache.slotAt v.key).flight = some flight) :
    Moved c { c.put i v (.waiting flight.id) with
      history := .joined i v.key flight.id false :: c.history }
  | started (i : Nat) (v : Visitor V) (here : c.visitors[i]? = some v) (stands : v.stand = .joining)
    (idle : (c.cache.slotAt v.key).flight = none) :
    Moved c { c.put i v (.waiting c.cache.nextRequest) with
      cache := { c.cache.setSlot v.key { c.cache.slotAt v.key with
          flight := some ⟨c.cache.nextRequest, (c.cache.slotAt v.key).generation⟩ } with
        nextRequest := c.cache.nextRequest + 1 }
      history := .joined i v.key c.cache.nextRequest true :: c.history }
  | polled (i : Nat) (v : Visitor V) (r : Nat) (attempts : Attempts V) (here : c.visitors[i]? = some v)
    (stands : v.stand = .waiting r)
    (kept : ∀ outcome, (c.requests r).outcome = some outcome → attempts = c.requests r) :
    Moved c { c.put i v (afterPoll r attempts) with requests := Function.update c.requests r attempts }
  | settled (i : Nat) (v : Visitor V) (r : Nat) (outcome : Outcome V) (now : Nat)
    (here : c.visitors[i]? = some v) (stands : v.stand = .settling r outcome) :
    Moved c { c.put i v (.answered (some r) (Cache.answerOf v.accepts v.key outcome)) with
      cache := (c.cache.settle v.key r outcome now).1
      history := .seen v.key r outcome now :: c.history }
  | left (i : Nat) (v : Visitor V) (here : c.visitors[i]? = some v) : Moved c (c.put i v .gone)
  | mutated (mutations : List (List Key)) : Moved c { c with mutations := mutations }
  | invalidated (start : Key) (mutations : List (List Key)) :
    Moved c { c.invalidated start with mutations := mutations }

theorem drive_finished (retries : Nat) (ready : Nat → Nat → Option (Outcome V)) (now : Nat) (r : Attempts V)
    (outcome : Outcome V) (finished : r.outcome = some outcome) : r.drive retries ready now = (r, []) := by
  rw [Attempts.drive, finished]

private theorem moved_advance (c : Crowd V) (i : Nat) (v : Visitor V) (now : Nat)
    (ready : Nat → Nat → Option (Outcome V)) (here : c.visitors[i]? = some v) :
    Moved c (c.advance i v now ready) := by
  unfold advance
  cases stands : v.stand with
  | looking =>
    cases fresh : c.cache.fresh? v.accepts now v.key with
    | some value => exact .hit i v now value here stands fresh
    | none => exact .missed i v here stands
  | joining =>
    cases under : (c.cache.slotAt v.key).flight with
    | some flight =>
      rw [Cache.joinOrStart_flight v.key c.cache flight under]
      exact .joined i v flight here stands under
    | none =>
      rw [Cache.joinOrStart_start v.key c.cache under]
      exact .started i v here stands under
  | waiting r =>
    refine .polled i v r _ here stands ?_
    intro outcome finished
    rw [drive_finished _ _ _ _ outcome finished]
  | settling r outcome => exact .settled i v r outcome now here stands
  | answered source state => exact .rest
  | gone => exact .rest

private theorem moved_leave (c : Crowd V) (i : Nat) (v : Visitor V) (here : c.visitors[i]? = some v) :
    Moved c (c.leave i v) := by
  unfold leave
  split
  · exact .rest
  · exact .left i v here

theorem moved (c : Crowd V) (m : Move V) : Moved c (c.step m) := by
  cases m with
  | call mode accepts key =>
    refine .called key accepts _ ?_
    cases mode with
    | fetch => exact .inl rfl
    | refetch => exact .inr rfl
  | advance i now ready =>
    simp only [step]
    cases here : c.visitors[i]? with
    | some v => exact moved_advance c i v now ready here
    | none => exact .rest
  | drop i =>
    simp only [step]
    cases here : c.visitors[i]? with
    | some v => exact moved_leave c i v here
    | none => exact .rest
  | invalidate start => exact .invalidated start c.mutations
  | mutate outcome starts =>
    cases outcome with
    | ok done => exact .mutated _
    | error e => exact .rest
  | mutateNext n =>
    simp only [step]
    split
    · rename_i start rest found
      exact .invalidated start _
    · exact .rest

theorem history_moved {c next : Crowd V} (m : Moved c next) :
    next.history = c.history ∨ ∃ e, next.history = e :: c.history := by
  cases m with
  | rest => exact .inl rfl
  | missed i v here stands => exact .inl rfl
  | polled i v r attempts here stands kept => exact .inl rfl
  | left i v here => exact .inl rfl
  | mutated mutations => exact .inl rfl
  | called key accepts stand begun => exact .inr ⟨_, rfl⟩
  | hit i v now value here stands fresh => exact .inr ⟨_, rfl⟩
  | joined i v flight here stands under => exact .inr ⟨_, rfl⟩
  | started i v here stands idle => exact .inr ⟨_, rfl⟩
  | settled i v r outcome now here stands => exact .inr ⟨_, rfl⟩
  | invalidated start mutations => exact .inr ⟨_, rfl⟩

theorem outcome_moved {c next : Crowd V} (m : Moved c next) (r : Nat) (outcome : Outcome V)
    (finished : (c.requests r).outcome = some outcome) : (next.requests r).outcome = some outcome := by
  cases m with
  | polled i v request attempts here stands kept =>
    by_cases same : r = request
    · subst same
      change (Function.update c.requests r attempts r).outcome = some outcome
      rw [Function.update_self, kept outcome finished]
      exact finished
    · change (Function.update c.requests request attempts r).outcome = some outcome
      rw [Function.update_of_ne same]
      exact finished
  | rest => exact finished
  | missed i v here stands => exact finished
  | left i v here => exact finished
  | mutated mutations => exact finished
  | called key accepts stand begun => exact finished
  | hit i v now value here stands fresh => exact finished
  | joined i v flight here stands under => exact finished
  | started i v here stands idle => exact finished
  | settled i v r outcome now here stands => exact finished
  | invalidated start mutations => exact finished

end Crowd
end TradingDesk
