import TradingDesk.Proofs.Cache.Part

/-! What is left of a crowd when only one key is looked at: its visitors, its slot and its requests, numbered anew. -/

namespace TradingDesk
open History

variable {V : Type}

def Stand.numbered (number : Nat → Nat) : Stand V → Stand V
  | .waiting r => .waiting (number r)
  | .settling r outcome => .settling (number r) outcome
  | .answered source state => .answered (source.map number) state
  | .looking => .looking
  | .joining => .joining
  | .gone => .gone

theorem Stand.numbered_congr (number other : Nat → Nat) (stand : Stand V)
    (same : ∀ r, stand.request? = some r → number r = other r) : stand.numbered number = stand.numbered other := by
  cases stand with
  | waiting r => simp only [numbered, same r rfl]
  | settling r outcome => simp only [numbered, same r rfl]
  | answered source state =>
    cases source with
    | none => rfl
    | some r => simp only [numbered, Option.map_some, same r rfl]
  | looking => rfl
  | joining => rfl
  | gone => rfl

def Visitor.numbered (number : Nat → Nat) (v : Visitor V) : Visitor V :=
  { v with stand := v.stand.numbered number }

namespace Slot

def numbered (number : Nat → Nat) (s : Slot V) : Slot V :=
  { s with flight := s.flight.map fun f => { f with id := number f.id } }

theorem waitsFor_numbered (number : Nat → Nat) (s : Slot V) (r : Nat)
    (apart : ∀ f, s.flight = some f → number f.id = number r → f.id = r) :
    (s.numbered number).waitsFor (number r) = s.waitsFor r := by
  cases under : s.flight with
  | none => simp [waitsFor, numbered, under]
  | some f =>
    have same : (number f.id == number r) = (f.id == r) := by
      rw [Bool.eq_iff_iff, beq_iff_eq, beq_iff_eq]
      exact ⟨apart f under, congrArg number⟩
    simp [waitsFor, numbered, under, same]

theorem settled_numbered (number : Nat → Nat) (s : Slot V) (outcome : Outcome V) (now : Nat) :
    (s.settled outcome now).numbered number = (s.numbered number).settled outcome now := by
  cases outcome <;> rfl

theorem invalidated_numbered (number : Nat → Nat) (s : Slot V) :
    s.invalidated.numbered number = (s.numbered number).invalidated :=
  rfl

end Slot

namespace Cache

/-- The slot of the key alone. `begun` are the requests begun for it, which are numbered by their places. -/
def only (key : Key) (begun : List Nat) (c : Cache V) : Cache V where
  slots := (c.slot? key).toList.map fun s => (key, s.numbered begun.idxOf)
  options := c.options
  nextRequest := begun.length

section Only

variable (key : Key) (begun : List Nat) (c : Cache V)

theorem slot?_only : (c.only key begun).slot? key = (c.slot? key).map (Slot.numbered begun.idxOf) := by
  unfold only
  cases found : c.slot? key with
  | none => rfl
  | some s => simp [slot?]

theorem slotAt_only : (c.only key begun).slotAt key = (c.slotAt key).numbered begun.idxOf := by
  rw [slotAt, slotAt, slot?_only]
  cases c.slot? key <;> rfl

theorem only_congr (d : Cache V) (slot : d.slot? key = c.slot? key) (options : d.options = c.options) :
    d.only key begun = c.only key begun := by
  unfold only
  rw [slot, options]

theorem fresh?_only (accepts : V → Bool) (now : Nat) :
    (c.only key begun).fresh? accepts now key = c.fresh? accepts now key := by
  rw [fresh?_slotAt, fresh?_slotAt, slotAt_only]
  rfl

theorem state_only (accepts : V → Bool) : (c.only key begun).state accepts key = c.state accepts key := by
  rw [state_slotAt, state_slotAt, slotAt_only]
  rfl

theorem lastData_only (accepts : V → Bool) : (c.only key begun).lastData accepts key = c.lastData accepts key := by
  rw [lastData_slotAt, lastData_slotAt, slotAt_only]
  rfl

theorem isFetching_only : (c.only key begun).isFetching key = c.isFetching key := by
  unfold isFetching
  rw [slot?_only]
  cases c.slot? key with
  | none => rfl
  | some s => simp [Slot.numbered]

theorem setSlot_only (s : Slot V) : (c.only key begun).setSlot key s =
    { slots := [(key, s)], options := c.options, nextRequest := begun.length } := by
  unfold only
  cases c.slot? key <;> simp [setSlot, setSlot.go]

theorem only_setSlot (s : Slot V) : (c.setSlot key s).only key begun =
    { slots := [(key, s.numbered begun.idxOf)], options := c.options, nextRequest := begun.length } := by
  have slot := slot?_setSlot key key s c
  rw [if_pos rfl] at slot
  unfold only
  rw [slot]
  rfl

theorem only_settle (r : Nat) (outcome : Outcome V) (now : Nat)
    (inside : ∀ f, (c.slotAt key).flight = some f → f.id ∈ begun) :
    (c.settle key r outcome now).1.only key begun =
      ((c.only key begun).settle key (begun.idxOf r) outcome now).1 := by
  have alike : ((c.only key begun).slotAt key).waitsFor (begun.idxOf r) = (c.slotAt key).waitsFor r := by
    rw [slotAt_only]
    refine Slot.waitsFor_numbered _ _ r ?_
    intro f under same
    exact (List.idxOf_inj (inside f under)).mp same
  cases waits : (c.slotAt key).waitsFor r with
  | true =>
    rw [settle_waiting key r outcome now c waits, settle_waiting key _ outcome now _ (alike.trans waits),
      only_setSlot, setSlot_only, Slot.settled_numbered, slotAt_only]
  | false => rw [settle_other key r outcome now c waits, settle_other key _ outcome now _ (alike.trans waits)]

theorem only_invalidate (start : Key) (below : key.startsWith start = true) :
    (c.invalidate start).1.only key begun = ((c.only key begun).invalidate start).1 := by
  have slot := slot?_invalidate start key c
  simp only [below, if_true] at slot
  unfold only
  rw [slot]
  cases c.slot? key <;> simp [invalidate, below, Slot.invalidated_numbered]

theorem only_invalidate_other (start : Key) (outside : key.startsWith start = false) :
    (c.invalidate start).1.only key begun = c.only key begun := by
  have slot := slot?_invalidate start key c
  simp only [outside, Bool.false_eq_true, if_false, Option.map_id_fun', id] at slot
  exact only_congr key begun c _ slot rfl

/-- A request that is begun for the key gets the next number. -/
theorem only_start (r : Nat) (idle : (c.slotAt key).flight = none) (new : r ∉ begun) (next : Nat) :
    ({ c.setSlot key { c.slotAt key with flight := some ⟨r, (c.slotAt key).generation⟩ } with
        nextRequest := next } : Cache V).only key (begun ++ [r]) = ((c.only key begun).joinOrStart key).1 := by
  have quiet : ((c.only key begun).slotAt key).flight = none := by
    rw [slotAt_only]
    simp [Slot.numbered, idle]
  have last : (begun ++ [r]).idxOf r = begun.length := by simp [List.idxOf_append_of_notMem new]
  rw [joinOrStart_start key _ quiet, setSlot_only, slotAt_only]
  change (c.setSlot key _).only key (begun ++ [r]) = _
  rw [only_setSlot, List.length_append]
  simp only [Slot.numbered, Option.map_some, last]
  rfl

end Only
end Cache

/-! The part of a crowd. -/

namespace Crowd

/-- The place of a visitor among those of the key. -/
def seat (key : Key) (c : Crowd V) (i : Nat) : Nat :=
  (c.visitors.take i).countP fun v => v.key = key

def number (key : Key) (c : Crowd V) : Nat → Nat :=
  (begun key c.history).idxOf

/-- The requests under their new numbers. -/
def requestsOf (begun : List Nat) (requests : Nat → Attempts V) (n : Nat) : Attempts V :=
  (begun[n]?.map requests).getD {}

/-- The part of a key, once the requests begun for it and the places of its visitors are known. -/
def reduced (key : Key) (begun : List Nat) (seat : Nat → Nat) (c : Crowd V) : Crowd V where
  cache := c.cache.only key begun
  requests := requestsOf begun c.requests
  visitors := (c.visitors.filter fun v => v.key = key).map (Visitor.numbered begun.idxOf)
  mutations := c.mutations.map fun starts => starts.filter key.startsWith
  history := within key seat begun.idxOf c.history

def only (key : Key) (c : Crowd V) : Crowd V :=
  c.reduced key (begun key c.history) (c.seat key)

theorem of_parts {c d : Crowd V} (cache : c.cache = d.cache) (requests : c.requests = d.requests)
    (visitors : c.visitors = d.visitors) (mutations : c.mutations = d.mutations)
    (history : c.history = d.history) : c = d := by
  cases c
  cases d
  simp_all

private theorem filter_set {α : Type} (p : α → Bool) (l : List α) (i : Nat) (a b : α) (here : l[i]? = some a)
    (same : p b = p a) :
    (l.set i b).filter p = if p a then (l.filter p).set ((l.take i).countP p) b else l.filter p := by
  induction l generalizing i with
  | nil => simp at here
  | cons head rest ih =>
    cases i with
    | zero =>
      obtain rfl : head = a := by simpa using here
      cases yes : p head <;> simp [yes, same]
    | succ i =>
      have found := ih i (by simpa using here)
      cases yes : p head <;> cases inside : p a <;> simp_all

private theorem getElem?_filter {α : Type} (p : α → Bool) (l : List α) (i : Nat) (a : α) (here : l[i]? = some a)
    (yes : p a = true) : (l.filter p)[(l.take i).countP p]? = some a := by
  induction l generalizing i with
  | nil => simp at here
  | cons head rest ih =>
    cases i with
    | zero =>
      obtain rfl : head = a := by simpa using here
      simp [yes]
    | succ i =>
      have found := ih i (by simpa using here)
      cases inside : p head <;> simp_all

theorem requestsOf_number {begun : List Nat} {r : Nat} (inside : r ∈ begun) (requests : Nat → Attempts V) :
    requestsOf begun requests (begun.idxOf r) = requests r := by
  rw [requestsOf, List.getElem?_idxOf inside]
  rfl

theorem requestsOf_update {begun : List Nat} (distinct : begun.Nodup) {r : Nat} (inside : r ∈ begun)
    (requests : Nat → Attempts V) (attempts : Attempts V) :
    requestsOf begun (Function.update requests r attempts) =
      Function.update (requestsOf begun requests) (begun.idxOf r) attempts := by
  funext n
  by_cases same : n = begun.idxOf r
  · rw [same, requestsOf_number inside, Function.update_self, Function.update_self]
  · rw [Function.update_of_ne same]
    unfold requestsOf
    cases found : begun[n]? with
    | none => rfl
    | some other =>
      obtain ⟨bound, rfl⟩ := List.getElem?_eq_some_iff.mp found
      have differ : begun[n] ≠ r := by
        rintro rfl
        exact same (distinct.idxOf_getElem n bound).symm
      simp [Function.update_of_ne differ]

theorem requestsOf_update_other {begun : List Nat} {r : Nat} (outside : r ∉ begun)
    (requests : Nat → Attempts V) (attempts : Attempts V) :
    requestsOf begun (Function.update requests r attempts) = requestsOf begun requests := by
  funext n
  unfold requestsOf
  cases found : begun[n]? with
  | none => rfl
  | some other =>
    have differ : other ≠ r := by
      rintro rfl
      exact outside (List.mem_of_getElem? found)
    simp [Function.update_of_ne differ]

theorem requestsOf_new {begun : List Nat} (r : Nat) (requests : Nat → Attempts V) (unasked : requests r = {}) :
    requestsOf (begun ++ [r]) requests = requestsOf begun requests := by
  funext n
  unfold requestsOf
  rw [List.getElem?_append]
  split
  · rfl
  · rename_i beyond
    rw [List.getElem?_eq_none (Nat.le_of_not_lt beyond)]
    cases n - begun.length with
    | zero => exact unasked
    | succ k => rfl

section Seats

variable {c : Crowd V} {key : Key} {i : Nat} {v : Visitor V} (here : c.visitors[i]? = some v)

include here

theorem seat_put (stand : Stand V) : (c.put i v stand).seat key = c.seat key := by
  funext j
  -- The count only looks at the keys, and those stay.
  have counted (visitors : List (Visitor V)) : (visitors.take j).countP (fun v => v.key = key) =
      ((visitors.map Visitor.key).take j).countP (· = key) := by
    rw [← List.map_take, List.countP_map]
    rfl
  have keys : (c.put i v stand).visitors.map Visitor.key = c.visitors.map Visitor.key := by
    obtain ⟨inside, found⟩ := List.getElem?_eq_some_iff.mp here
    have same : (c.visitors.map Visitor.key).set i v.key = c.visitors.map Visitor.key := by
      subst found
      rw [← List.getElem_map Visitor.key (h := by simpa using inside)]
      exact List.set_getElem_self _
    rw [put, List.map_set]
    exact same
  rw [seat, seat, counted, counted, keys]

theorem visitors_put (mine : v.key = key) (stand : Stand V) (number : Nat → Nat) :
    ((c.put i v stand).visitors.filter fun v => v.key = key).map (Visitor.numbered number) =
      ((c.visitors.filter fun v => v.key = key).map (Visitor.numbered number)).set (c.seat key i)
        { v.numbered number with stand := stand.numbered number } := by
  have visitors := filter_set (fun v : Visitor V => v.key = key) c.visitors i v { v with stand := stand } here rfl
  rw [if_pos (decide_eq_true mine)] at visitors
  exact (congrArg (List.map (Visitor.numbered number)) visitors).trans List.map_set

theorem visitors_put_other (differ : v.key ≠ key) (stand : Stand V) :
    ((c.put i v stand).visitors.filter fun v => v.key = key) = c.visitors.filter fun v => v.key = key := by
  have visitors := filter_set (fun v : Visitor V => v.key = key) c.visitors i v { v with stand := stand } here rfl
  rw [if_neg (by simpa using differ)] at visitors
  exact visitors

theorem visitor_only (mine : v.key = key) :
    (c.only key).visitors[c.seat key i]? = some (v.numbered (c.number key)) := by
  have found := getElem?_filter (fun v : Visitor V => v.key = key) c.visitors i v here (by simpa using mine)
  have seated : (c.visitors.filter fun v => v.key = key)[c.seat key i]? = some v := found
  change ((c.visitors.filter fun v => v.key = key).map (Visitor.numbered (c.number key)))[c.seat key i]? = _
  rw [List.getElem?_map, seated, Option.map_some]

end Seats

/-! A visitor takes a new stand, with an event or without. -/

section Stands

variable {c : Crowd V} {key : Key} {i : Nat} {v : Visitor V} (here : c.visitors[i]? = some v)

include here

theorem only_put (mine : v.key = key) (stand : Stand V) : (c.put i v stand).only key =
    (c.only key).put (c.seat key i) (v.numbered (c.number key)) (stand.numbered (c.number key)) := by
  have visitors := visitors_put here mine stand (c.number key)
  rw [only, seat_put here stand]
  exact congrArg (fun visitors => { c.only key with visitors := visitors }) visitors

theorem only_put_other (differ : v.key ≠ key) (stand : Stand V) : (c.put i v stand).only key = c.only key := by
  have visitors := visitors_put_other here differ stand
  rw [only, seat_put here stand]
  exact congrArg (fun visitors => { c.only key with visitors := visitors.map (Visitor.numbered (c.number key)) })
    visitors

variable {e : CacheEvent V} (plain : begunFor? key e = none)

include plain

theorem only_event (mine : v.key = key) (stand : Stand V) (cache : Cache V) {image : CacheEvent V}
    (inside : e.within key (c.seat key) (c.number key) = some image) :
    ({ c.put i v stand with cache := cache, history := e :: c.history } : Crowd V).only key =
      { (c.only key).put (c.seat key i) (v.numbered (c.number key)) (stand.numbered (c.number key)) with
        cache := cache.only key (begun key c.history)
        history := image :: (c.only key).history } := by
  have history := within_some (h := c.history) inside
  rw [← only_put here mine stand, only, begun_other key e c.history plain]
  have seats : (c.put i v stand).seat key = c.seat key := seat_put here stand
  change reduced key _ ((c.put i v stand).seat key) _ = _
  rw [seats]
  exact congrArg (fun history => { (c.put i v stand).only key with
    cache := cache.only key (begun key c.history), history := history }) history

theorem only_event_other (differ : v.key ≠ key) (stand : Stand V) (cache : Cache V)
    (slot : cache.slot? key = c.cache.slot? key) (options : cache.options = c.cache.options)
    (outside : e.within key (c.seat key) (c.number key) = none) :
    ({ c.put i v stand with cache := cache, history := e :: c.history } : Crowd V).only key = c.only key := by
  have history := within_none (h := c.history) outside
  have visitors := visitors_put_other here differ stand
  have kept := Cache.only_congr key (begun key c.history) c.cache cache slot options
  have seats : (c.put i v stand).seat key = c.seat key := seat_put here stand
  rw [only, begun_other key e c.history plain]
  change reduced key _ ((c.put i v stand).seat key) _ = _
  rw [seats, reduced, kept]
  change ({ c.only key with
    visitors := ((c.put i v stand).visitors.filter fun v => v.key = key).map (Visitor.numbered (c.number key))
    history := within key (c.seat key) (c.number key) (e :: c.history) } : Crowd V) = _
  rw [visitors, history]
  rfl

end Stands

end Crowd
end TradingDesk
