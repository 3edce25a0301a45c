import TradingDesk.Proofs.Cache.Crowd

/-! A change invalidates once. It goes through its prefixes without a pause; where they overlap the generation of a
key is raised more than once, but generations are only ever compared, so nobody can tell how often. -/

namespace TradingDesk

variable {V : Type}

/-- The slot with its generation forgotten. Of the generation of the request under way remains whether it is the
slot's own. -/
def Slot.plain (s : Slot V) : Slot V :=
  { s with
    generation := 0
    flight := s.flight.map fun flight => ⟨flight.id, if flight.generation = s.generation then 0 else 1⟩ }

namespace Slot

@[simp] theorem waitsFor_plain (s : Slot V) (id : Nat) : s.plain.waitsFor id = s.waitsFor id := by
  unfold waitsFor plain
  cases s.flight with
  | none => rfl
  | some flight => by_cases own : flight.generation = s.generation <;> simp [own]

theorem settled_plain (s : Slot V) (outcome : Outcome V) (now : Nat) :
    (s.settled outcome now).plain = s.plain.settled outcome now := by
  cases outcome <;> rfl

theorem started_plain (s : Slot V) (id : Nat) :
    { s with flight := some ⟨id, s.generation⟩ }.plain =
      { s.plain with flight := some ⟨id, s.plain.generation⟩ } := by
  simp [plain]

@[simp] theorem plain_plain (s : Slot V) : s.plain.plain = s.plain := by
  unfold plain
  cases s.flight with
  | none => rfl
  | some flight => by_cases own : flight.generation = s.generation <;> simp [own]

theorem invalidated_plain (s : Slot V) : s.plain.invalidated.plain = s.invalidated.plain := rfl

theorem invalidated_twice (s : Slot V) : s.invalidated.invalidated.plain = s.invalidated.plain := rfl

end Slot

namespace Cache

def plain (c : Cache V) : Cache V :=
  { c with slots := c.slots.map fun entry => (entry.1, entry.2.plain) }

/-- Every key below any of the prefixes is outdated, a single generation on, and lets go of its request. -/
def invalidateOnce (starts : List Key) (c : Cache V) : Cache V :=
  { c with slots := c.slots.map fun entry =>
      (entry.1, if starts.any entry.1.startsWith then
          { entry.2 with stale := true, generation := entry.2.generation + 1, flight := none }
        else entry.2) }

theorem slot?_plain (key : Key) (c : Cache V) : c.plain.slot? key = (c.slot? key).map Slot.plain :=
  lookup_map (fun _ s => s.plain) key c.slots

theorem slotAt_plain (key : Key) (c : Cache V) : c.plain.slotAt key = (c.slotAt key).plain := by
  simp only [slotAt, slot?_plain]
  cases c.slot? key <;> rfl

@[simp] theorem plain_plain (c : Cache V) : c.plain.plain = c.plain := by
  simp [plain, Function.comp_def]

theorem setSlot_plain (key : Key) (s : Slot V) (c : Cache V) :
    (c.setSlot key s).plain = c.plain.setSlot key s.plain := by
  have listed : (setSlot.go key s c.slots).map (fun entry => (entry.1, entry.2.plain)) =
      setSlot.go key s.plain (c.slots.map fun entry => (entry.1, entry.2.plain)) := by
    induction c.slots with
    | nil => rfl
    | cons entry rest ih =>
      by_cases found : entry.1 = key
      · simp [setSlot.go, found]
      · simp [setSlot.go, found, ih]
  unfold plain setSlot
  rw [listed]

/-! No operation reads more than the plain cache. -/

theorem joinOrStart_plain (key : Key) (c : Cache V) :
    c.plain.joinOrStart key = ((c.joinOrStart key).1.plain, (c.joinOrStart key).2) := by
  have seen := slotAt_plain key c
  cases under : (c.slotAt key).flight with
  | some flight =>
    rw [joinOrStart_flight key c flight under]
    have again : (c.plain.slotAt key).flight =
        some ⟨flight.id, if flight.generation = (c.slotAt key).generation then 0 else 1⟩ := by
      rw [seen, Slot.plain, under, Option.map_some]
    rw [joinOrStart_flight key c.plain _ again]
  | none =>
    have idle : (c.plain.slotAt key).flight = none := by
      rw [seen, Slot.plain, under, Option.map_none]
    rw [joinOrStart_start key c under, joinOrStart_start key c.plain idle, seen, ← Slot.started_plain]
    exact congrArg (fun (d : Cache V) => ({ d with nextRequest := c.nextRequest + 1 }, c.nextRequest, true))
      (setSlot_plain key _ c).symm

theorem settle_plain (key : Key) (id : Nat) (outcome : Outcome V) (now : Nat) (c : Cache V) :
    c.plain.settle key id outcome now =
      ((c.settle key id outcome now).1.plain, (c.settle key id outcome now).2) := by
  unfold settle
  rw [slot?_plain]
  cases c.slot? key with
  | none => rfl
  | some s =>
    simp only [Option.map_some, Slot.waitsFor_plain]
    cases s.waitsFor id with
    | true => simp only [if_true, setSlot_plain, Slot.settled_plain]
    | false => rfl

theorem invalidate_plain (start : Key) (c : Cache V) :
    (c.plain.invalidate start).1.plain = (c.invalidate start).1.plain := by
  have slots : (c.plain.invalidate start).1.plain.slots = (c.invalidate start).1.plain.slots := by
    simp only [invalidate, plain, List.map_map]
    refine List.map_congr_left fun entry _ => ?_
    simp only [Function.comp_apply]
    cases entry.1.startsWith start with
    | true => rfl
    | false => exact congrArg (Prod.mk entry.1) (Slot.plain_plain entry.2)
  exact congrArg (fun slots => { c with slots := slots }) slots

theorem invalidate_count_plain (start : Key) (c : Cache V) :
    (c.plain.invalidate start).2 = (c.invalidate start).2 := by
  simp [invalidate, plain, List.filter_map, Function.comp_def]

theorem fresh?_plain (accepts : V → Bool) (now : Nat) (key : Key) (c : Cache V) :
    c.plain.fresh? accepts now key = c.fresh? accepts now key := by
  rw [fresh?_slotAt, fresh?_slotAt, slotAt_plain]
  rfl

theorem state_plain (accepts : V → Bool) (key : Key) (c : Cache V) :
    c.plain.state accepts key = c.state accepts key := by
  rw [state_slotAt, state_slotAt, slotAt_plain]
  rfl

theorem lastData_plain (accepts : V → Bool) (key : Key) (c : Cache V) :
    c.plain.lastData accepts key = c.lastData accepts key := by
  rw [lastData_slotAt, lastData_slotAt, slotAt_plain]
  rfl

theorem isFetching_plain (key : Key) (c : Cache V) : c.plain.isFetching key = c.isFetching key := by
  unfold isFetching
  rw [slot?_plain]
  cases c.slot? key with
  | none => rfl
  | some s => exact Option.isSome_map ..

/-- Every operation has the same result on both. -/
structure Same (c d : Cache V) : Prop where
  fresh : ∀ accepts now key, c.fresh? accepts now key = d.fresh? accepts now key
  joined : ∀ key, (c.joinOrStart key).2 = (d.joinOrStart key).2
  logged : ∀ key id outcome now, (c.settle key id outcome now).2 = (d.settle key id outcome now).2
  counted : ∀ start, (c.invalidate start).2 = (d.invalidate start).2
  state : ∀ accepts key, c.state accepts key = d.state accepts key
  lastData : ∀ accepts key, c.lastData accepts key = d.lastData accepts key
  isFetching : ∀ key, c.isFetching key = d.isFetching key

theorem same_of_plain {c d : Cache V} (alike : c.plain = d.plain) : Same c d where
  fresh := fun accepts now key => by rw [← fresh?_plain, alike, fresh?_plain]
  joined := fun key => by
    have both := congrArg (fun p : Cache V => (p.joinOrStart key).2) alike
    simpa only [joinOrStart_plain] using both
  logged := fun key id outcome now => by
    have both := congrArg (fun p : Cache V => (p.settle key id outcome now).2) alike
    simpa only [settle_plain] using both
  counted := fun start => by rw [← invalidate_count_plain, alike, invalidate_count_plain]
  state := fun accepts key => by rw [← state_plain, alike, state_plain]
  lastData := fun accepts key => by rw [← lastData_plain, alike, lastData_plain]
  isFetching := fun key => by rw [← isFetching_plain, alike, isFetching_plain]

/-! The prefixes of a change. -/

private theorem invalidateOnce_eq (starts : List Key) (c : Cache V) : c.invalidateOnce starts =
    { c with slots := c.slots.map fun entry =>
        (entry.1, if starts.any entry.1.startsWith then entry.2.invalidated else entry.2) } :=
  rfl

private theorem invalidateOnce_cons (start : Key) (rest : List Key) (c : Cache V) :
    ((c.invalidate start).1.invalidateOnce rest).plain = (c.invalidateOnce (start :: rest)).plain := by
  have slots : ((c.invalidate start).1.invalidateOnce rest).plain.slots =
      (c.invalidateOnce (start :: rest)).plain.slots := by
    simp only [invalidate, invalidateOnce_eq, plain, List.map_map]
    refine List.map_congr_left fun entry _ => ?_
    obtain ⟨key, s⟩ := entry
    cases first : key.startsWith start with
    | false => simp [first]
    | true =>
      have twice : (if rest.any key.startsWith then s.invalidated.invalidated else s.invalidated).plain =
          s.invalidated.plain := by
        split
        · exact Slot.invalidated_twice s
        · rfl
      simpa only [Function.comp_apply, List.any_cons, first, Bool.true_or, if_true] using congrArg (Prod.mk key) twice
  exact congrArg (fun slots => { c with slots := slots }) slots

theorem invalidated_plain (starts : List Key) (c : Cache V) :
    (starts.foldl (fun c start => (c.invalidate start).1) c).plain = (c.invalidateOnce starts).plain := by
  induction starts generalizing c with
  | nil =>
    have kept : c.invalidateOnce [] = c := by simp [invalidateOnce]
    rw [kept]
    rfl
  | cons start rest ih =>
    calc ((start :: rest).foldl (fun c start => (c.invalidate start).1) c).plain
        = ((c.invalidate start).1.invalidateOnce rest).plain := ih (c.invalidate start).1
      _ = (c.invalidateOnce (start :: rest)).plain := invalidateOnce_cons start rest c

end Cache

namespace Crowd

def plain (c : Crowd V) : Crowd V :=
  { c with cache := c.cache.plain }

private theorem advance_plain (c : Crowd V) (i : Nat) (v : Visitor V) (now : Nat)
    (ready : Nat → Nat → Option (Outcome V)) :
    c.plain.advance i v now ready = (c.advance i v now ready).plain := by
  unfold advance
  cases v.stand with
  | looking =>
    simp only [plain, Cache.fresh?_plain]
    cases c.cache.fresh? v.accepts now v.key <;> rfl
  | joining =>
    simp only [plain, Cache.joinOrStart_plain]
    rfl
  | waiting request => rfl
  | settling request outcome =>
    simp only [plain, Cache.settle_plain]
    rfl
  | answered source state => rfl
  | gone => rfl

private theorem invalidated_plain (c : Crowd V) (start : Key) :
    (c.plain.invalidated start).plain = (c.invalidated start).plain := by
  unfold invalidated plain
  simp only [Cache.invalidate_plain]

@[simp] theorem plain_plain (c : Crowd V) : c.plain.plain = c.plain := by
  simp [plain]

theorem step_plain (c : Crowd V) (m : Move V) : (c.plain.step m).plain = (c.step m).plain := by
  cases m with
  | call mode accepts key => exact plain_plain (c.step (.call mode accepts key))
  | advance i now ready =>
    cases here : c.visitors[i]? with
    | none => simpa only [step, plain, here] using plain_plain c
    | some v =>
      rw [step_advance c i now v ready here, step_advance c.plain i now v ready here, advance_plain, plain_plain]
  | drop i =>
    cases here : c.visitors[i]? with
    | none => simpa only [step, plain, here] using plain_plain c
    | some v =>
      have left : c.plain.leave i v = (c.leave i v).plain := by
        unfold leave
        cases v.stand <;> rfl
      have gone : c.plain.step (.drop i) = (c.step (.drop i)).plain := by
        simp only [step, here]
        rw [← left]
        simp only [plain, here]
      rw [gone, plain_plain]
  | invalidate start => exact invalidated_plain c start
  | mutate outcome starts =>
    cases outcome with
    | ok done => exact plain_plain (c.step (.mutate (.ok done) starts))
    | error e => exact plain_plain c
  | mutateNext n =>
    cases left : c.mutations[n]? with
    | none => simpa only [step, plain, left] using plain_plain c
    | some starts =>
      cases starts with
      | nil => simpa only [step, plain, left] using plain_plain c
      | cons start rest =>
        have once := congrArg (fun d : Crowd V => { d with mutations := c.mutations.set n rest })
          (invalidated_plain c start)
        simpa only [step, plain, left] using once

/-- Of two crowds whose caches differ in the generations only nobody can tell which is which. -/
theorem steps_plain {c d : Crowd V} (alike : c.plain = d.plain) (moves : List (Move V)) :
    (steps moves c).plain = (steps moves d).plain := by
  induction moves generalizing c d with
  | nil => exact alike
  | cons m rest ih =>
    have next : (c.step m).plain = (d.step m).plain := by
      rw [← step_plain c m, alike, step_plain d m]
    exact ih next

/-- Callers and readers are shown the same in both, and fetchers are asked the same. -/
structure Same (c d : Crowd V) : Prop where
  visitors : c.visitors = d.visitors
  requests : c.requests = d.requests
  mutations : c.mutations = d.mutations
  history : c.history = d.history
  cache : Cache.Same c.cache d.cache

theorem same_of_plain {c d : Crowd V} (alike : c.plain = d.plain) : Same c d where
  visitors := (congrArg Crowd.visitors alike :)
  requests := (congrArg Crowd.requests alike :)
  mutations := (congrArg Crowd.mutations alike :)
  history := (congrArg Crowd.history alike :)
  cache := Cache.same_of_plain (congrArg Crowd.cache alike :)

/-- A change that fails leaves the cache. After one that succeeds nobody can tell the cache from one in which each
key below a prefix was invalidated a single time. -/
theorem mutate_once {α : Type} (c : Crowd V) (starts : List Key) (later : List (Move V)) :
    (∀ e, c.cache.mutate (.error e : Outcome α) starts = (c.cache, .error e)) ∧
    ∀ done : α, ∃ changed, c.cache.mutate (.ok done) starts = (changed, .ok done) ∧
      Same (steps later { c with cache := changed })
        (steps later { c with cache := c.cache.invalidateOnce starts }) := by
  refine ⟨fun e => rfl, fun done => ⟨_, rfl, ?_⟩⟩
  have before : ({ c with cache := (c.cache.mutate (.ok done) starts).1 } : Crowd V).plain =
      ({ c with cache := c.cache.invalidateOnce starts } : Crowd V).plain := by
    unfold plain
    exact congrArg (fun cache => { c with cache := cache }) (Cache.invalidated_plain starts c.cache)
  exact same_of_plain (steps_plain before later)

/-- The generations do tell. -/
example : let c : Cache Unit := { slots := [(⟨["orders", "7"]⟩, {})] }
    let starts : List Key := [⟨["orders"]⟩, ⟨["orders", "7"]⟩]
    ((c.mutate (.ok ()) starts).1.slot? ⟨["orders", "7"]⟩).map Slot.generation = some 2 ∧
      ((c.invalidateOnce starts).slot? ⟨["orders", "7"]⟩).map Slot.generation = some 1 := by
  decide

end Crowd
end TradingDesk
