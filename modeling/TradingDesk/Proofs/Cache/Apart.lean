import TradingDesk.Proofs.Cache.Moves

/-! Keys do not interfere. The part of a run is the run of the part, so what is shown of a key does not tell whether
other keys are asked for. -/

namespace TradingDesk
open History

variable {V : Type}

namespace Crowd

/-- What a move is to the key's part: nothing when another key is called for or the prefix does not reach the key. -/
def kept (key : Key) (c : Crowd V) : Move V → Option (Move V)
  | .call mode accepts k => if k = key then some (.call mode accepts k) else none
  | .advance i now ready =>
    if c.visitors[i]?.map Visitor.key = some key then some (.advance (c.seat key i) now ready) else none
  | .drop i => if c.visitors[i]?.map Visitor.key = some key then some (.drop (c.seat key i)) else none
  | .invalidate start => if key.startsWith start then some (.invalidate start) else none
  | .mutate outcome starts => some (.mutate outcome (starts.filter key.startsWith))
  | .mutateNext n =>
    if (c.mutations[n]?.bind List.head?).any key.startsWith then some (.mutateNext n) else none

/-- The moves of the key in a run. -/
def part (key : Key) (c : Crowd V) : List (Move V) → List (Move V)
  | [] => []
  | m :: rest => (c.kept key m).toList ++ part key (c.step m) rest

theorem only_step {c : Crowd V} (sound : Sound c) (blank : Blank c) (key : Key) (m : Move V) :
    (c.step m).only key = steps (c.kept key m).toList (c.only key) := by
  cases m with
  | call mode accepts k =>
    by_cases same : k = key
    · subst same
      simp only [kept, if_true]
      exact only_call sound mode accepts
    · simp only [kept, if_neg same]
      exact only_call_other sound mode accepts k same
  | advance i now ready =>
    cases here : c.visitors[i]? with
    | none => simp [kept, step, here, steps]
    | some v =>
      rw [step_advance c i now v ready here]
      by_cases mine : v.key = key
      · simp only [kept, here, Option.map_some, mine, if_true]
        change _ = (c.only key).step (.advance (c.seat key i) now ready)
        rw [step_advance _ _ now _ ready (visitor_only here mine)]
        exact only_advance sound now ready blank here mine
      · simp only [kept, here, Option.map_some, Option.some.injEq, if_neg mine]
        exact only_advance_other sound here mine now ready
  | drop i =>
    cases here : c.visitors[i]? with
    | none => simp [kept, step, here, steps]
    | some v =>
      simp only [step, here]
      by_cases mine : v.key = key
      · simp only [kept, here, Option.map_some, mine, if_true]
        change _ = (c.only key).step (.drop (c.seat key i))
        simp only [step, visitor_only here mine]
        exact only_leave here mine
      · simp only [kept, here, Option.map_some, Option.some.injEq, if_neg mine]
        exact only_leave_other here mine
  | invalidate start =>
    cases below : key.startsWith start with
    | true =>
      simp only [kept, below, if_true]
      exact only_invalidated start below
    | false =>
      simp only [kept, below, Bool.false_eq_true, if_false]
      exact only_invalidated_other start below
  | mutate outcome starts => exact only_mutate outcome starts
  | mutateNext n =>
    cases left : c.mutations[n]? with
    | none => simp [kept, step, left, steps]
    | some starts =>
      cases starts with
      | nil => simp [kept, step, left, steps]
      | cons start rest =>
        cases below : key.startsWith start with
        | true =>
          simp only [kept, left, Option.bind_some, List.head?_cons, Option.any_some, below, if_true]
          exact only_mutateNext left below
        | false =>
          simp only [kept, left, Option.bind_some, List.head?_cons, Option.any_some, below,
            Bool.false_eq_true, if_false]
          exact only_mutateNext_other left below

theorem only_steps {c : Crowd V} (sound : Sound c) (blank : Blank c) (key : Key) (moves : List (Move V)) :
    (steps moves c).only key = steps (c.part key moves) (c.only key) := by
  induction moves generalizing c with
  | nil => rfl
  | cons m rest ih =>
    have later := ih (sound_moved sound (moved c m)) (blank_moved sound blank (moved c m))
    calc (steps (m :: rest) c).only key
        = steps ((c.step m).part key rest) ((c.step m).only key) := later
      _ = steps ((c.step m).part key rest) (steps (c.kept key m).toList (c.only key)) := by
          rw [only_step sound blank key m]
      _ = steps (c.part key (m :: rest)) (c.only key) := List.foldl_append.symm

theorem part_append (key : Key) (c : Crowd V) (before after : List (Move V)) :
    c.part key (before ++ after) = c.part key before ++ (steps before c).part key after := by
  induction before generalizing c with
  | nil => rfl
  | cons m rest ih =>
    rw [List.cons_append, part, part, ih (c.step m), List.append_assoc]
    rfl

theorem blank_empty (options : CacheOptions) : Blank ({ cache := { options } } : Crowd V) :=
  fun _ _ => rfl

/-- The moves of a run that are left when no other key is called for. -/
def partOfRun (options : CacheOptions) (key : Key) (moves : List (Move V)) : List (Move V) :=
  part key { cache := { options } } moves

/-- The part of the run is the run of the part. -/
theorem only_run (options : CacheOptions) (key : Key) (moves : List (Move V)) :
    (run options moves).only key = run options (partOfRun options key moves) :=
  only_steps (sound_empty options) (blank_empty options) key moves

/-! What callers and readers of the key are shown. -/

def begunBy? (i : Nat) : CacheEvent V → Option Nat
  | .joined j _ r true => if j = i then some r else none
  | _ => none

/-- How often the fetcher of a visitor was asked. It is only when the visitor has begun a request. -/
def asked (i : Nat) (c : Crowd V) : Nat :=
  ((c.history.findSome? (begunBy? i)).map fun r => (c.requests r).calls).getD 0

/-- What the call of a visitor has returned. -/
def returned (v : Visitor V) : Option (QueryState V) :=
  match v.stand with
  | .answered _ state => some state
  | _ => none

/-- The visitors of the key are shown the same in both, and have their fetchers asked as often. -/
structure Alike (key : Key) (full alone : Crowd V) : Prop where
  calls : alone.visitors.length = full.visitors.countP fun v => v.key = key
  returns : ∀ i v, full.visitors[i]? = some v → v.key = key →
    ∃ w, alone.visitors[full.seat key i]? = some w ∧ w.key = key ∧ w.accepts = v.accepts ∧ returned w = returned v
  asks : ∀ i v, full.visitors[i]? = some v → v.key = key → alone.asked (full.seat key i) = full.asked i
  state : ∀ accepts, alone.cache.state accepts key = full.cache.state accepts key
  lastData : ∀ accepts, alone.cache.lastData accepts key = full.cache.lastData accepts key
  isFetching : alone.cache.isFetching key = full.cache.isFetching key

private theorem seat_lt {c : Crowd V} {key : Key} {i j : Nat} {v : Visitor V} (here : c.visitors[i]? = some v)
    (mine : v.key = key) (before : i < j) : c.seat key i < c.seat key j := by
  have next : c.seat key (i + 1) = c.seat key i + 1 := by
    unfold seat
    rw [List.take_add_one, here, List.countP_append]
    simp [mine]
  have later : c.seat key (i + 1) ≤ c.seat key j :=
    (List.take_sublist_take_left before).countP_le
  omega

private theorem seat_injective {c : Crowd V} {key : Key} {i j : Nat} {v w : Visitor V}
    (here : c.visitors[i]? = some v) (mine : v.key = key) (there : c.visitors[j]? = some w) (too : w.key = key)
    (same : c.seat key i = c.seat key j) : i = j := by
  rcases Nat.lt_trichotomy i j with before | rfl | after
  · exact absurd same (Nat.ne_of_lt (seat_lt here mine before))
  · rfl
  · exact absurd same.symm (Nat.ne_of_lt (seat_lt there too after))

/-- What a visitor began is found again under its new number, if nobody else sits where it does. -/
private theorem begunBy_within (key : Key) (seat number : Nat → Nat) (i : Nat) (h : History V)
    (mine : ∀ j k r, .joined j k r true ∈ h → (k = key → seat j = seat i → j = i) ∧ (j = i → k = key)) :
    (within key seat number h).findSome? (begunBy? (seat i)) = (h.findSome? (begunBy? i)).map number := by
  have image (e : CacheEvent V) (member : e ∈ h) :
      (e.within key seat number).bind (begunBy? (seat i)) = (begunBy? i e).map number := by
    cases e with
    | joined j k r isNew =>
      cases isNew with
      | false => by_cases same : k = key <;> simp [CacheEvent.within, begunBy?, same]
      | true =>
        obtain ⟨alone, own⟩ := mine j k r member
        by_cases here : j = i
        · simp [CacheEvent.within, begunBy?, here, own here]
        · by_cases same : k = key
          · have elsewhere : seat j ≠ seat i := fun seats => here (alone same seats)
            simp [CacheEvent.within, begunBy?, here, same, elsewhere]
          · simp [CacheEvent.within, begunBy?, here, same]
    | called j k => by_cases same : k = key <;> simp [CacheEvent.within, begunBy?, same]
    | hit j k source => by_cases same : k = key <;> simp [CacheEvent.within, begunBy?, same]
    | seen k r outcome now => by_cases same : k = key <;> simp [CacheEvent.within, begunBy?, same]
    | invalidated start => by_cases below : key.startsWith start <;> simp [CacheEvent.within, begunBy?, below]
  unfold within
  rw [← List.head?_filterMap, ← List.head?_filterMap, ← List.head?_map, List.filterMap_filterMap,
    List.map_filterMap, List.filterMap_congr image]

theorem asked_only {c : Crowd V} (sound : Sound c) {key : Key} {i : Nat} {v : Visitor V}
    (here : c.visitors[i]? = some v) (mine : v.key = key) :
    (c.only key).asked (c.seat key i) = c.asked i := by
  have keyed (j : Nat) (k : Key) (r : Nat) (began : .joined j k r true ∈ c.history) :
      ∃ w, c.visitors[j]? = some w ∧ w.key = k := by
    obtain ⟨after, before, split⟩ := List.append_of_mem began
    have allowed := (split ▸ sound.recorded.orderly).allowed
    refine sound.called j k ?_
    rw [split]
    exact List.mem_append_right after (List.mem_cons_of_mem _ allowed.1)
  have found := begunBy_within key (c.seat key) (c.number key) i c.history (by
    intro j k r began
    obtain ⟨w, there, rfl⟩ := keyed j k r began
    constructor
    · intro same seats
      exact seat_injective there same here mine seats
    · rintro rfl
      obtain rfl : v = w := Option.some.inj (here.symm.trans there)
      exact mine)
  unfold asked
  change (((within key (c.seat key) (c.number key) c.history).findSome? _).map _).getD 0 = _
  rw [found]
  cases began : c.history.findSome? (begunBy? i) with
  | none => rfl
  | some r =>
    obtain ⟨e, member, begins⟩ := List.exists_of_findSome?_eq_some began
    have inside : r ∈ begun key c.history := by
      unfold begunBy? at begins
      split at begins
      · rename_i j k request
        split at begins
        · rename_i same
          subst same
          obtain rfl := Option.some.inj begins
          obtain ⟨w, there, rfl⟩ := keyed j k request member
          obtain rfl : v = w := Option.some.inj (here.symm.trans there)
          exact mem_begun.mpr ⟨j, mine ▸ member⟩
        · simp at begins
      · simp at begins
    exact congrArg Attempts.calls (requestsOf_number inside c.requests)

theorem alike_only {c : Crowd V} (sound : Sound c) (key : Key) : Alike key c (c.only key) where
  calls := by
    rw [List.countP_eq_length_filter]
    exact List.length_map _
  returns := by
    intro i v here mine
    refine ⟨v.numbered (c.number key), visitor_only here mine, mine, rfl, ?_⟩
    unfold returned Visitor.numbered
    cases v.stand <;> rfl
  asks := fun i v here mine => asked_only sound here mine
  state := fun accepts => Cache.state_only key _ c.cache accepts
  lastData := fun accepts => Cache.lastData_only key _ c.cache accepts
  isFetching := Cache.isFetching_only key _ c.cache

theorem startsWith_iff (key start : Key) : key.startsWith start = true ↔ ∃ rest, key.parts = start.parts ++ rest := by
  unfold Key.startsWith
  rw [List.isPrefixOf_iff_prefix]
  exact ⟨fun ⟨rest, same⟩ => ⟨rest, same.symm⟩, fun ⟨rest, same⟩ => ⟨rest, same.symm⟩⟩

theorem invalidate_reaches (c : Cache V) (start key : Key) : (c.invalidate start).1.slot? key ≠ c.slot? key ↔
    c.slot? key ≠ none ∧ ∃ rest, key.parts = start.parts ++ rest := by
  rw [← startsWith_iff, Cache.slot?_invalidate]
  cases c.slot? key with
  | none => simp
  | some s =>
    cases below : key.startsWith start with
    | true =>
      have raised : s.invalidated ≠ s := by
        intro same
        exact Nat.succ_ne_self s.generation (congrArg Slot.generation same)
      simpa using raised
    | false => simp

/-- At every moment of a run the key shows what it shows when no other key is called for and no prefix that does not
reach it is invalidated. A prefix reaches the key exactly when the key goes on from it by whole parts. -/
theorem keys_apart (options : CacheOptions) (key : Key) (before after : List (Move V)) :
    Alike key (run options before) (run options (partOfRun options key before)) ∧
    partOfRun options key before <+: partOfRun options key (before ++ after) ∧
    ∀ (c : Cache V) (start : Key), (c.invalidate start).1.slot? key ≠ c.slot? key ↔
      c.slot? key ≠ none ∧ ∃ rest, key.parts = start.parts ++ rest := by
  refine ⟨?_, ?_, fun c start => invalidate_reaches c start key⟩
  · rw [← only_run]
    exact alike_only (sound_run options before) key
  · rw [partOfRun, partOfRun, part_append]
    exact List.prefix_append _ _

/-- The parts count, not the text in which they are shown. -/
example : Key.shown ⟨["tickers/BTC", "USDT"]⟩ = Key.shown ⟨["tickers", "BTC/USDT"]⟩ ∧
    Key.startsWith ⟨["tickers/BTC", "USDT"]⟩ ⟨["tickers"]⟩ = false := by
  decide

end Crowd
end TradingDesk
