import TradingDesk.Cache.Traffic

/-! The cache seen key by key. Each operation is described by what it does to the slot of every key; a key
that was never asked for reads like an empty slot. Later modules use these descriptions only and never open
an operation again. -/

namespace TradingDesk

/-- The slot was invalidated. -/
def Slot.Dropped {V : Type} (before after : Slot V) : Prop :=
  after.data = before.data ∧ after.flight = none ∧ before.generation < after.generation

namespace Cache

variable {V : Type}

/-- The slot of a key, empty when the key has none. -/
def slotAt (key : Key) (c : Cache V) : Slot V :=
  (c.slot? key).getD {}

def keys (c : Cache V) : List Key :=
  c.slots.map Prod.fst

private theorem lookup_go (key other : Key) (s : Slot V) (slots : List (Key × Slot V)) :
    (setSlot.go key s slots).lookup other = if other = key then some s else slots.lookup other := by
  induction slots with
  | nil => by_cases same : other = key <;> simp [setSlot.go, same]
  | cons entry rest ih =>
    obtain ⟨head, old⟩ := entry
    by_cases found : head = key
    · subst head
      by_cases same : other = key
      · simp [setSlot.go, same]
      · have differ : (other == key) = false := beq_eq_false_iff_ne.mpr same
        simp [setSlot.go, same, List.lookup_cons, differ]
    · simp only [setSlot.go, found, if_false, List.lookup_cons, ih]
      by_cases same : other = key
      · subst other
        have differ : (key == head) = false := beq_eq_false_iff_ne.mpr (Ne.symm found)
        simp [differ]
      · simp [same]

theorem slot?_setSlot (key other : Key) (s : Slot V) (c : Cache V) :
    (c.setSlot key s).slot? other = if other = key then some s else c.slot? other :=
  lookup_go key other s c.slots

private theorem keys_go (key : Key) (s : Slot V) (slots : List (Key × Slot V)) :
    (setSlot.go key s slots).map Prod.fst =
      if key ∈ slots.map Prod.fst then slots.map Prod.fst else slots.map Prod.fst ++ [key] := by
  induction slots with
  | nil => simp [setSlot.go]
  | cons entry rest ih =>
    obtain ⟨head, old⟩ := entry
    by_cases found : head = key
    · simp [setSlot.go, found]
    · have other : ¬key = head := Ne.symm found
      simp only [setSlot.go, found, if_false, List.map_cons, ih, List.mem_cons, other, false_or]
      split <;> simp

theorem keys_setSlot (key : Key) (s : Slot V) (c : Cache V) (distinct : c.keys.Nodup) :
    (c.setSlot key s).keys.Nodup := by
  have listed : (c.setSlot key s).keys = if key ∈ c.keys then c.keys else c.keys ++ [key] :=
    keys_go key s c.slots
  rw [listed]
  split
  · exact distinct
  · rename_i absent
    exact List.nodup_append.mpr ⟨distinct, by simp, by simpa using fun k member => ne_of_mem_of_not_mem member absent⟩

theorem slotAt_setSlot (key other : Key) (s : Slot V) (c : Cache V) :
    (c.setSlot key s).slotAt other = if other = key then s else c.slotAt other := by
  simp only [slotAt, slot?_setSlot]
  split <;> rfl

/-! Joining. -/

theorem joinOrStart_flight (key : Key) (c : Cache V) (flight : Flight)
    (under : (c.slotAt key).flight = some flight) : c.joinOrStart key = (c, flight.id, false) := by
  have found : ((c.slot? key).getD {}).flight = some flight := under
  simp only [joinOrStart, found]

theorem joinOrStart_start (key : Key) (c : Cache V) (idle : (c.slotAt key).flight = none) :
    c.joinOrStart key =
      ({ c.setSlot key { c.slotAt key with flight := some ⟨c.nextRequest, (c.slotAt key).generation⟩ } with
          nextRequest := c.nextRequest + 1 },
        c.nextRequest, true) := by
  have none : ((c.slot? key).getD {}).flight = none := idle
  simp only [joinOrStart, none, slotAt]

/-- Afterwards the slot has the caller's request under way, and is the same otherwise. -/
theorem slotAt_joinOrStart (key : Key) (c : Cache V) : ∃ flight : Flight,
    flight.id = (c.joinOrStart key).2.1 ∧
    (c.joinOrStart key).1.slotAt key = { c.slotAt key with flight := some flight } ∧
    (flight.generation = (c.slotAt key).generation ∨ (c.slotAt key).flight = some flight) := by
  cases under : (c.slotAt key).flight with
  | some flight =>
    rw [joinOrStart_flight key c flight under]
    exact ⟨flight, rfl, by rw [← under], .inr rfl⟩
  | none =>
    rw [joinOrStart_start key c under]
    refine ⟨⟨c.nextRequest, (c.slotAt key).generation⟩, rfl, ?_, .inl rfl⟩
    change (c.setSlot key _).slotAt key = _
    rw [slotAt_setSlot, if_pos rfl]

/-! Settling. -/

theorem settle_waiting (key : Key) (id : Nat) (outcome : Outcome V) (now : Nat) (c : Cache V)
    (waits : (c.slotAt key).waitsFor id = true) :
    (c.settle key id outcome now).1 = c.setSlot key ((c.slotAt key).settled outcome now) := by
  unfold slotAt at waits ⊢
  cases found : c.slot? key with
  | none => simp [found, Slot.waitsFor] at waits
  | some s =>
    rw [found, Option.getD_some] at waits
    simp [settle, found, waits]

theorem settle_other (key : Key) (id : Nat) (outcome : Outcome V) (now : Nat) (c : Cache V)
    (detached : (c.slotAt key).waitsFor id = false) : (c.settle key id outcome now).1 = c := by
  unfold slotAt at detached
  cases found : c.slot? key with
  | none => simp [settle, found]
  | some s =>
    rw [found, Option.getD_some] at detached
    simp [settle, found, detached]

theorem slotAt_settle (key : Key) (id : Nat) (outcome : Outcome V) (now : Nat) (c : Cache V) :
    (c.settle key id outcome now).1.slotAt key =
      if (c.slotAt key).waitsFor id then (c.slotAt key).settled outcome now else c.slotAt key := by
  cases waits : (c.slotAt key).waitsFor id with
  | true =>
    rw [settle_waiting key id outcome now c waits, slotAt_setSlot, if_pos rfl, if_pos rfl]
  | false =>
    rw [settle_other key id outcome now c waits]
    rfl

theorem slot?_settle_other (key other : Key) (id : Nat) (outcome : Outcome V) (now : Nat) (c : Cache V)
    (differ : other ≠ key) : (c.settle key id outcome now).1.slot? other = c.slot? other := by
  cases waits : (c.slotAt key).waitsFor id with
  | true => rw [settle_waiting key id outcome now c waits, slot?_setSlot, if_neg differ]
  | false => rw [settle_other key id outcome now c waits]

theorem slotAt_settle_other (key other : Key) (id : Nat) (outcome : Outcome V) (now : Nat) (c : Cache V)
    (differ : other ≠ key) : (c.settle key id outcome now).1.slotAt other = c.slotAt other := by
  rw [slotAt, slotAt, slot?_settle_other key other id outcome now c differ]

theorem options_settle (key : Key) (id : Nat) (outcome : Outcome V) (now : Nat) (c : Cache V) :
    (c.settle key id outcome now).1.options = c.options := by
  cases waits : (c.slotAt key).waitsFor id with
  | true => rw [settle_waiting key id outcome now c waits]; rfl
  | false => rw [settle_other key id outcome now c waits]

theorem nextRequest_settle (key : Key) (id : Nat) (outcome : Outcome V) (now : Nat) (c : Cache V) :
    (c.settle key id outcome now).1.nextRequest = c.nextRequest := by
  cases waits : (c.slotAt key).waitsFor id with
  | true => rw [settle_waiting key id outcome now c waits]; rfl
  | false => rw [settle_other key id outcome now c waits]

theorem flight_settled (s : Slot V) (outcome : Outcome V) (now : Nat) : (s.settled outcome now).flight = none := by
  cases outcome <;> rfl

/-! Invalidating. -/

theorem lookup_map (f : Key → Slot V → Slot V) (key : Key) (slots : List (Key × Slot V)) :
    (slots.map fun entry => (entry.1, f entry.1 entry.2)).lookup key = (slots.lookup key).map (f key) := by
  induction slots with
  | nil => rfl
  | cons entry rest ih =>
    obtain ⟨head, s⟩ := entry
    simp only [List.map_cons, List.lookup_cons, ih]
    by_cases same : key = head
    · subst head
      simp
    · have differ : (key == head) = false := beq_eq_false_iff_ne.mpr same
      simp [differ]

theorem slot?_invalidate (start key : Key) (c : Cache V) :
    (c.invalidate start).1.slot? key =
      (c.slot? key).map fun s => if key.startsWith start then s.invalidated else s :=
  lookup_map (fun k s => if k.startsWith start then s.invalidated else s) key c.slots

theorem slotAt_invalidate_other (start key : Key) (c : Cache V) (outside : key.startsWith start = false) :
    (c.invalidate start).1.slotAt key = c.slotAt key := by
  simp only [slotAt, slot?_invalidate, outside]
  cases c.slot? key <;> rfl

theorem slotAt_invalidate (start key : Key) (c : Cache V) (s : Slot V) (found : c.slot? key = some s)
    (below : key.startsWith start = true) : (c.invalidate start).1.slotAt key = s.invalidated := by
  simp [slotAt, slot?_invalidate, below, found]

theorem slotAt_invalidate_absent (start key : Key) (c : Cache V) (absent : c.slot? key = none) :
    (c.invalidate start).1.slotAt key = {} := by
  simp [slotAt, slot?_invalidate, absent]

theorem slotAt_invalidated (start key : Key) (c : Cache V) :
    (c.invalidate start).1.slotAt key = c.slotAt key ∨
      (c.slotAt key).Dropped ((c.invalidate start).1.slotAt key) := by
  cases below : key.startsWith start with
  | false => exact .inl (slotAt_invalidate_other start key c below)
  | true =>
    cases found : c.slot? key with
    | none =>
      left
      rw [slotAt_invalidate_absent start key c found]
      unfold slotAt
      rw [found]
      rfl
    | some s =>
      right
      rw [slotAt_invalidate start key c s found below]
      unfold slotAt
      rw [found]
      exact ⟨rfl, rfl, Nat.lt_succ_self s.generation⟩

theorem keys_invalidate (start : Key) (c : Cache V) : (c.invalidate start).1.keys = c.keys := by
  simp [keys, invalidate, Function.comp_def]

/-! Reading. -/

theorem state_slotAt (accepts : V → Bool) (key : Key) (c : Cache V) :
    c.state accepts key =
      match (c.slotAt key).error, (c.slotAt key).data with
      | some text, _ => .error text
      | none, some v => shownAs accepts key v
      | none, none => .loading := by
  unfold state slotAt
  cases c.slot? key with
  | none => rfl
  | some s => rfl

theorem lastData_slotAt (accepts : V → Bool) (key : Key) (c : Cache V) :
    c.lastData accepts key = (c.slotAt key).data.filter accepts := by
  unfold lastData slotAt
  cases c.slot? key with
  | none => rfl
  | some s => rfl

theorem fresh?_slotAt (accepts : V → Bool) (now : Nat) (key : Key) (c : Cache V) :
    c.fresh? accepts now key =
      if (c.slotAt key).stale || (c.slotAt key).error.isSome || !youngEnough c.options now (c.slotAt key) then
        none
      else (c.slotAt key).data.filter accepts := by
  unfold fresh? slotAt
  cases c.slot? key with
  | none => simp
  | some s => rfl

end Cache
end TradingDesk
