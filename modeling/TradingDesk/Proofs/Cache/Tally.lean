import TradingDesk.Proofs.Cache.History

/-! A slot tallies with a history when it holds what the history says of its key. Every event of the cache
keeps this, and a tallied slot shows its readers the last settled outcome. -/

namespace TradingDesk
open History

variable {V : Type}

/-- The age of a value is only known, and staleness only matters, after a success. -/
structure Tallies (key : Key) (h : History V) (s : Slot V) : Prop where
  flight : s.flight.map Flight.id = attached key h
  generation : ∀ f, s.flight = some f → f.generation = s.generation
  data : s.data = (settlements key h).findSome? Settlement.value?
  error : s.error = (settlements key h).head?.bind Settlement.failure?
  fresh : ∀ last v, (settlements key h).head? = some last → last.outcome = .ok v →
    s.fetchedAt = some last.time ∧ s.stale = outdated key h

namespace Tallies

variable {key : Key} {h : History V} {s : Slot V}

theorem empty (key : Key) : Tallies key ([] : History V) {} where
  flight := rfl
  generation := by simp
  data := rfl
  error := rfl
  fresh := by simp [settlements]

theorem waitsFor_iff (t : Tallies key h s) (r : Nat) : s.waitsFor r = true ↔ attached key h = some r := by
  rw [← t.flight]
  cases under : s.flight with
  | none => simp [Slot.waitsFor, under]
  | some f =>
    have current := t.generation f under
    simp [Slot.waitsFor, under, current]

theorem waitsFor_false (t : Tallies key h s) {r : Nat} (detached : attached key h ≠ some r) :
    s.waitsFor r = false := by
  cases waits : s.waitsFor r with
  | false => rfl
  | true => exact absurd ((t.waitsFor_iff r).mp waits) detached

theorem error_none_iff (t : Tallies key h s) (last : Settlement V)
    (found : (settlements key h).head? = some last) :
    s.error = none ↔ ∃ v, last.outcome = .ok v := by
  rw [t.error, found, Option.bind_some, Settlement.failure?]
  cases last.outcome <;> simp

private theorem findSome?_head {l : List (Settlement V)} {last : Settlement V} {v : V}
    (found : l.head? = some last) (good : last.outcome = .ok v) :
    l.findSome? Settlement.value? = some v := by
  obtain ⟨rest, rfl⟩ := List.head?_eq_some_iff.mp found
  have value : last.value? = some v := by simp [Settlement.value?, good, Except.toOption]
  simp [value]

theorem data_of_last (t : Tallies key h s) {last : Settlement V} {v : V}
    (found : (settlements key h).head? = some last) (good : last.outcome = .ok v) : s.data = some v := by
  rw [t.data]
  exact findSome?_head found good

theorem unchanged (t : Tallies key h s) {e : CacheEvent V} (same : attached key (e :: h) = attached key h)
    (alike : settlements key (e :: h) = settlements key h) (dated : outdated key (e :: h) = outdated key h) :
    Tallies key (e :: h) s where
  flight := t.flight.trans same.symm
  generation := t.generation
  data := by rw [alike]; exact t.data
  error := by rw [alike]; exact t.error
  fresh := by rw [alike, dated]; exact t.fresh

theorem called (t : Tallies key h s) (caller : Nat) (other : Key) :
    Tallies key (.called caller other :: h) s :=
  t.unchanged rfl rfl rfl

theorem hit (t : Tallies key h s) (caller : Nat) (other : Key) (source : Option Nat) :
    Tallies key (.hit caller other source :: h) s :=
  t.unchanged rfl rfl rfl

theorem joined (t : Tallies key h s) (caller : Nat) (other : Key) (r : Nat) :
    Tallies key (.joined caller other r false :: h) s :=
  t.unchanged rfl rfl rfl

theorem startedElsewhere (t : Tallies key h s) (caller : Nat) {other : Key} (r : Nat)
    (differ : other ≠ key) : Tallies key (.joined caller other r true :: h) s :=
  t.unchanged (by simp [attached, differ]) rfl rfl

theorem started (t : Tallies key h s) (caller r : Nat) :
    Tallies key (.joined caller key r true :: h) { s with flight := some ⟨r, s.generation⟩ } where
  flight := by simp [attached]
  generation := by simp
  data := t.data
  error := t.error
  fresh := t.fresh

theorem invalidatedElsewhere (t : Tallies key h s) {start : Key} (outside : key.startsWith start = false) :
    Tallies key (.invalidated start :: h) s :=
  t.unchanged (by simp [attached, outside]) rfl (by simp [outdated, outside])

theorem invalidated (t : Tallies key h s) {start : Key} (below : key.startsWith start = true) :
    Tallies key (.invalidated start :: h) s.invalidated where
  flight := by simp [attached, below, Slot.invalidated]
  generation := by simp [Slot.invalidated]
  data := t.data
  error := t.error
  fresh := by
    intro last v found good
    exact ⟨(t.fresh last v found good).1, by simp [outdated, below, Slot.invalidated]⟩

/-- Nothing was settled for a key whose slot is empty, so that an invalidation has nothing to mark. -/
theorem invalidatedAbsent (t : Tallies key h {}) (start : Key) :
    Tallies key (.invalidated start :: h) {} := by
  have idle : attached key h = none := t.flight.symm
  refine ⟨?_, t.generation, t.data, t.error, ?_⟩
  · simp [attached, idle]
  · intro last v found good
    have value := t.data_of_last found good
    simp at value

theorem seenElsewhere (t : Tallies key h s) {other : Key} {r : Nat} (outcome : Outcome V) (now : Nat)
    (differ : ¬(other = key ∧ attached key h = some r)) : Tallies key (.seen other r outcome now :: h) s :=
  t.unchanged (by simp only [attached, if_neg differ]) (by simp only [settlements, if_neg differ])
    (by simp only [outdated, if_neg differ])

theorem seen (t : Tallies key h s) {r : Nat} (outcome : Outcome V) (now : Nat)
    (on : attached key h = some r) : Tallies key (.seen key r outcome now :: h) (s.settled outcome now) := by
  have new : settlements key (.seen key r outcome now :: h) = ⟨r, outcome, now⟩ :: settlements key h := by
    simp [settlements, on]
  have idle : attached key (.seen key r outcome now :: h) = none := by simp [attached, on]
  have current : outdated key (.seen key r outcome now :: h) = false := by simp [outdated, on]
  cases outcome with
  | ok v =>
    refine ⟨by rw [idle]; rfl, by simp [Slot.settled], ?_, ?_, ?_⟩
    · rw [new]
      rfl
    · rw [new]
      rfl
    · intro last value found good
      rw [new, List.head?_cons, Option.some.injEq] at found
      subst last
      exact ⟨rfl, current.symm⟩
  | error e =>
    refine ⟨by rw [idle]; rfl, by simp [Slot.settled], ?_, ?_, ?_⟩
    · rw [new]
      exact t.data
    · rw [new]
      rfl
    · intro last value found good
      rw [new, List.head?_cons, Option.some.injEq] at found
      subst last
      simp at good

end Tallies

/-! What readers of a tallied slot see. -/

namespace Cache

private theorem typeMismatch_text (key : Key) : typeMismatch key =
    "Unexpected response: cached value for '" ++ key.shown ++ "' has an unexpected type" := by
  have start : "Unexpected response: cached value for '" = "Unexpected response: " ++ "cached value for '" := rfl
  unfold typeMismatch Failure.message
  dsimp only
  rw [start, String.append_assoc, String.append_assoc, String.append_assoc]

theorem answerOf_shownTo (accepts : V → Bool) (key : Key) (outcome : Outcome V) :
    answerOf accepts key outcome = Outcome.shownTo accepts key outcome := by
  cases outcome with
  | ok v => simp only [answerOf, shownAs, typeMismatch_text, Outcome.shownTo]
  | error e => rfl

theorem state_of_tallies (accepts : V → Bool) (key : Key) (h : History V) (c : Cache V)
    (t : Tallies key h (c.slotAt key)) :
    c.state accepts key =
      match (settlements key h).head? with
      | none => .loading
      | some last => Outcome.shownTo accepts key last.outcome := by
  simp only [state_slotAt, ← answerOf_shownTo]
  cases found : (settlements key h).head? with
  | none =>
    have noError : (c.slotAt key).error = none := by rw [t.error, found]; rfl
    have noData : (c.slotAt key).data = none := by
      rw [t.data, List.head?_eq_none_iff.mp found]; rfl
    simp [noError, noData]
  | some last =>
    cases outcome : last.outcome with
    | ok v =>
      have noError := (t.error_none_iff last found).mpr ⟨v, outcome⟩
      have data := t.data_of_last found outcome
      simp [noError, data, outcome, answerOf]
    | error e =>
      have error : (c.slotAt key).error = some e.message := by
        rw [t.error, found]
        simp [Settlement.failure?, outcome]
      simp [error, outcome, answerOf]

theorem lastData_of_tallies (accepts : V → Bool) (key : Key) (h : History V) (c : Cache V)
    (t : Tallies key h (c.slotAt key)) :
    c.lastData accepts key = ((settlements key h).findSome? Settlement.value?).filter accepts := by
  rw [lastData_slotAt, t.data]

private theorem youngEnough_iff (options : CacheOptions) (now time : Nat) (s : Slot V)
    (dated : s.fetchedAt = some time) :
    youngEnough options now s = true ↔ ∀ age, options.staleAfter = some age → now - time ≤ age := by
  unfold youngEnough
  cases options.staleAfter <;> simp [dated]

/-- A fetch is answered at once exactly when the last settled outcome is a value of the caller's type that no
invalidation has followed and that is not too old. -/
theorem fresh?_of_tallies (accepts : V → Bool) (now : Nat) (key : Key) (h : History V) (c : Cache V)
    (t : Tallies key h (c.slotAt key)) (v : V) :
    c.fresh? accepts now key = some v ↔
      ∃ last, (settlements key h).head? = some last ∧ last.outcome = .ok v ∧ accepts v = true ∧
        outdated key h = false ∧ ∀ age, c.options.staleAfter = some age → now - last.time ≤ age := by
  rw [fresh?_slotAt]
  constructor
  · intro hit
    split at hit
    · simp at hit
    · rename_i usable
      simp only [Bool.or_eq_true, Bool.not_eq_true', not_or, Bool.not_eq_true, Bool.not_eq_false,
        Option.isSome_eq_false_iff, Option.isNone_iff_eq_none] at usable
      obtain ⟨⟨current, noError⟩, young⟩ := usable
      obtain ⟨data, accepted⟩ := Option.filter_eq_some_iff.mp hit
      cases found : (settlements key h).head? with
      | none =>
        rw [t.data, List.head?_eq_none_iff.mp found] at data
        simp at data
      | some last =>
        obtain ⟨value, good⟩ := (t.error_none_iff last found).mp noError
        obtain rfl : value = v := Option.some.inj ((t.data_of_last found good).symm.trans data)
        obtain ⟨dated, stale⟩ := t.fresh last value found good
        exact ⟨last, rfl, good, accepted, stale ▸ current, (youngEnough_iff _ _ _ _ dated).mp young⟩
  · rintro ⟨last, found, good, accepted, current, young⟩
    obtain ⟨dated, stale⟩ := t.fresh last v found good
    have noError := (t.error_none_iff last found).mpr ⟨v, good⟩
    have data := t.data_of_last found good
    have recent := (youngEnough_iff c.options now last.time (c.slotAt key) dated).mpr young
    simp [stale, current, noError, recent, data, accepted]

end Cache
end TradingDesk
