import Mathlib.Data.List.Nodup
import TradingDesk.Proofs.Cache.Sound

/-! A crowd reduced to one key: its slot, its visitors, the requests begun for it and what the history says of it.
Visitors and requests are numbered anew, as if nobody had ever asked for another key. -/

namespace TradingDesk
open History

variable {V : Type}

namespace History

def begunFor? (key : Key) : CacheEvent V → Option Nat
  | .joined _ k r true => if k = key then some r else none
  | _ => none

/-- The requests begun for a key, the oldest first. -/
def begun (key : Key) (h : History V) : List Nat :=
  (h.filterMap (begunFor? key)).reverse

theorem mem_begun {key : Key} {r : Nat} {h : History V} : r ∈ begun key h ↔ StartedOn key r h := by
  rw [begun, List.mem_reverse, List.mem_filterMap]
  constructor
  · rintro ⟨e, member, new⟩
    unfold begunFor? at new
    split at new
    · rename_i caller k request
      split at new
      · rename_i same
        obtain rfl := Option.some.inj new
        exact ⟨caller, same ▸ member⟩
      · simp at new
    · simp at new
  · rintro ⟨caller, member⟩
    exact ⟨_, member, by simp [begunFor?]⟩

theorem begun_joined (key : Key) (caller r : Nat) (h : History V) :
    begun key (.joined caller key r true :: h) = begun key h ++ [r] := by
  simp [begun, begunFor?]

theorem begun_other (key : Key) (e : CacheEvent V) (h : History V) (other : begunFor? key e = none) :
    begun key (e :: h) = begun key h := by
  simp [begun, other]

namespace Orderly

theorem begun_nodup {h : History V} (o : Orderly h) (key : Key) : (begun key h).Nodup := by
  rw [begun, List.nodup_reverse]
  induction h with
  | nil => exact List.nodup_nil
  | cons e older ih =>
    have rest := ih o.2
    cases new : begunFor? key e with
    | none => rwa [List.filterMap_cons_none new]
    | some r =>
      rw [List.filterMap_cons_some new]
      refine List.nodup_cons.mpr ⟨?_, rest⟩
      intro again
      have before : StartedOn key r older := mem_begun.mp (List.mem_reverse.mpr again)
      unfold begunFor? at new
      split at new
      · split at new
        · obtain rfl := Option.some.inj new
          exact o.1.2.2.2 (mem_started.mpr ⟨key, before⟩)
        · simp at new
      · simp at new

theorem seen_started {h : History V} (o : Orderly h) {key : Key} {r : Nat} {outcome : Outcome V} {now : Nat}
    (allowed : Allowed (.seen key r outcome now) h) : StartedOn key r h := by
  obtain ⟨caller, isNew, joined⟩ := allowed
  exact o.joined_started joined

theorem started_of_seen {h : History V} (o : Orderly h) {key : Key} {r : Nat} {outcome : Outcome V} {now : Nat}
    (seen : .seen key r outcome now ∈ h) : StartedOn key r h := by
  obtain ⟨after, before, rfl⟩ := List.append_of_mem seen
  exact (o.suffix.2.seen_started o.allowed).later after _

end Orderly
end History

/-! The history of the key. -/

/-- An event of the key, with its visitor and its request under their new numbers. -/
def CacheEvent.within (key : Key) (seat number : Nat → Nat) : CacheEvent V → Option (CacheEvent V)
  | .called i k => if k = key then some (.called (seat i) k) else none
  | .hit i k source => if k = key then some (.hit (seat i) k (source.map number)) else none
  | .joined i k r isNew => if k = key then some (.joined (seat i) k (number r) isNew) else none
  | .seen k r outcome now => if k = key then some (.seen k (number r) outcome now) else none
  | .invalidated start => if key.startsWith start then some (.invalidated start) else none

def Settlement.numbered (number : Nat → Nat) (s : Settlement V) : Settlement V :=
  { s with request := number s.request }

namespace History

def within (key : Key) (seat number : Nat → Nat) (h : History V) : History V :=
  h.filterMap (CacheEvent.within key seat number)

/-- No two requests of the key have the same number. -/
def Apart (key : Key) (number : Nat → Nat) (h : History V) : Prop :=
  ∀ r r', StartedOn key r h → StartedOn key r' h → number r = number r' → r = r'

section Within

variable {key : Key} {seat number : Nat → Nat} {h : History V}

theorem Apart.older {e : CacheEvent V} (apart : Apart key number (e :: h)) : Apart key number h :=
  fun r r' on on' same => apart r r' (on.weaken e) (on'.weaken e) same

theorem within_some {e e' : CacheEvent V} (here : e.within key seat number = some e') :
    within key seat number (e :: h) = e' :: within key seat number h :=
  List.filterMap_cons_some here

theorem within_none {e : CacheEvent V} (elsewhere : e.within key seat number = none) :
    within key seat number (e :: h) = within key seat number h :=
  List.filterMap_cons_none elsewhere

private theorem current_iff (apart : Apart key number h) {on : Option Nat} {r : Nat}
    (attached : ∀ r', on = some r' → StartedOn key r' h) (started : StartedOn key r h) :
    on.map number = some (number r) ↔ on = some r := by
  cases on with
  | none => simp
  | some r' =>
    constructor
    · intro same
      exact congrArg some (apart r' r (attached r' rfl) started (Option.some.inj same))
    · intro same
      exact congrArg (Option.map number) same

private theorem unseen {e : CacheEvent V} (elsewhere : e.within key seat number = none) :
    attached key (e :: h) = attached key h ∧ settlements key (e :: h) = settlements key h := by
  cases e with
  | called i k => exact ⟨rfl, rfl⟩
  | hit i k source => exact ⟨rfl, rfl⟩
  | joined i k r isNew =>
    have differ : k ≠ key := by simpa [CacheEvent.within] using elsewhere
    cases isNew with
    | true => simp [attached, settlements, differ]
    | false => exact ⟨rfl, rfl⟩
  | seen k r outcome now =>
    have differ : k ≠ key := by simpa [CacheEvent.within] using elsewhere
    simp [attached, settlements, differ]
  | invalidated start =>
    have outside : key.startsWith start = false := by simpa [CacheEvent.within] using elsewhere
    simp [attached, settlements, outside]

/-- The history of the key tells the same of it as the whole one. -/
theorem reads_within (o : Orderly h) (apart : Apart key number h) :
    attached key (within key seat number h) = (attached key h).map number ∧
      settlements key (within key seat number h) =
        (settlements key h).map (Settlement.numbered number) := by
  induction h with
  | nil => exact ⟨rfl, rfl⟩
  | cons e older ih =>
    obtain ⟨on, settled⟩ := ih o.2 apart.older
    cases here : e.within key seat number with
    | none =>
      obtain ⟨same, alike⟩ := unseen (h := older) here
      rw [within_none here, same, alike]
      exact ⟨on, settled⟩
    | some image =>
      rw [within_some here]
      unfold CacheEvent.within at here
      split at here <;> split at here <;> try contradiction
      all_goals rename_i inside; obtain rfl := Option.some.inj here
      case h_1 => exact ⟨on, settled⟩
      case h_2 => exact ⟨on, settled⟩
      case h_3 i k r isNew =>
        cases isNew with
        | true => simp [attached, settlements, inside, settled]
        | false => exact ⟨on, settled⟩
      case h_4 k r outcome now =>
        subst inside
        have current := current_iff apart.older (fun r' => attached_started) (o.2.seen_started o.1)
        simp only [attached, settlements, on, settled, current, true_and]
        split <;> exact ⟨rfl, rfl⟩
      case h_5 start => simp [attached, settlements, inside, settled]

/-- Only the numbers of what the history speaks of matter. -/
theorem within_congr (o : Orderly h) (later : Nat → Nat) (renumbered : Nat → Nat)
    (seats : ∀ i k, .called i k ∈ h → later i = seat i) (numbers : ∀ r, StartedOn key r h → renumbered r = number r) :
    within key later renumbered h = within key seat number h := by
  refine List.filterMap_congr ?_
  intro e member
  have seated {i : Nat} (serves : served? e = some i) : later i = seat i := by
    obtain ⟨k, called⟩ := o.served_called member serves
    exact seats i k called
  cases e with
  | called i k => simp only [CacheEvent.within, seats i k member]
  | hit i k source =>
    by_cases same : k = key
    · subst same
      obtain ⟨last, settled, rfl⟩ := o.hit_settled member
      have source := numbers last.request (settlement_seen settled).2
      simp only [CacheEvent.within, seated rfl, Option.map_some, source]
    · simp only [CacheEvent.within, if_neg same]
  | joined i k r isNew =>
    by_cases same : k = key
    · subst same
      simp only [CacheEvent.within, seated rfl, numbers r (o.joined_started member)]
    · simp only [CacheEvent.within, if_neg same]
  | seen k r outcome now =>
    by_cases same : k = key
    · subst same
      simp only [CacheEvent.within, numbers r (o.started_of_seen member)]
    · simp only [CacheEvent.within, if_neg same]
  | invalidated start => rfl

end Within
end History
end TradingDesk
