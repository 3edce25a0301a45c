import Mathlib.Data.List.Induction
import Mathlib.Logic.Function.Iterate
import TradingDesk.Proofs.Dashboard.Parts

/-! Which portfolio is selected. The place outlives the lists: a list that is shown brings it inside, an error leaves it
alone, and the keys go round the list that is on show. -/

namespace TradingDesk

/-- What can change the selection: a list, or why there is none, and the two keys. -/
inductive Selecting where
  | shown (state : QueryState (List Portfolio))
  | next
  | previous

namespace Dashboard

def select (d : Dashboard) : Selecting → Dashboard
  | .shown state => d.setPortfolios state
  | .next => d.selectNext
  | .previous => d.selectPrevious

def selecting (changes : List Selecting) : Dashboard :=
  changes.foldl select {}

/-- The last list that was shown, whatever came after it. -/
def lastShown (changes : List Selecting) : List Portfolio :=
  (changes.filterMap fun | .shown state => state.data? | _ => none).getLast?.getD []

/-- The selection is one of the portfolios on show. A key moves it by one, round the list. -/
structure Rounds (portfolios : List Portfolio) (d : Dashboard) : Prop where
  inside : d.selected < portfolios.length
  selected : d.selected? = some portfolios[d.selected]
  next : ∀ steps, selectNext^[steps] d = { d with selected := (d.selected + steps) % portfolios.length }
  forth : d.selectPrevious.selectNext = d
  back : d.selectNext.selectPrevious = d
  roundForth : selectNext^[portfolios.length] d = d
  roundBack : selectPrevious^[portfolios.length] d = d

/-- No portfolio is on show, so there is nothing to select. -/
structure Rests (d : Dashboard) : Prop where
  selected : d.selected? = none
  next : d.selectNext = d
  previous : d.selectPrevious = d

theorem rests_of_empty {d : Dashboard} (empty : d.shown = []) : d.Rests where
  selected := by simp [selected?, empty]
  next := by simp [selectNext, empty]
  previous := by simp [selectPrevious, empty]

/-! Going round a list. -/

/-- The selection so many places further on. -/
def turned (places : Nat) (d : Dashboard) : Dashboard :=
  { d with selected := (d.selected + places) % d.shown.length }

section Turned

variable {d : Dashboard}

theorem turned_turned (more places : Nat) (d : Dashboard) : (d.turned places).turned more = d.turned (places + more) := by
  have same : ((d.selected + places) % d.shown.length + more) % d.shown.length =
      (d.selected + (places + more)) % d.shown.length := by
    rw [Nat.mod_add_mod, Nat.add_assoc]
  exact congrArg (fun place => { d with selected := place }) same

variable (inside : d.selected < d.shown.length)

include inside

theorem turned_whole (rounds : Nat) : d.turned (rounds * d.shown.length) = d := by
  have same : (d.selected + rounds * d.shown.length) % d.shown.length = d.selected := by
    rw [Nat.add_mul_mod_self_right, Nat.mod_eq_of_lt inside]
  exact congrArg (fun place => { d with selected := place }) same

theorem turned_iterate (places steps : Nat) : (turned places)^[steps] d = d.turned (steps * places) := by
  induction steps with
  | zero =>
    have still := turned_whole inside 0
    rw [Nat.zero_mul] at still ⊢
    exact still.symm
  | succ steps ih => rw [Function.iterate_succ_apply', ih, turned_turned, Nat.succ_mul]

theorem selectNext_turned : d.selectNext = d.turned 1 := by
  unfold selectNext
  rw [if_neg (by simp [List.ne_nil_of_length_pos (Nat.zero_lt_of_lt inside)])]
  rfl

/-- One back is all the others on. -/
theorem selectPrevious_turned : d.selectPrevious = d.turned (d.shown.length - 1) := by
  unfold selectPrevious turned
  rw [if_neg (by simp [List.ne_nil_of_length_pos (Nat.zero_lt_of_lt inside)]), Nat.add_sub_assoc (by omega)]

theorem turned_inside (places : Nat) : (d.turned places).selected < (d.turned places).shown.length :=
  Nat.mod_lt _ (Nat.zero_lt_of_lt inside)

theorem iterate_turned {step : Dashboard → Dashboard} {places : Nat}
    (turns : ∀ e : Dashboard, e.shown = d.shown → e.selected < e.shown.length → step e = e.turned places) (steps : Nat) :
    step^[steps] d = (turned places)^[steps] d := by
  induction steps with
  | zero => rfl
  | succ steps ih =>
    rw [Function.iterate_succ_apply', Function.iterate_succ_apply', ih, turned_iterate inside]
    exact turns _ rfl (turned_inside inside _)

end Turned

theorem rounds_of_inside {d : Dashboard} {portfolios : List Portfolio} (listed : d.portfolios = .data portfolios)
    (inside : d.selected < portfolios.length) : d.Rounds portfolios := by
  have shown : d.shown = portfolios := by simp [Dashboard.shown, listed, QueryState.data?]
  subst shown
  have onward (steps : Nat) : selectNext^[steps] d = d.turned steps := by
    rw [iterate_turned inside (fun e _ inside => selectNext_turned inside), turned_iterate inside, Nat.mul_one]
  have backward (steps : Nat) : selectPrevious^[steps] d = d.turned (steps * (d.shown.length - 1)) := by
    rw [iterate_turned inside (fun e same inside => same ▸ selectPrevious_turned inside), turned_iterate inside]
  have once := turned_whole inside 1
  refine ⟨inside, ?_, onward, ?_, ?_, ?_, ?_⟩
  · exact List.getElem?_eq_getElem inside
  · rw [selectPrevious_turned inside, selectNext_turned (turned_inside inside _), turned_turned]
    rwa [Nat.one_mul, ← Nat.sub_add_cancel (Nat.one_le_of_lt inside)] at once
  · rw [selectNext_turned inside, selectPrevious_turned (turned_inside inside _), turned_turned]
    rwa [Nat.one_mul, ← Nat.add_sub_of_le (Nat.one_le_of_lt inside)] at once
  · rw [onward, ← Nat.one_mul d.shown.length]
    exact once
  · rw [backward, Nat.mul_comm]
    exact turned_whole inside _

/-! After any changes. -/

theorem selecting_concat (changes : List Selecting) (c : Selecting) :
    selecting (changes ++ [c]) = (selecting changes).select c := by
  unfold selecting
  rw [List.foldl_append]
  rfl

theorem lastShown_concat (changes : List Selecting) (c : Selecting) : lastShown (changes ++ [c]) =
    match c with
    | .shown (.data portfolios) => portfolios
    | _ => lastShown changes := by
  unfold lastShown
  rw [List.filterMap_append]
  cases c with
  | shown state => cases state <;> simp [QueryState.data?]
  | next => simp
  | previous => simp

/-- The list on show is the last one. -/
theorem lastShown_of_data {changes : List Selecting} {portfolios : List Portfolio}
    (listed : (selecting changes).portfolios = .data portfolios) : lastShown changes = portfolios := by
  induction changes using List.reverseRecOn with
  | nil => exact nomatch listed
  | append_singleton changes c ih =>
    rw [selecting_concat] at listed
    rw [lastShown_concat]
    cases c with
    | shown state =>
      cases state with
      | data other => exact QueryState.data.inj listed
      | loading => exact nomatch listed
      | error text => exact nomatch listed
    | next =>
      obtain ⟨place, parts⟩ := (selecting changes).selectNext_parts
      exact ih ((congrArg Dashboard.portfolios parts).symm.trans listed)
    | previous =>
      obtain ⟨place, parts⟩ := (selecting changes).selectPrevious_parts
      exact ih ((congrArg Dashboard.portfolios parts).symm.trans listed)

theorem shown_cases (changes : List Selecting) :
    (selecting changes).shown = [] ∨ (selecting changes).shown = lastShown changes := by
  unfold shown
  cases listed : (selecting changes).portfolios with
  | data portfolios => exact .inr (lastShown_of_data listed).symm
  | loading => exact .inl rfl
  | error text => exact .inl rfl

/-- The place is inside the last list, also when that is not on show any more. -/
theorem selected_below (changes : List Selecting) :
    (selecting changes).selected ≤ (lastShown changes).length - 1 := by
  induction changes using List.reverseRecOn with
  | nil => exact Nat.zero_le _
  | append_singleton changes c ih =>
    have round {place : Nat} (some : ¬(selecting changes).shown.isEmpty = true) :
        place % (selecting changes).shown.length ≤ (lastShown changes).length - 1 := by
      rcases shown_cases changes with empty | last
      · exact absurd (List.isEmpty_iff.mpr empty) some
      · rw [last] at some ⊢
        exact Nat.le_sub_one_of_lt (Nat.mod_lt _ (List.length_pos_iff.mpr (mt List.isEmpty_iff.mpr some)))
    rw [selecting_concat, lastShown_concat]
    cases c with
    | shown state =>
      cases state with
      | data portfolios => exact Nat.min_le_right _ _
      | loading => exact ih
      | error text => exact ih
    | next =>
      change (selecting changes).selectNext.selected ≤ _
      unfold selectNext
      split
      · exact ih
      · rename_i some
        exact round some
    | previous =>
      change (selecting changes).selectPrevious.selected ≤ _
      unfold selectPrevious
      split
      · exact ih
      · rename_i some
        exact round some

/-- In every dashboard that lists, errors and keys have led to, a portfolio of the list on show is selected and the keys
go round the list; without a portfolio on show nothing is selected and the keys do nothing. An error keeps the place for a
list that is as long as the last one. -/
theorem selection_placed (changes : List Selecting) :
    (∀ portfolios, (selecting changes).portfolios = .data portfolios → portfolios ≠ [] →
      (selecting changes).Rounds portfolios) ∧
    ((∀ portfolios, (selecting changes).portfolios = .data portfolios → portfolios = []) →
      (selecting changes).Rests) ∧
    ∀ text portfolios, (lastShown changes).length ≤ portfolios.length →
      (selecting (changes ++ [.shown (.error text), .shown (.data portfolios)])).selected =
        (selecting changes).selected := by
  have below := selected_below changes
  refine ⟨fun portfolios listed some => ?_, fun none => ?_, fun text portfolios longer => ?_⟩
  · refine rounds_of_inside listed ?_
    rw [lastShown_of_data listed] at below
    exact Nat.lt_of_le_sub_one (List.length_pos_iff.mpr some) below
  · refine rests_of_empty ?_
    unfold shown
    cases listed : (selecting changes).portfolios with
    | data portfolios => exact none portfolios listed
    | loading => rfl
    | error text => rfl
  · have split : changes ++ [.shown (.error text), .shown (.data portfolios)] =
        changes ++ [.shown (.error text)] ++ [.shown (.data portfolios)] := by simp
    rw [split, selecting_concat, selecting_concat]
    change min (selecting changes).selected (portfolios.length - 1) = _
    exact Nat.min_eq_left (by omega)

end Dashboard
end TradingDesk
