import Mathlib.Data.List.Induction
import TradingDesk.Form.Limits
import TradingDesk.Proofs.Number.Count

/-! What saving the limits sends: for each field the number that was given last, where it differs. -/

namespace TradingDesk

/-- Limits of the usual size. -/
def RiskLimits.modest : RiskLimits := ⟨0.2, 0.02, 0.05, 10, 0.25, 0.7, 2, 1⟩

namespace LimitField

/-- The text gives the field this number: a finite one that is not negative, and for a count a whole one. -/
structure Fits (f : LimitField) (text : String) (x : Float) : Prop where
  read : Number.read (Text.trim text) = .ok x
  worth : ∃ a, (Exact.ofFloat x).worth? = some a ∧ 0 ≤ a ∧ (f = .maxOpenPositions → ∃ n : Nat, a = n)

theorem accept_iff (f : LimitField) (text : String) (x : Float) : f.accept text = .ok x ↔ f.Fits text x := by
  constructor
  · intro accepted
    unfold accept at accepted
    cases read : Number.read (Text.trim text) with
    | error cause =>
      rw [read] at accepted
      exact absurd accepted nofun
    | ok y =>
      simp only [read] at accepted
      split at accepted
      · exact absurd accepted nofun
      · rename_i inside
        have bounds : y.isFinite = true ∧ ¬y < 0 := by simpa using inside
        obtain ⟨a, worth, positive⟩ := (Exact.not_negative_iff y).mp bounds
        split at accepted
        · exact absurd accepted nofun
        · rename_i whole
          obtain rfl := Except.ok.inj accepted
          refine ⟨read, a, worth, positive, fun count => ?_⟩
          refine (Exact.hasNoFraction_iff worth positive).mp ?_
          simpa [count] using whole
  · rintro ⟨read, a, worth, positive, whole⟩
    obtain ⟨finite, above⟩ := (Exact.not_negative_iff x).mpr ⟨a, worth, positive⟩
    unfold accept
    simp only [read]
    rw [if_neg (by simp [finite, above]), if_neg]
    intro broken
    simp only [Bool.and_eq_true, decide_eq_true_eq, Bool.not_eq_true'] at broken
    have fraction := (Exact.hasNoFraction_iff worth positive).mpr (whole broken.1)
    rw [broken.2] at fraction
    exact absurd fraction nofun

/-- The number of positions that a double stands for, as far as 32 bits hold it. -/
def count (x : Float) : Nat :=
  min ⌊(Exact.ofFloat x).worth?.getD 0⌋₊ 0xFFFFFFFF

theorem count_eq {text : String} {x : Float} (fits : Fits .maxOpenPositions text x) : x.toUInt32.toNat = count x := by
  obtain ⟨a, worth, -, whole⟩ := fits.worth
  obtain ⟨n, value⟩ := whole rfl
  unfold count
  rw [Exact.toUInt32_worth worth value, worth, Option.getD_some, value, Nat.floor_natCast]

/-- The number that was given last for the field. -/
def lastGiven (f : LimitField) (given : List (LimitField × Float)) : Option Float :=
  ((given.filter fun g => g.1 = f).getLast?).map Prod.snd

/-- What is sent for a field that was given this number: nothing when it does not differ from the current limit. -/
def change? (current : RiskLimits) (f : LimitField) (x : Float) : Option Json :=
  if f = .maxOpenPositions then
    if current.maxOpenPositions.toNat = count x then none else some (.ofNat (count x))
  else if f.get current == x then none else some (.double x)

/-- The members of the update, in the order of the fields. -/
def changes (current : RiskLimits) (given : List (LimitField × Float)) : List (String × Json) :=
  all.flatMap fun f => Json.some? f.key ((lastGiven f given).bind (change? current f))

/-- The draft when the numbers were put into it one after the other. -/
def drafted (given : List (LimitField × Float)) (l : RiskLimits) : RiskLimits :=
  given.foldl (fun l g => g.1.set g.2 l) l

theorem drafted_append (first later : List (LimitField × Float)) (l : RiskLimits) :
    drafted (first ++ later) l = drafted later (drafted first l) :=
  List.foldl_append

theorem lastGiven_append (f : LimitField) (given : List (LimitField × Float)) (g : LimitField × Float) :
    lastGiven f (given ++ [g]) = if g.1 = f then some g.2 else lastGiven f given := by
  unfold lastGiven
  rw [List.filter_append]
  by_cases same : g.1 = f
  · simp [same]
  · simp [same]

/-- A part of the limits that one field sets holds what was given last for that field. -/
theorem drafted_part {γ : Type} {part : RiskLimits → γ} {f : LimitField} {convert : Float → γ}
    (own : ∀ x l, part (f.set x l) = convert x) (others : ∀ g x l, g ≠ f → part (set g x l) = part l)
    (given : List (LimitField × Float)) (l : RiskLimits) :
    part (drafted given l) = ((lastGiven f given).map convert).getD (part l) := by
  -- From the right, since the assignment that comes last decides.
  induction given using List.reverseRecOn with
  | nil => rfl
  | append_singleton given g ih =>
    rw [drafted_append, lastGiven_append]
    change part (g.1.set g.2 (drafted given l)) = _
    by_cases same : g.1 = f
    · rw [same, own, if_pos rfl]
      rfl
    · rw [others g.1 g.2 _ same, if_neg same, ih]

theorem get_set_other {f g : LimitField} (apart : g ≠ f) (x : Float) (l : RiskLimits) :
    f.get (g.set x l) = f.get l := by
  cases f <;> cases g <;> first | rfl | exact absurd rfl apart

theorem get_drafted {f : LimitField} (other : f ≠ .maxOpenPositions) (given : List (LimitField × Float))
    (l : RiskLimits) : f.get (drafted given l) = (lastGiven f given).getD (f.get l) := by
  have own (x : Float) (l : RiskLimits) : f.get (f.set x l) = id x := by
    cases f with
    | maxOpenPositions => exact absurd rfl other
    | _ => rfl
  rw [drafted_part own fun g x l apart => get_set_other apart x l, Option.map_id_fun, id_eq]

theorem lastGiven_mem {f : LimitField} {given : List (LimitField × Float)} {x : Float}
    (last : lastGiven f given = some x) : (f, x) ∈ given := by
  obtain ⟨g, found, rfl⟩ := Option.map_eq_some_iff.mp last
  obtain ⟨member, same⟩ := List.mem_filter.mp (List.mem_of_getLast? found)
  obtain rfl := of_decide_eq_true same
  exact member

theorem double_change {current : RiskLimits} {f : LimitField} (other : f ≠ .maxOpenPositions)
    (same : (f.get current == f.get current) = true) (given : List (LimitField × Float)) :
    (differing (f.get current) (f.get (drafted given current))).map .double =
      (lastGiven f given).bind (change? current f) := by
  rw [get_drafted other]
  cases lastGiven f given with
  | none => simp [differing, same]
  | some x =>
    simp only [differing, change?, Option.getD_some, Option.bind_some, if_neg other]
    split <;> rfl

theorem maxOpenPositions_drafted (given : List (LimitField × Float)) (l : RiskLimits) :
    (drafted given l).maxOpenPositions =
      ((lastGiven .maxOpenPositions given).map Float.toUInt32).getD l.maxOpenPositions := by
  refine drafted_part (fun _ _ => rfl) (fun g x l apart => ?_) given l
  cases g <;> first | rfl | exact absurd rfl apart

theorem positions_drafted {given : List (LimitField × Float)} (fit : ∀ g ∈ given, ∃ text, Fits g.1 text g.2)
    (l : RiskLimits) : (drafted given l).maxOpenPositions.toNat =
      ((lastGiven .maxOpenPositions given).map count).getD l.maxOpenPositions.toNat := by
  rw [maxOpenPositions_drafted]
  cases last : lastGiven .maxOpenPositions given with
  | none => rfl
  | some x =>
    obtain ⟨text, fits⟩ := fit _ (lastGiven_mem last)
    exact count_eq fits

/-- The limits with each field at the number that was given last for it. -/
structure Applied (given : List (LimitField × Float)) (limits draft : RiskLimits) : Prop where
  doubles : ∀ f ≠ .maxOpenPositions, get f draft = (lastGiven f given).getD (get f limits)
  positions : draft.maxOpenPositions.toNat =
    ((lastGiven .maxOpenPositions given).map count).getD limits.maxOpenPositions.toNat

theorem applied_iff {given : List (LimitField × Float)} (fit : ∀ g ∈ given, ∃ text, Fits g.1 text g.2)
    (limits draft : RiskLimits) : Applied given limits draft ↔ draft = drafted given limits := by
  constructor
  · rintro ⟨doubles, positions⟩
    have same (f : LimitField) (other : f ≠ .maxOpenPositions) : get f draft = get f (drafted given limits) :=
      (doubles f other).trans (get_drafted other given limits).symm
    have counted : draft.maxOpenPositions = (drafted given limits).maxOpenPositions :=
      UInt32.toNat_inj.mp (positions.trans (positions_drafted fit limits).symm)
    generalize drafted given limits = l at same counted
    obtain ⟨⟩ := l
    obtain ⟨⟩ := draft
    rw [RiskLimits.mk.injEq]
    exact ⟨same .maxPortfolioDrawdown nofun, same .maxSingleTradeRisk nofun, same .maxDailyLoss nofun, counted,
      same .maxPositionSizePct nofun, same .maxCorrelation nofun, same .minRiskReward nofun, same .maxLeverage nofun⟩
  · rintro rfl
    exact ⟨fun f other => get_drafted other given limits, positions_drafted fit limits⟩

theorem count_change {current : RiskLimits} {given : List (LimitField × Float)}
    (fit : ∀ g ∈ given, ∃ text, Fits g.1 text g.2) :
    (if current.maxOpenPositions = (drafted given current).maxOpenPositions then none
      else some (drafted given current).maxOpenPositions).map (fun n => Json.ofNat n.toNat) =
      (lastGiven .maxOpenPositions given).bind (change? current .maxOpenPositions) := by
  rw [maxOpenPositions_drafted]
  cases last : lastGiven .maxOpenPositions given with
  | none => simp
  | some x =>
    obtain ⟨text, fits⟩ := fit _ (lastGiven_mem last)
    have counted := count_eq fits
    simp only [Option.map_some, Option.getD_some, Option.bind_some, change?, ← counted, UInt32.toNat_inj]
    split <;> rfl

theorem update_changes {current : RiskLimits} {given : List (LimitField × Float)}
    (same : ∀ f ≠ .maxOpenPositions, (get f current == get f current) = true) (fit : ∀ g ∈ given, ∃ text, Fits g.1 text g.2) :
    (LimitsUpdate.between current (drafted given current)).toJson = .object (changes current given) := by
  have double (f : LimitField) (other : f ≠ .maxOpenPositions) := double_change other (same f other) given
  unfold LimitsUpdate.toJson LimitsUpdate.between changes all
  simp only [List.flatMap_cons, List.flatMap_nil, List.append_nil, List.append_assoc]
  rw [← count_change fit, ← double .maxPortfolioDrawdown nofun, ← double .maxSingleTradeRisk nofun,
    ← double .maxDailyLoss nofun, ← double .maxPositionSizePct nofun, ← double .maxCorrelation nofun,
    ← double .minRiskReward nofun, ← double .maxLeverage nofun]
  rfl

theorem update_empty (u : LimitsUpdate) : u.isEmpty = true ↔ u.toJson = .object [] := by
  have left_out {α : Type} (key : String) (value : Option α) (write : α → Json) :
      Json.some? key (value.map write) = [] ↔ value.isNone = true := by
    cases value with
    | none => exact ⟨fun _ => rfl, fun _ => rfl⟩
    | some a => exact ⟨nofun, nofun⟩
  unfold LimitsUpdate.isEmpty LimitsUpdate.toJson
  simp only [Json.object.injEq, List.append_eq_nil_iff, Bool.and_eq_true, left_out]

/-- Saving sends the changes, and nothing when there are none. -/
theorem save_drafted {current : RiskLimits} {given : List (LimitField × Float)}
    (same : ∀ f ≠ .maxOpenPositions, (get f current == get f current) = true) (fit : ∀ g ∈ given, ∃ text, Fits g.1 text g.2) :
    (changes current given = [] ∧ (LimitsEditor.editing (drafted given current)).save current = none) ∨
      (changes current given ≠ [] ∧ ∃ u, (LimitsEditor.editing (drafted given current)).save current = some u ∧
        u.toJson = .object (changes current given)) := by
  have update := update_changes same fit
  have empty := update_empty (LimitsUpdate.between current (drafted given current))
  rw [update, Json.object.injEq] at empty
  by_cases none : changes current given = []
  · exact .inl ⟨none, if_pos (empty.mpr none)⟩
  · exact .inr ⟨none, _, if_neg (mt empty.mp none), update⟩

end LimitField
end TradingDesk
