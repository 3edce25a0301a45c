import TradingDesk.Proofs.Cache.Sound

/-! An invalidation is a barrier for the keys below its prefix: what was asked before it neither answers nor
changes anything that comes after it. -/

namespace TradingDesk
open History

variable {V : Type}

namespace Crowd

section Since

variable {c : Crowd V} {key start : Key} {after before : History V}

private theorem source_since (sound : Sound c) (below : key.startsWith start = true)
    (split : c.history = after ++ .invalidated start :: before) {i r : Nat} {v : Visitor V}
    (here : c.visitors[i]? = some v) (same : v.key = key) (called : .called i key ∈ after)
    (bound : v.stand.request? = some r) : StartedOn key r after := by
  have orderly := sound.recorded.orderly
  rw [split] at orderly
  have served := bound_of_stand sound here bound
  rw [split, same] at served
  rcases served with hit | ⟨isNew, joined⟩
  · have late := orderly.served_since called hit rfl
    obtain ⟨request, source, on⟩ := hit_since below orderly late
    obtain rfl : r = request := Option.some.inj source
    exact on
  · have late := orderly.served_since called joined rfl
    exact joined_since below orderly late

private theorem joined_before (sound : Sound c) (below : key.startsWith start = true)
    (split : c.history = after ++ .invalidated start :: before) {i r : Nat} {v : Visitor V}
    (here : c.visitors[i]? = some v) (under : attached key before = some r)
    (bound : v.stand.request? = some r) : ∃ isNew, .joined i key r isNew ∈ before := by
  have orderly := sound.recorded.orderly
  rw [split] at orderly
  have rest : Orderly (.invalidated start :: before) := orderly.suffix
  have early : Orderly before := rest.2
  have onBefore : StartedOn key r before := attached_started under
  have later : StartedOn key r (after ++ .invalidated start :: before) := onBefore.later after _
  have notSince (on : StartedOn key r after) : False :=
    orderly.started_apart on (onBefore.weaken _)
  have served := bound_of_stand sound here bound
  rw [split] at served
  -- A request belongs to one key, so the visitor called for this very key.
  have same : v.key = key := by
    rcases served with hit | ⟨isNew, joined⟩
    · obtain ⟨s, settled, source⟩ := orderly.hit_settled hit
      obtain rfl : r = s.request := Option.some.inj source
      exact orderly.same_key (settlement_seen settled).2 later
    · exact orderly.same_key (orderly.joined_started joined) later
  rw [same] at served
  rcases served with hit | ⟨isNew, joined⟩
  · -- The request was detached by the invalidation, so its outcome was never settled.
    obtain ⟨s, settled, source⟩ := orderly.hit_settled hit
    obtain rfl : r = s.request := Option.some.inj source
    rcases settled_before_or_since below settled with old | on
    · exact absurd under (early.detached_of_settled old)
    · exact (notSince on).elim
  · rcases List.mem_append.mp joined with since | rest
    · exact (notSince (joined_since below orderly since)).elim
    · rcases List.mem_cons.mp rest with impossible | old
      · simp at impossible
      · exact ⟨isNew, old⟩

private theorem settle_late (sound : Sound c) (below : key.startsWith start = true)
    (split : c.history = after ++ .invalidated start :: before) {i r now : Nat} {v : Visitor V}
    {outcome : Outcome V} {ready : Nat → Nat → Option (Outcome V)} (here : c.visitors[i]? = some v)
    (old : StartedOn key r before) (stands : v.stand = .settling r outcome) :
    (c.step (.advance i now ready)).cache = c.cache := by
  have orderly := sound.recorded.orderly
  obtain ⟨⟨isNew, joined⟩, -⟩ := sound.fits_at here stands
  have on : StartedOn key r c.history := by
    rw [split]
    exact old.later after _
  obtain rfl : v.key = key := orderly.same_key (orderly.joined_started joined) on
  have detached : attached v.key c.history ≠ some r := by
    intro again
    -- What is attached after the invalidation was started after it.
    rw [split] at again orderly
    exact orderly.started_apart (attached_since below again) (old.weaken _)
  have waits := (sound.recorded.tallies v.key).waitsFor_false detached
  rw [step_advance c i now v ready here]
  simp only [advance, stands]
  exact Cache.settle_other v.key r outcome now c.cache waits

end Since

/-- Split any run at an invalidation. Whoever calls for a key below its prefix afterwards is answered by a request
that was started afterwards. The request under way at that moment is left to those that had joined it, and
bringing the outcome of an older request to the slot changes nothing. -/
theorem invalidation_separates (options : CacheOptions) (moves : List (Move V)) (key start : Key)
    (after before : History V) (below : key.startsWith start = true)
    (split : (run options moves).history = after ++ .invalidated start :: before) :
    (∀ i v source state, (run options moves).visitors[i]? = some v → .called i key ∈ after →
      v.stand = .answered source state →
      ∃ r outcome, source = some r ∧ r ∈ started after ∧ r ∉ started before ∧
        ((run options moves).requests r).outcome = some outcome ∧
        state = Outcome.shownTo v.accepts key outcome) ∧
    (∀ r, attached key before = some r → ∀ i v, (run options moves).visitors[i]? = some v →
      v.stand.request? = some r → ∃ isNew, .joined i key r isNew ∈ before) ∧
    (∀ r, StartedOn key r before → ∀ i v outcome now ready, (run options moves).visitors[i]? = some v →
      v.stand = .settling r outcome →
      ((run options moves).step (.advance i now ready)).cache = (run options moves).cache) := by
  have sound := sound_run options moves
  refine ⟨?_, ?_, ?_⟩
  · intro i v source state here called stands
    obtain ⟨r, outcome, same, finished, shown⟩ := answer_outcome sound here stands
    have wanted : v.key = key := by
      have inside : .called i key ∈ (run options moves).history := by
        rw [split]
        exact List.mem_append_left _ called
      obtain ⟨w, there, asked⟩ := sound.called i key inside
      obtain rfl : v = w := Option.some.inj (here.symm.trans there)
      exact asked
    have bound : v.stand.request? = some r := by rw [stands, Stand.request?, same]
    have on := source_since sound below split here wanted called bound
    have orderly := sound.recorded.orderly
    rw [split] at orderly
    refine ⟨r, outcome, same, mem_started.mpr ⟨key, on⟩, ?_, finished, wanted ▸ shown⟩
    intro early
    obtain ⟨other, too⟩ := mem_started.mp early
    exact orderly.started_apart on (too.weaken _)
  · intro r under i v here bound
    exact joined_before sound below split here under bound
  · intro r old i v outcome now ready here stands
    exact settle_late sound below split here old stands

private def book : Key := ⟨["portfolios", "1"]⟩

/-- An old request that comes in last. -/
def overtaken : List (Move Nat) :=
  [.call .refetch (fun _ => true) book, .advance 0 0 fun _ _ => none, .invalidate ⟨["portfolios"]⟩,
    .call .fetch (fun _ => true) book, .advance 1 0 fun _ _ => none, .advance 1 0 fun _ _ => none,
    .advance 1 1 fun _ _ => some (.ok 2), .advance 1 1 fun _ _ => none,
    .advance 0 2 fun _ _ => some (.ok 1), .advance 0 2 fun _ _ => none]

private def sinceInvalidation : History Nat :=
  [.seen book 0 (.ok 1) 2, .seen book 1 (.ok 2) 1, .joined 1 book 1 true, .called 1 book]

private def untilInvalidation : History Nat := [.joined 0 book 0 true, .called 0 book]

theorem overtaken_answered : book.startsWith ⟨["portfolios"]⟩ = true ∧
    (run {} overtaken).history = sinceInvalidation ++ .invalidated ⟨["portfolios"]⟩ :: untilInvalidation ∧
    ∃ r outcome, some 1 = some r ∧ r ∈ started sinceInvalidation ∧ r ∉ started untilInvalidation ∧
      ((run {} overtaken).requests r).outcome = some outcome ∧
      .data 2 = Outcome.shownTo (fun _ => true) book outcome := by
  have below : book.startsWith ⟨["portfolios"]⟩ = true := by decide
  have split : (run {} overtaken).history =
      sinceInvalidation ++ .invalidated ⟨["portfolios"]⟩ :: untilInvalidation := by with_unfolding_all rfl
  have here : (run {} overtaken).visitors[1]? =
      some ⟨book, fun _ => true, .answered (some 1) (.data 2)⟩ := by with_unfolding_all rfl
  have called : .called 1 book ∈ sinceInvalidation := by simp [sinceInvalidation]
  have separated := invalidation_separates {} overtaken book ⟨["portfolios"]⟩ sinceInvalidation
    untilInvalidation below split
  exact ⟨below, split, separated.1 1 _ (some 1) (.data 2) here called rfl⟩

end Crowd
end TradingDesk
