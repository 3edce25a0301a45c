import TradingDesk.Proofs.Cache.Sound

/-! One request at a time for each key, shared by everybody who joins it. -/

namespace TradingDesk
open History

variable {V : Type}

namespace Crowd

/-- `stays` to `asksNobody` say who is bound to a request, `answers` to `leaves` what becomes of those that are, and
the rest what becomes of its outcome. -/
structure Shares (c : Crowd V) : Prop where
  distinct : (started c.history).Nodup
  numbered : ∀ r ∈ started c.history, r < c.cache.nextRequest
  oneSlot : c.cache.keys.Nodup
  flight : ∀ key, (c.cache.slotAt key).flight =
    (attached key c.history).map fun r => ⟨r, (c.cache.slotAt key).generation⟩
  stays : ∀ key r m, attached key c.history = some r →
    attached key (c.step m).history = some r ∨
      (∃ outcome now, (c.step m).history = .seen key r outcome now :: c.history) ∨
      ∃ start, (c.step m).history = .invalidated start :: c.history ∧ key.startsWith start = true
  misses : ∀ i v now ready, c.visitors[i]? = some v → v.stand = .looking →
    c.cache.fresh? v.accepts now v.key = none → c.step (.advance i now ready) = c.put i v .joining
  joins : ∀ i v r now ready, c.visitors[i]? = some v → v.stand = .joining → attached v.key c.history = some r →
    c.step (.advance i now ready) =
      { c.put i v (.waiting r) with history := .joined i v.key r false :: c.history }
  asksNobody : ∀ i key r, .joined i key r false ∈ c.history → ∀ other r', .joined i other r' true ∉ c.history
  answers : ∀ (i : Nat) (v : Visitor V) (r : Nat) (state : QueryState V), c.visitors[i]? = some v →
    v.stand = .answered (some r) state →
    ∃ outcome, (c.requests r).outcome = some outcome ∧ state = Outcome.shownTo v.accepts v.key outcome
  keeps : ∀ r outcome m, (c.requests r).outcome = some outcome → ((c.step m).requests r).outcome = some outcome
  gets : ∀ i v r outcome now ready later other, c.visitors[i]? = some v → v.stand = .waiting r →
    ((c.requests r).drive c.cache.options.retries ready now).1.outcome = some outcome →
    ((c.step (.advance i now ready)).step (.advance i later other)).visitors[i]? =
      some { v with stand := .answered (some r) (Outcome.shownTo v.accepts v.key outcome) }
  leaves : ∀ i, (c.step (.drop i)).cache = c.cache ∧ (c.step (.drop i)).requests = c.requests ∧
    (c.step (.drop i)).history = c.history ∧
    ∀ j, j ≠ i → (c.step (.drop i)).visitors[j]? = c.visitors[j]?
  writtenOnce : ∀ key, ((settlements key c.history).map Settlement.request).Nodup
  writes : ∀ i v r outcome now ready, c.visitors[i]? = some v → v.stand = .settling r outcome →
    (c.step (.advance i now ready)).cache =
      if attached v.key c.history = some r then
        c.cache.setSlot v.key ((c.cache.slotAt v.key).settled outcome now)
      else c.cache

section Parts

variable {c : Crowd V} (sound : Sound c)

include sound

private theorem flight_current (key : Key) : (c.cache.slotAt key).flight =
    (attached key c.history).map fun r => ⟨r, (c.cache.slotAt key).generation⟩ := by
  have t := sound.recorded.tallies key
  rw [← t.flight]
  cases under : (c.cache.slotAt key).flight with
  | none => rfl
  | some f =>
    have current := t.generation f under
    simp [← current]

private theorem stays_attached (key : Key) (r : Nat) (m : Move V) (on : attached key c.history = some r) :
    attached key (c.step m).history = some r ∨
      (∃ outcome now, (c.step m).history = .seen key r outcome now :: c.history) ∨
      ∃ start, (c.step m).history = .invalidated start :: c.history ∧ key.startsWith start = true := by
  have next := (sound_moved sound (moved c m)).recorded.orderly
  rcases history_moved (moved c m) with same | ⟨e, more⟩
  · rw [same]
    exact .inl on
  · rw [more] at next ⊢
    rcases attached_until on next.1 with still | ⟨outcome, now, rfl⟩ | ⟨start, rfl, below⟩
    · exact .inl still
    · exact .inr (.inl ⟨outcome, now, rfl⟩)
    · exact .inr (.inr ⟨start, rfl, below⟩)

private theorem joins_attached (i : Nat) (v : Visitor V) (r now : Nat) (ready : Nat → Nat → Option (Outcome V))
    (here : c.visitors[i]? = some v) (stands : v.stand = .joining) (on : attached v.key c.history = some r) :
    c.step (.advance i now ready) =
      { c.put i v (.waiting r) with history := .joined i v.key r false :: c.history } := by
  have under := flight_current sound v.key
  rw [on, Option.map_some] at under
  rw [step_advance c i now v ready here]
  simp only [advance, stands, Cache.joinOrStart_flight v.key c.cache _ under]
  rfl

private theorem asks_nobody (i : Nat) (key : Key) (r : Nat) (joined : .joined i key r false ∈ c.history)
    (other : Key) (r' : Nat) : .joined i other r' true ∉ c.history := by
  intro started
  have same := sound.recorded.orderly.served_once joined started rfl rfl
  simp at same

private theorem writes_slot (i : Nat) (v : Visitor V) (r : Nat) (outcome : Outcome V) (now : Nat)
    (ready : Nat → Nat → Option (Outcome V)) (here : c.visitors[i]? = some v)
    (stands : v.stand = .settling r outcome) :
    (c.step (.advance i now ready)).cache =
      if attached v.key c.history = some r then
        c.cache.setSlot v.key ((c.cache.slotAt v.key).settled outcome now)
      else c.cache := by
  have t := sound.recorded.tallies v.key
  rw [step_advance c i now v ready here]
  simp only [advance, stands]
  by_cases on : attached v.key c.history = some r
  · rw [if_pos on]
    exact Cache.settle_waiting v.key r outcome now c.cache ((t.waitsFor_iff r).mpr on)
  · rw [if_neg on]
    exact Cache.settle_other v.key r outcome now c.cache (t.waitsFor_false on)

end Parts

private theorem gets_outcome (c : Crowd V) (i : Nat) (v : Visitor V) (r : Nat) (outcome : Outcome V)
    (now : Nat) (ready : Nat → Nat → Option (Outcome V)) (later : Nat) (other : Nat → Nat → Option (Outcome V))
    (here : c.visitors[i]? = some v) (stands : v.stand = .waiting r)
    (finished : ((c.requests r).drive c.cache.options.retries ready now).1.outcome = some outcome) :
    ((c.step (.advance i now ready)).step (.advance i later other)).visitors[i]? =
      some { v with stand := .answered (some r) (Outcome.shownTo v.accepts v.key outcome) } := by
  have polled : (c.step (.advance i now ready)).visitors[i]? = some { v with stand := .settling r outcome } := by
    rw [step_advance c i now v ready here]
    simp only [advance, stands, afterPoll, finished]
    exact put_visitor c i v _ here
  generalize c.step (.advance i now ready) = next at polled
  rw [step_advance next i later _ other polled]
  simp only [advance, Cache.answerOf_shownTo]
  exact put_visitor next i _ _ polled

private theorem leaves_alone (c : Crowd V) (i : Nat) : (c.step (.drop i)).cache = c.cache ∧
    (c.step (.drop i)).requests = c.requests ∧ (c.step (.drop i)).history = c.history ∧
    ∀ j, j ≠ i → (c.step (.drop i)).visitors[j]? = c.visitors[j]? := by
  simp only [step]
  cases here : c.visitors[i]? with
  | none => exact ⟨rfl, rfl, rfl, fun j _ => rfl⟩
  | some v =>
    simp only [leave]
    split
    · exact ⟨rfl, rfl, rfl, fun j _ => rfl⟩
    · refine ⟨rfl, rfl, rfl, ?_⟩
      intro j differ
      exact put_other c i j v .gone differ

/-- In every reachable state requests are shared. -/
theorem run_shares (options : CacheOptions) (moves : List (Move V)) : Shares (run options moves) := by
  have sound := sound_run options moves
  exact {
    distinct := sound.recorded.orderly.distinct
    numbered := sound.recorded.numbered
    oneSlot := sound.recorded.distinct
    flight := flight_current sound
    stays := stays_attached sound
    misses := by
      intro i v now ready here stands missed
      rw [step_advance _ i now v ready here]
      simp only [advance, stands, missed]
    joins := joins_attached sound
    asksNobody := asks_nobody sound
    answers := by
      intro i v r state here stands
      obtain ⟨request, outcome, same, finished, shown⟩ := answer_outcome sound here stands
      obtain rfl : r = request := Option.some.inj same
      exact ⟨outcome, finished, shown⟩
    keeps := fun r outcome m finished => outcome_moved (moved _ m) r outcome finished
    gets := gets_outcome _
    leaves := leaves_alone _
    writtenOnce := sound.recorded.orderly.settled_once
    writes := writes_slot sound }

private def candles : Key := ⟨["bars", "BTC/USDT"]⟩

/-- The second of two callers joins the request of the first, polls it and is answered. -/
private def together : List (Move Nat) :=
  [.call .fetch (10 ≤ ·) candles, .call .fetch (· < 10) candles,
    .advance 0 0 fun _ _ => none, .advance 1 0 fun _ _ => none, .advance 0 0 fun _ _ => none,
    .advance 1 0 fun _ _ => none, .advance 1 1 fun _ _ => some (.ok 7), .advance 1 1 fun _ _ => none]

/-- Nothing more has to come for the first caller, whose values are of another type. -/
theorem run_shares_finished :
    started (run {} together).history = [0] ∧
    (run {} together).visitors[1]? = some ⟨candles, (· < 10), .answered (some 0) (.data 7)⟩ ∧
    (((run {} together).step (.advance 0 2 fun _ _ => none)).step (.advance 0 2 fun _ _ => none)).visitors[0]? =
      some ⟨candles, (10 ≤ ·), .answered (some 0)
        (.error "Unexpected response: cached value for 'bars/BTC/USDT' has an unexpected type")⟩ := by
  have first : (run {} together).visitors[0]? = some ⟨candles, (10 ≤ ·), .waiting 0⟩ := by with_unfolding_all rfl
  have finished : (((run {} together).requests 0).drive (run {} together).cache.options.retries
      (fun _ _ => none) 2).1.outcome = some (.ok 7) := by
    with_unfolding_all rfl
  refine ⟨by with_unfolding_all rfl, by with_unfolding_all rfl, ?_⟩
  exact (run_shares {} together).gets 0 _ 0 (.ok 7) 2 (fun _ _ => none) 2 (fun _ _ => none) first rfl finished

end Crowd
end TradingDesk
