import TradingDesk.Proofs.Cache.Sound

/-! What a cache shows of a key is a function of the outcomes that were settled for it: the last one gives the
state, the last value gives the last data, and only a value that is neither outdated nor too old answers a
fetch. -/

namespace TradingDesk
open History

variable {V : Type}

namespace History

/-- The last settled outcome is a value of the caller's type, and fresh at the time of the call. -/
def Answers (options : CacheOptions) (accepts : V → Bool) (now : Nat) (key : Key) (h : History V) (value : V) :
    Prop :=
  ∃ last, (settlements key h).head? = some last ∧ last.outcome = .ok value ∧ accepts value = true ∧
    outdated key h = false ∧ ∀ age, options.staleAfter = some age → now - last.time ≤ age

end History

namespace Crowd

/-- `hit` and `miss` are the first move of a fetch; `unmoved` is any move but one that settles an outcome of the
key. -/
structure Reads (options : CacheOptions) (key : Key) (accepts : V → Bool) (c : Crowd V) : Prop where
  attached : (c.cache.slotAt key).flight.map Flight.id = attached key c.history
  lastData : c.cache.lastData accepts key =
    ((settlements key c.history).findSome? Settlement.value?).filter accepts
  state : c.cache.state accepts key =
    match (settlements key c.history).head? with
    | none => .loading
    | some last => Outcome.shownTo accepts key last.outcome
  hit : ∀ i now ready value, c.visitors[i]? = some ⟨key, accepts, .looking⟩ →
    Answers options accepts now key c.history value →
    c.step (.advance i now ready) =
      { c.put i ⟨key, accepts, .looking⟩ (.answered (c.lastSource key) (.data value)) with
        history := .hit i key (c.lastSource key) :: c.history }
  miss : ∀ i now ready, c.visitors[i]? = some ⟨key, accepts, .looking⟩ →
    (∀ value, ¬Answers options accepts now key c.history value) →
    c.step (.advance i now ready) = c.put i ⟨key, accepts, .looking⟩ .joining
  unmoved : ∀ m, (∀ r outcome now, (c.step m).history = .seen key r outcome now :: c.history →
      History.attached key c.history ≠ some r) →
    (c.step m).cache.state accepts key = c.cache.state accepts key ∧
      (c.step m).cache.lastData accepts key = c.cache.lastData accepts key

theorem options_moved {c next : Crowd V} (m : Moved c next) : next.cache.options = c.cache.options := by
  cases m with
  | settled i v r outcome now here stands => exact Cache.options_settle v.key r outcome now c.cache
  | rest => rfl
  | missed i v here stands => rfl
  | polled i v r attempts here stands kept => rfl
  | left i v here => rfl
  | mutated mutations => rfl
  | called key accepts stand begun => rfl
  | hit i v now value here stands fresh => rfl
  | joined i v flight here stands under => rfl
  | started i v here stands idle => rfl
  | invalidated start mutations => rfl

theorem options_steps (c : Crowd V) (moves : List (Move V)) :
    (steps moves c).cache.options = c.cache.options := by
  induction moves generalizing c with
  | nil => rfl
  | cons m rest ih => exact (ih (c.step m)).trans (options_moved (moved c m))

private theorem settlements_cons (key : Key) (e : CacheEvent V) (h : History V) :
    settlements key (e :: h) = settlements key h ∨
      ∃ r outcome now, e = .seen key r outcome now ∧ attached key h = some r := by
  cases e with
  | seen k r outcome now =>
    by_cases here : k = key ∧ attached key h = some r
    · obtain ⟨rfl, on⟩ := here
      exact .inr ⟨r, outcome, now, rfl, on⟩
    · left
      simp only [settlements, if_neg here]
  | called caller k => exact .inl rfl
  | hit caller k source => exact .inl rfl
  | joined caller k r isNew => exact .inl rfl
  | invalidated start => exact .inl rfl

private theorem settlements_unmoved (c : Crowd V) (key : Key) (m : Move V)
    (other : ∀ r outcome now, (c.step m).history = .seen key r outcome now :: c.history →
      attached key c.history ≠ some r) :
    settlements key (c.step m).history = settlements key c.history := by
  rcases history_moved (moved c m) with same | ⟨e, more⟩
  · rw [same]
  · rcases settlements_cons key e c.history with same | ⟨r, outcome, now, rfl, on⟩
    · rw [more, same]
    · exact absurd on (other r outcome now more)

/-- Every reachable cache reads like the ledger of its settled outcomes. -/
theorem run_reads (options : CacheOptions) (moves : List (Move V)) (key : Key) (accepts : V → Bool) :
    Reads options key accepts (run options moves) := by
  have sound := sound_run options moves
  have tallies := sound.recorded.tallies key
  have fresh (now : Nat) (value : V) :
      (run options moves).cache.fresh? accepts now key = some value ↔
        Answers options accepts now key (run options moves).history value := by
    have told := Cache.fresh?_of_tallies accepts now key _ (run options moves).cache tallies value
    have same : (run options moves).cache.options = options := options_steps _ moves
    rw [same] at told
    exact told
  refine ⟨tallies.flight, Cache.lastData_of_tallies accepts key _ _ tallies,
    Cache.state_of_tallies accepts key _ _ tallies, ?_, ?_, ?_⟩
  · intro i now ready value here answers
    have found := (fresh now value).mpr answers
    rw [step_advance _ i now _ ready here]
    simp only [advance, found]
  · intro i now ready here silent
    have missed : (run options moves).cache.fresh? accepts now key = none := by
      rw [Option.eq_none_iff_forall_ne_some]
      intro value found
      exact silent value ((fresh now value).mp found)
    rw [step_advance _ i now _ ready here]
    simp only [advance, missed]
  · intro m other
    have next := (sound_moved sound (moved _ m)).recorded.tallies key
    have same := settlements_unmoved (run options moves) key m other
    constructor
    · rw [Cache.state_of_tallies accepts key _ _ next, Cache.state_of_tallies accepts key _ _ tallies, same]
    · rw [Cache.lastData_of_tallies accepts key _ _ next, Cache.lastData_of_tallies accepts key _ _ tallies,
        same]

private def rate : Key := ⟨["rates", "EUR"]⟩

/-- A value comes and is settled, and then a request for the next one fails. -/
private def failing : List (Move Nat) :=
  [.call .fetch (fun _ => true) rate, .advance 0 0 fun _ _ => none, .advance 0 0 fun _ _ => none,
    .advance 0 1 fun _ _ => some (.ok 7), .advance 0 1 fun _ _ => none,
    .call .refetch (fun _ => true) rate, .advance 1 2 fun _ _ => none,
    .advance 1 3 fun _ _ => some (.error (.network "refused")), .advance 1 3 fun _ _ => none]

/-- A reader of another type is shown the value as an error, and keeps none when a request fails. -/
theorem run_reads_typed :
    ((run {} (failing.take 5)).cache.state (· < 10) rate = .data 7 ∧
      (run {} (failing.take 5)).cache.state (10 ≤ ·) rate =
        .error "Unexpected response: cached value for 'rates/EUR' has an unexpected type") ∧
    ∀ accepts, (run {} failing).cache.state accepts rate = .error "Network error: refused" ∧
      (run {} failing).cache.lastData accepts rate = (some 7).filter accepts := by
  have settled : settlements rate (run {} (failing.take 5)).history = [⟨0, .ok 7, 1⟩] := by
    with_unfolding_all rfl
  have failed : settlements rate (run {} failing).history =
      [⟨1, .error (.network "refused"), 3⟩, ⟨0, .ok 7, 1⟩] := by
    with_unfolding_all rfl
  refine ⟨⟨?_, ?_⟩, fun accepts => ⟨?_, ?_⟩⟩
  · rw [(run_reads {} (failing.take 5) rate (· < 10)).state, settled]
    rfl
  · rw [(run_reads {} (failing.take 5) rate (10 ≤ ·)).state, settled]
    rfl
  · rw [(run_reads {} failing rate accepts).state, failed]
    rfl
  · rw [(run_reads {} failing rate accepts).lastData, failed]
    rfl

end Crowd
end TradingDesk
