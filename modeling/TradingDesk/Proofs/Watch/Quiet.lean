import TradingDesk.Proofs.Cache.Callers
import TradingDesk.Proofs.Watch.Behind

/-! What leaves the portfolios alone. Most of what a watch does is quiet: the slot of the portfolios, whoever waits
for them, the results that wait to be looked at and the list on the screen stay as they are. -/

namespace TradingDesk
namespace Watch
open Query Traffic

/-- The poller calls for tickers, everybody else for portfolios. -/
structure Seated (t : Traffic Cached) : Prop where
  distinct : t.Distinct
  load : ∀ name caller, t.callers.lookup name = some caller → name ≠ Poller.callerName →
    caller.key = portfoliosKey ∧ caller.accepts = Cached.arePortfolios
  poller : ∀ caller, t.callers.lookup Poller.callerName = some caller → caller.key ≠ portfoliosKey
  generation : ∀ flight, (t.cache.slotAt portfoliosKey).flight = some flight →
    flight.generation = (t.cache.slotAt portfoliosKey).generation

structure Aside (t next : Traffic Cached) : Prop where
  seated : Seated next
  slot : next.cache.slotAt portfoliosKey = t.cache.slotAt portfoliosKey
  outcomes : ∀ r outcome, (t.request r).outcome = some outcome → (next.request r).outcome = some outcome
  loads : ∀ name, name ≠ Poller.callerName → next.callers.lookup name = t.callers.lookup name

namespace Aside

theorem refl {t : Traffic Cached} (seated : Seated t) : Aside t t :=
  ⟨seated, rfl, fun _ _ done => done, fun _ _ => rfl⟩

theorem trans {t next last : Traffic Cached} (first : Aside t next) (second : Aside next last) :
    Aside t last where
  seated := second.seated
  slot := second.slot.trans first.slot
  outcomes := fun r outcome done => second.outcomes r outcome (first.outcomes r outcome done)
  loads := fun name differ => (second.loads name differ).trans (first.loads name differ)

/-- The callers may only differ in the poller, and the poller calls for something else. -/
theorem of_callers {t next : Traffic Cached} (seated : Seated t) (distinct : next.Distinct)
    (slot : next.cache.slotAt portfoliosKey = t.cache.slotAt portfoliosKey)
    (outcomes : ∀ r outcome, (t.request r).outcome = some outcome → (next.request r).outcome = some outcome)
    (loads : ∀ name, name ≠ Poller.callerName → next.callers.lookup name = t.callers.lookup name)
    (poller : ∀ caller, next.callers.lookup Poller.callerName = some caller → caller.key ≠ portfoliosKey) :
    Aside t next := by
  refine ⟨⟨distinct, ?_, poller, ?_⟩, slot, outcomes, loads⟩
  · intro name caller found differ
    rw [loads name differ] at found
    exact seated.load name caller found differ
  · rw [slot]
    exact seated.generation

theorem drop {t : Traffic Cached} (seated : Seated t) : Aside t (t.drop Poller.callerName) := by
  refine of_callers seated (seated.distinct.drop _) rfl (fun _ _ done => done) ?_ ?_
  · intro name differ
    rw [lookup_drop, if_neg differ]
  · intro caller found
    rw [lookup_drop, if_pos rfl] at found
    simp at found

theorem setRequest {t : Traffic Cached} (seated : Seated t) (world : World Cached) (now : Nat)
    (caller : Caller Cached) : Aside t (t.setRequest caller.request (driven world now caller t)) := by
  refine of_callers seated seated.distinct rfl ?_ (fun _ _ => rfl) seated.poller
  intro r outcome done
  rw [request_setRequest]
  by_cases same : r = caller.request
  · rw [if_pos same, driven_finished world now caller t outcome (same ▸ done), ← same]
    exact done
  · rw [if_neg same]
    exact done

theorem settle {t : Traffic Cached} (seated : Seated t) (key : Key) (id : Nat) (outcome : Outcome Cached)
    (now : Nat) (apart : key ≠ portfoliosKey) :
    Aside t { t with cache := (t.cache.settle key id outcome now).1 } := by
  exact of_callers seated seated.distinct
    (Cache.slotAt_settle_other key portfoliosKey id outcome now t.cache (Ne.symm apart)) (fun _ _ done => done)
    (fun _ _ => rfl) seated.poller

/-- A poll of the poller's request. -/
theorem pollCaller {t : Traffic Cached} (seated : Seated t) (world : World Cached) (now : Nat)
    (caller : Caller Cached) (apart : caller.key ≠ portfoliosKey) :
    Aside t (t.pollCaller world now Poller.callerName caller).1 := by
  have set := setRequest seated world now caller
  cases finished : (driven world now caller t).outcome with
  | none =>
    rw [(pollCaller_unfinished world now Poller.callerName caller t finished).1]
    exact set
  | some outcome =>
    rw [(pollCaller_finished world now Poller.callerName caller t outcome finished).1]
    have settled := settle set.seated caller.key caller.request outcome now apart
    exact set.trans (settled.trans (drop settled.seated))

theorem joined {t : Traffic Cached} (seated : Seated t) (accepts : Cached → Bool) (key : Key)
    (apart : key ≠ portfoliosKey) : Aside t (t.joined Poller.callerName accepts key) := by
  refine of_callers seated (seated.distinct.joined _ _ _) ?_ (fun _ _ done => done) ?_ ?_
  · change (t.cache.joinOrStart key).1.slotAt portfoliosKey = _
    cases under : (t.cache.slotAt key).flight with
    | some flight => rw [Cache.joinOrStart_flight key t.cache flight under]
    | none =>
      rw [Cache.joinOrStart_start key t.cache under]
      change (t.cache.setSlot key _).slotAt portfoliosKey = _
      rw [Cache.slotAt_setSlot, if_neg (Ne.symm apart)]
  · intro name differ
    rw [lookup_joined, if_neg differ]
  · intro caller found
    rw [lookup_joined, if_pos rfl] at found
    obtain rfl := Option.some.inj found
    exact apart

theorem start {t : Traffic Cached} (seated : Seated t) (world : World Cached) (now : Nat) (mode : FetchMode)
    (accepts : Cached → Bool) (key : Key) (apart : key ≠ portfoliosKey) :
    Aside t (t.start world now Poller.callerName mode accepts key).1 := by
  rcases start_cases world now Poller.callerName mode accepts key t with ⟨v, _, hit⟩ | ⟨_, asks⟩
  · rw [hit]
    exact refl seated
  · rw [asks]
    have joins := joined seated accepts key apart
    exact joins.trans (pollCaller joins.seated world now _ apart)

end Aside

structure Steady (w : Watch) : Prop where
  seated : Seated w.traffic
  poller : ∀ p, w.poller = some p → p.key ≠ portfoliosKey

structure Quiet (w next : Watch) : Prop where
  aside : Aside w.traffic next.traffic
  poller : ∀ p, next.poller = some p → p.key ≠ portfoliosKey
  notices : next.notices = w.notices
  screen : next.dashboard.portfolios = w.dashboard.portfolios

theorem Quiet.steady {w next : Watch} (quiet : Quiet w next) : Steady next :=
  ⟨quiet.aside.seated, quiet.poller⟩

theorem Quiet.trans {w next last : Watch} (first : Quiet w next) (second : Quiet next last) : Quiet w last where
  aside := first.aside.trans second.aside
  poller := second.poller
  notices := second.notices.trans first.notices
  screen := second.screen.trans first.screen

/-- Neither the traffic nor the poller is touched. -/
theorem Quiet.same {w next : Watch} (steady : Steady w) (traffic : next.traffic = w.traffic)
    (poller : next.poller = w.poller) (notices : next.notices = w.notices)
    (screen : next.dashboard.portfolios = w.dashboard.portfolios) : Quiet w next where
  aside := by
    rw [traffic]
    exact .refl steady.seated
  poller := by
    rw [poller]
    exact steady.poller
  notices := notices
  screen := screen

theorem Quiet.refl {w : Watch} (steady : Steady w) : Quiet w w :=
  .same steady rfl rfl rfl rfl

theorem tickers_apart (symbols : List String) : (Query.tickers symbols).key ≠ portfoliosKey := by
  simp [Query.key, Key.extend, tickersKey, portfoliosKey]

section

variable {w : Watch} (steady : Steady w)

include steady

/-! The poller. -/

theorem quiet_dropPoller : Quiet w w.dropPoller :=
  ⟨.drop steady.seated, fun p found => by simp [dropPoller] at found, rfl, rfl⟩

theorem quiet_losePoller : Quiet w w.losePoller := by
  unfold losePoller
  split
  · exact .refl steady
  · have dropped := quiet_dropPoller steady
    exact ⟨dropped.aside, dropped.poller, rfl, rfl⟩

theorem quiet_startPoller (symbols : List String) : Quiet w (w.startPoller symbols) := by
  have dropped := quiet_dropPoller steady
  refine dropped.trans ⟨.refl dropped.steady.seated, ?_, rfl, rfl⟩
  intro p found
  obtain rfl := Option.some.inj found
  exact tickers_apart symbols

theorem quiet_syncPoller : Quiet w w.syncPoller := by
  simp only [syncPoller]
  split
  · exact quiet_dropPoller steady
  · split
    · exact .refl steady
    · exact quiet_startPoller steady _

private theorem aside_advance (p next : Poller Cached) (t : Traffic Cached) (lines : List LogLine)
    (apart : p.key ≠ portfoliosKey)
    (advanced : p.advance w.world w.now w.traffic = some (next, t, lines)) :
    Aside w.traffic t ∧ next.key = p.key := by
  obtain ⟨key, -, ⟨caller, found, rfl⟩ | ⟨mode, rfl⟩⟩ := Poller.advance_parts advanced
  · exact ⟨.pollCaller steady.seated w.world w.now caller (steady.seated.poller caller found), key⟩
  · exact ⟨.start steady.seated w.world w.now mode p.accepts p.key apart, key⟩

theorem quiet_runPoller : Quiet w w.runPoller := by
  unfold runPoller
  cases poller : w.poller with
  | none => exact .refl steady
  | some p =>
    simp only
    cases advanced : p.advance w.world w.now w.traffic with
    | none => exact .refl steady
    | some done =>
      obtain ⟨next, t, lines⟩ := done
      simp only
      obtain ⟨aside, key⟩ := aside_advance steady p next t lines (steady.poller p poller) advanced
      refine ⟨aside, ?_, rfl, rfl⟩
      intro q found
      obtain rfl := Option.some.inj found
      rw [key]
      exact steady.poller p poller

theorem quiet_observePoll : Quiet w w.observePoll := by
  unfold observePoll
  cases poller : w.poller with
  | none => exact .refl steady
  | some p =>
    simp only
    split
    · have shows : Quiet w (w.showPoll p) := by
        refine ⟨.refl steady.seated, ?_, rfl, rfl⟩
        intro q found
        obtain rfl := Option.some.inj found
        exact steady.poller p poller
      refine shows.trans ?_
      unfold tellValuation
      split
      · exact .same shows.steady rfl rfl rfl rfl
      · exact .refl shows.steady
    · exact .refl steady

/-! The keyboard. -/

private theorem quiet_retry : Quiet w w.retry := by
  have invalidated : Quiet w ((w.spawn (.load .refetch)).invalidate tickersKey).1 := by
    have outside : portfoliosKey.startsWith tickersKey = false := by decide
    refine ⟨?_, steady.poller, rfl, rfl⟩
    exact .of_callers steady.seated steady.seated.distinct
      (Cache.slotAt_invalidate_other tickersKey portfoliosKey w.traffic.cache outside) (fun _ _ done => done)
      (fun _ _ => rfl) steady.seated.poller
  have dropped := quiet_dropPoller invalidated.steady
  exact invalidated.trans (dropped.trans (quiet_syncPoller dropped.steady))

theorem quiet_press (i : Keyboard.Input) : Quiet w (w.press i) := by
  rcases press_parts w i with same | ⟨a, acts⟩
  · rw [same]
    exact .refl steady
  · rw [acts]
    by_cases retry : a = .retry
    · rw [retry]
      exact quiet_retry steady
    · obtain ⟨place, removal, session, preferences, tasks, log, ended, parts, -⟩ := act_parts w a retry
      rw [parts]
      exact .same steady rfl rfl rfl rfl

/-! The feed. -/

theorem quiet_follow (feed : Feed) : Quiet w (w.follow feed) := by
  obtain ⟨activity, halt, session, log, parts⟩ := follow_parts w feed
  rw [parts]
  exact .same steady rfl rfl rfl rfl

theorem quiet_refresh : Quiet w w.refresh :=
  .same steady rfl rfl rfl rfl

end

end Watch
end TradingDesk
