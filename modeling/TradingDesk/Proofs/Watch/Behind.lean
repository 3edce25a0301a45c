import TradingDesk.Proofs.Dashboard.Parts
import TradingDesk.Watch.Loop

/-! What goes on behind a watch. Whatever is done for queries and for the poller leaves alone what is in front, the
dashboard and the session and the feed, and the removals that are on their way. -/

namespace TradingDesk

def BackgroundTask.removal? : BackgroundTask → Option Int64
  | .remove id => some id
  | _ => none

def OpenCall.removal? : OpenCall → Option Int64
  | .removal id => some id
  | _ => none

namespace Watch

/-- The removals that have been confirmed and wait to begin. -/
def waiting (w : Watch) : List Int64 :=
  w.tasks.filterMap BackgroundTask.removal?

/-- The removals that the backend has not answered. -/
def out (w : Watch) : List Int64 :=
  w.calls.filterMap OpenCall.removal?

theorem filterMap_eraseIdx {α β : Type} (f : α → Option β) {xs : List α} {place : Nat} {x : α}
    (here : xs[place]? = some x) : ∃ front back, xs.filterMap f = front ++ (f x).toList ++ back ∧
      (xs.eraseIdx place).filterMap f = front ++ back := by
  obtain ⟨inside, rfl⟩ := List.getElem?_eq_some_iff.mp here
  have split : xs.take place ++ [xs[place]] ++ xs.drop (place + 1) = xs := by
    rw [List.append_assoc, List.singleton_append, ← List.drop_eq_getElem_cons inside, List.take_append_drop]
  refine ⟨(xs.take place).filterMap f, (xs.drop (place + 1)).filterMap f, ?_, ?_⟩
  · have parts := congrArg (List.filterMap f) split
    rw [List.filterMap_append, List.filterMap_append] at parts
    rw [← parts]
    cases here : f xs[place] <;> simp [here]
  · rw [List.eraseIdx_eq_take_drop_succ, List.filterMap_append]

structure Behind (w next : Watch) : Prop where
  dashboard : next.dashboard = w.dashboard
  session : next.session = w.session
  preferences : next.preferences = w.preferences
  headless : next.headless = w.headless
  feed : next.feed = w.feed
  options : next.feedOptions = w.feedOptions
  ended : next.ended = w.ended
  waiting : next.waiting = w.waiting
  out : next.out = w.out

namespace Behind

theorem refl (w : Watch) : Behind w w :=
  ⟨rfl, rfl, rfl, rfl, rfl, rfl, rfl, rfl, rfl⟩

theorem trans {w next last : Watch} (first : Behind w next) (second : Behind next last) : Behind w last where
  dashboard := second.dashboard.trans first.dashboard
  session := second.session.trans first.session
  preferences := second.preferences.trans first.preferences
  headless := second.headless.trans first.headless
  feed := second.feed.trans first.feed
  options := second.options.trans first.options
  ended := second.ended.trans first.ended
  waiting := second.waiting.trans first.waiting
  out := second.out.trans first.out

end Behind

variable (w : Watch)

/-! The traffic. -/

theorem behind_moved (q : Query) (t : Traffic Cached) (lines : List LogLine) : Behind w (w.moved q t lines) := by
  refine ⟨rfl, rfl, rfl, rfl, rfl, rfl, rfl, rfl, ?_⟩
  let queries := (w.traffic.asked t).map fun asked => OpenCall.query asked.1 ((t.request asked.1).calls - 1)
  have kept : queries.filterMap OpenCall.removal? = [] := by
    rw [List.filterMap_map]
    exact List.filterMap_eq_nil_iff.mpr fun _ _ => rfl
  change (w.calls ++ queries).filterMap OpenCall.removal? = w.calls.filterMap OpenCall.removal?
  rw [List.filterMap_append, kept, List.append_nil]

theorem behind_told (polled : Traffic.Polled Cached) : Behind w (w.told polled) := by
  unfold told
  cases polled.state with
  | none => exact .refl w
  | some state => exact ⟨rfl, rfl, rfl, rfl, rfl, rfl, rfl, rfl, rfl⟩

theorem behind_beginLoad (mode : FetchMode) : Behind w (w.beginLoad mode) := by
  unfold beginLoad
  have counted : Behind w { w with loads := w.loads + 1 } := ⟨rfl, rfl, rfl, rfl, rfl, rfl, rfl, rfl, rfl⟩
  exact counted.trans ((behind_moved _ _ _ _).trans (behind_told _ _))

theorem behind_runPoller : Behind w w.runPoller := by
  unfold runPoller
  cases w.poller with
  | none => exact .refl w
  | some p =>
    simp only
    cases p.advance w.world w.now w.traffic with
    | none => exact .refl w
    | some done =>
      obtain ⟨next, t, lines⟩ := done
      have moves := behind_moved w (.tickers w.polledSymbols) t lines
      exact moves.trans ⟨rfl, rfl, rfl, rfl, rfl, rfl, rfl, rfl, rfl⟩

theorem behind_wake (name : String) : Behind w (w.wake name) := by
  unfold wake
  split
  · exact behind_runPoller w
  · cases w.traffic.poll w.world w.now name with
    | none => exact .refl w
    | some done => exact (behind_moved _ _ _ _).trans (behind_told _ _)

private theorem behind_wakes (names : List String) : Behind w (names.foldl (fun w name => w.wake name) w) := by
  induction names generalizing w with
  | nil => exact .refl w
  | cons name rest ih => exact (behind_wake w name).trans (ih _)

theorem behind_answer (place : Nat) (o : Outcome Cached) : Behind w (w.answer place o) := by
  by_cases query : ∃ request attempt, w.calls[place]? = some (.query request attempt)
  · obtain ⟨request, attempt, found⟩ := query
    simp only [answer, found]
    have arrives : Behind w
        { w with calls := w.calls.eraseIdx place, arrived := ((request, attempt), o) :: w.arrived } := by
      refine ⟨rfl, rfl, rfl, rfl, rfl, rfl, rfl, rfl, ?_⟩
      obtain ⟨front, back, before, after⟩ := filterMap_eraseIdx OpenCall.removal? found
      rw [show (OpenCall.query request attempt).removal?.toList = [] from rfl, List.append_nil] at before
      exact after.trans before.symm
    exact arrives.trans (behind_wakes _ _)
  · unfold answer
    split
    · rename_i request attempt found
      exact absurd ⟨request, attempt, found⟩ query
    · exact .refl w

/-! The poller. -/

theorem behind_dropPoller : Behind w w.dropPoller := by
  refine ⟨rfl, rfl, rfl, rfl, rfl, rfl, rfl, ?_, rfl⟩
  change (w.tasks.filter (· ≠ .poll)).filterMap BackgroundTask.removal? = w.tasks.filterMap BackgroundTask.removal?
  rw [List.filterMap_filter]
  refine congrArg (w.tasks.filterMap ·) (funext fun t => ?_)
  cases t <;> rfl

theorem behind_losePoller : Behind w w.losePoller := by
  unfold losePoller
  split
  · exact .refl w
  · exact (behind_dropPoller w).trans ⟨rfl, rfl, rfl, rfl, rfl, rfl, rfl, rfl, rfl⟩

theorem behind_spawn (t : BackgroundTask) (other : t.removal? = none) : Behind w (w.spawn t) := by
  refine ⟨rfl, rfl, rfl, rfl, rfl, rfl, rfl, ?_, rfl⟩
  change (w.tasks ++ [t]).filterMap BackgroundTask.removal? = w.tasks.filterMap BackgroundTask.removal?
  rw [List.filterMap_append, List.filterMap_cons_none other, List.filterMap_nil, List.append_nil]

theorem behind_startPoller (symbols : List String) : Behind w (w.startPoller symbols) := by
  refine (behind_dropPoller w).trans ⟨rfl, rfl, rfl, rfl, rfl, rfl, rfl, ?_, rfl⟩
  exact (behind_spawn w.dropPoller .poll rfl).waiting

theorem behind_syncPoller : Behind w w.syncPoller := by
  simp only [syncPoller]
  split
  · exact behind_dropPoller w
  · split
    · exact .refl w
    · exact behind_startPoller w _

theorem behind_retry : Behind w w.retry := by
  have asked := behind_spawn w (.load .refetch) rfl
  have invalidated : Behind (w.spawn (.load .refetch)) ((w.spawn (.load .refetch)).invalidate Query.tickersKey).1 :=
    ⟨rfl, rfl, rfl, rfl, rfl, rfl, rfl, rfl, rfl⟩
  exact asked.trans (invalidated.trans ((behind_dropPoller _).trans (behind_syncPoller _)))

theorem behind_tellValuation : Behind w w.tellValuation := by
  unfold tellValuation
  split
  · exact ⟨rfl, rfl, rfl, rfl, rfl, rfl, rfl, rfl, rfl⟩
  · exact .refl w

/-! What is in front changes with a key, when a result is looked at and when the feed goes on. -/

theorem act_parts (a : Keyboard.Action) (other : a ≠ .retry) :
    ∃ place removal session preferences tasks log ended,
      w.act a =
        { w with
          session, preferences, tasks, log, ended
          dashboard := { w.dashboard with selected := place, removal } } ∧
      (a ≠ .requestRemoval ∧ a ≠ .confirmRemoval ∧ a ≠ .cancelRemoval →
        removal = w.dashboard.removal ∧ tasks = w.tasks) := by
  cases a with
  | quit => exact ⟨_, _, _, _, _, _, _, rfl, fun _ => ⟨rfl, rfl⟩⟩
  | retry => exact absurd rfl other
  | toggleTheme => exact ⟨_, _, _, _, _, _, _, rfl, fun _ => ⟨rfl, rfl⟩⟩
  | cycleAssetClass => exact ⟨_, _, _, _, _, _, _, rfl, fun _ => ⟨rfl, rfl⟩⟩
  | nextPortfolio =>
    obtain ⟨place, parts⟩ := w.dashboard.selectNext_parts
    simp only [act, parts]
    exact ⟨_, _, _, _, _, _, _, rfl, fun _ => ⟨rfl, rfl⟩⟩
  | previousPortfolio =>
    obtain ⟨place, parts⟩ := w.dashboard.selectPrevious_parts
    simp only [act, parts]
    exact ⟨_, _, _, _, _, _, _, rfl, fun _ => ⟨rfl, rfl⟩⟩
  | requestRemoval =>
    obtain ⟨removal, parts⟩ := w.dashboard.requestRemoval_parts
    simp only [act, parts]
    exact ⟨_, _, _, _, _, _, _, rfl, fun apart => absurd rfl apart.1⟩
  | confirmRemoval =>
    simp only [act, confirmRemoval]
    cases w.dashboard.removal <;> exact ⟨_, _, _, _, _, _, _, rfl, fun apart => absurd rfl apart.2.1⟩
  | cancelRemoval => exact ⟨_, _, _, _, _, _, _, rfl, fun apart => absurd rfl apart.2.2⟩
  | dismissToast =>
    simp only [act, dismissToast]
    split <;> exact ⟨_, _, _, _, _, _, _, rfl, fun _ => ⟨rfl, rfl⟩⟩

theorem press_parts (i : Keyboard.Input) : w.press i = w ∨ ∃ a, w.press i = w.act a := by
  unfold press
  split
  · exact .inl rfl
  · split
    · exact .inr ⟨_, rfl⟩
    · exact .inl rfl

theorem observe_portfolios (state : QueryState (List Portfolio)) : ∃ place symbols activity,
    w.observe (.portfolios state) =
      { w with
        dashboard := { w.dashboard with portfolios := state, selected := place, held := symbols, activity }
        }.syncPoller.tellValuation := by
  cases failed : state.error? with
  | none =>
    obtain ⟨place, symbols, parts⟩ := w.dashboard.setPortfolios_parts state
    refine ⟨place, symbols, w.dashboard.activity, ?_⟩
    simp only [observe, failed, parts]
  | some text =>
    let noted := w.record ("ERROR loading portfolios: " ++ text)
    obtain ⟨place, symbols, parts⟩ := noted.dashboard.setPortfolios_parts state
    refine ⟨place, symbols, noted.dashboard.activity, ?_⟩
    simp only [observe, failed]
    change ({ noted with dashboard := noted.dashboard.setPortfolios state } : Watch).syncPoller.tellValuation = _
    rw [parts]
    rfl

theorem follow_parts (feed : Feed) : ∃ activity halt session log,
    w.follow feed =
      { w with
        feed, session, log
        dashboard := { w.dashboard with activity, halt, connection := feed.connection } } := by
  have events (news : List SystemEvent) (v : Watch) : ∃ activity halt session log,
      news.foldl observeEvent v = { v with session, log, dashboard := { v.dashboard with activity, halt } } := by
    induction news generalizing v with
    | nil => exact ⟨_, _, _, _, rfl⟩
    | cons e rest ih =>
      obtain ⟨activity, halt, parts⟩ := v.dashboard.observe_parts v.now e v.session
      obtain ⟨later, halts, session, log, follows⟩ := ih (v.observeEvent e)
      refine ⟨later, halts, session, log, ?_⟩
      rw [List.foldl_cons, follows]
      have shows : (v.observeEvent e).dashboard = { v.dashboard with activity, halt } := parts
      rw [shows]
      rfl
  obtain ⟨activity, parts⟩ := w.dashboard.setConnection_parts w.now feed.connection
  unfold follow
  simp only [parts]
  obtain ⟨later, halt, session, log, follows⟩ := events (feed.events.drop w.feed.events.length)
    { w with feed, dashboard := { w.dashboard with activity, connection := feed.connection } }
  exact ⟨later, halt, session, log, follows⟩

end Watch
end TradingDesk
