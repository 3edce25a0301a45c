import TradingDesk.Proofs.Watch.Told

/-! The list on the screen and the list in the cache. The screen shows what was told last, the cache holds what was
told last by a request that it had not let go of. A request under way when a portfolio is removed is let go of, but
is told all the same: when it is told last, the screen goes back to the list from before. -/

namespace TradingDesk

def Notice.list? : Notice → Option (QueryState (List Portfolio))
  | .portfolios state => some state
  | .removed _ _ => none

/-- `current` tells that the slot still waited for the request whose outcome was told. -/
structure Tiding where
  state : QueryState (List Portfolio)
  current : Bool

namespace Watch
open Query

def posted (w next : Watch) : List (QueryState (List Portfolio)) :=
  (next.notices.drop w.notices.length).filterMap Notice.list?

/-- Only the answer to a request that the slot has let go of is not current. -/
def current (w : Watch) : WatchEvent → Bool
  | .answered place _ =>
    match w.calls[place]? with
    | some (.query r _) => w.awaits r
    | _ => true
  | _ => true

/-- All that was told in a run, the newest first. -/
def tidings (w : Watch) : List WatchEvent → List Tiding
  | [] => []
  | e :: rest => tidings (w.step e) rest ++ ((posted w (w.step e)).map fun state => ⟨state, w.current e⟩).reverse

def lastOf (old : QueryState (List Portfolio)) (told : List Tiding) : QueryState (List Portfolio) :=
  (told.head?.map Tiding.state).getD old

/-- What the screen shows once every notice has been looked at. -/
def upcoming (w : Watch) : QueryState (List Portfolio) :=
  (w.notices.filterMap Notice.list?).getLast?.getD w.dashboard.portfolios

structure Effect (current : Bool) (w next : Watch) : Prop where
  steady : Steady next
  upcoming : next.upcoming = (posted w next).getLast?.getD w.upcoming
  listed : next.listed = if current then (posted w next).getLast?.getD w.listed else w.listed

/-! The effect of a step. -/

private theorem upcoming_append {w next : Watch} (news : List Notice) (notices : next.notices = w.notices ++ news)
    (screen : next.dashboard.portfolios = w.dashboard.portfolios) :
    next.upcoming = (news.filterMap Notice.list?).getLast?.getD w.upcoming := by
  unfold upcoming
  rw [notices, screen, List.filterMap_append, List.getLast?_append]
  cases (news.filterMap Notice.list?).getLast? <;> rfl

private theorem posted_append {w next : Watch} (news : List Notice) (notices : next.notices = w.notices ++ news) :
    posted w next = news.filterMap Notice.list? := by
  unfold posted
  rw [notices, List.drop_left]

private theorem list_portfolios (states : List (QueryState (List Portfolio))) :
    (states.map Notice.portfolios).filterMap Notice.list? = states := by
  rw [List.filterMap_map]
  exact List.filterMap_some

theorem Effect.append {current : Bool} {w next : Watch} (steady : Steady next) (news : List Notice)
    (notices : next.notices = w.notices ++ news) (screen : next.dashboard.portfolios = w.dashboard.portfolios)
    (listed : next.listed =
      if current then (news.filterMap Notice.list?).getLast?.getD w.listed else w.listed) :
    Effect current w next := by
  have new := posted_append news notices
  exact ⟨steady, new ▸ upcoming_append news notices screen, new ▸ listed⟩

theorem Effect.quiet {w next : Watch} (quiet : Quiet w next) (current : Bool) : Effect current w next := by
  refine .append quiet.steady [] (by rw [quiet.notices, List.append_nil]) quiet.screen ?_
  rw [listed_of_slot quiet.aside.slot]
  cases current <;> rfl

theorem Effect.then {current : Bool} {w mid next : Watch} (first : Effect current w mid) (quiet : Quiet mid next) :
    Effect current w next := by
  have same : posted w next = posted w mid := by
    unfold posted
    rw [quiet.notices]
  have ahead : next.upcoming = mid.upcoming := by
    unfold Watch.upcoming
    rw [quiet.notices, quiet.screen]
  refine ⟨quiet.steady, ?_, ?_⟩
  · rw [same, ahead]
    exact first.upcoming
  · rw [same, listed_of_slot quiet.aside.slot]
    exact first.listed

section Step

variable {w : Watch} (steady : Steady w)

include steady

private theorem effect_beginTask : Effect true w w.beginTask := by
  unfold beginTask
  cases w.tasks with
  | nil => exact .quiet (.refl steady) true
  | cons t tasks =>
    simp only
    have begun : Quiet w { w with tasks := tasks } := .same steady rfl rfl rfl rfl
    cases t with
    | load mode =>
      obtain ⟨states, ready, notices, screen, listed⟩ := told_beginLoad begun.steady mode
      refine .append ready (states.map .portfolios) notices screen ?_
      rw [list_portfolios]
      exact listed
    | remove id =>
      refine .quiet ?_ true
      exact .same steady rfl rfl rfl rfl
    | poll => exact .quiet (begun.trans (quiet_runPoller begun.steady)) true

private theorem effect_answer (place : Nat) (o : Outcome Cached) :
    Effect (w.current (.answered place o)) w (w.answer place o) := by
  by_cases query : ∃ r attempt, w.calls[place]? = some (.query r attempt)
  · obtain ⟨r, attempt, out⟩ := query
    obtain ⟨states, telling⟩ := telling_answer steady place r attempt o out
    have asks : w.current (.answered place o) = w.awaits r := by simp only [current, out]
    rw [asks]
    refine .append telling.steady (states.map .portfolios) telling.notices telling.screen ?_
    rw [list_portfolios]
    exact telling.listed
  · have idle : w.answer place o = w := by
      unfold answer
      split
      · rename_i r attempt out
        exact absurd ⟨r, attempt, out⟩ query
      · rfl
    rw [idle]
    exact .quiet (.refl steady) _

private theorem effect_answerRemoval (place : Nat) (o : Outcome Unit) : Effect true w (w.answerRemoval place o) := by
  unfold answerRemoval
  split
  · rename_i id out
    generalize lets : notify _ _ = next
    obtain ⟨seated, listed⟩ := mutate_portfolios steady o next (by rw [← lets]; rfl)
    subst lets
    exact .append ⟨seated, steady.poller⟩ [.removed id _] rfl rfl listed
  · exact .quiet (.refl steady) true

private theorem steady_observe (n : Notice) : Steady (w.observe n) ∧ (w.observe n).notices = w.notices ∧
    (w.observe n).listed = w.listed ∧
    (w.observe n).dashboard.portfolios = n.list?.getD w.dashboard.portfolios := by
  cases n with
  | removed id failure =>
    cases failure with
    | none => exact ⟨⟨steady.seated, steady.poller⟩, rfl, rfl, rfl⟩
    | some text => exact ⟨⟨steady.seated, steady.poller⟩, rfl, rfl, rfl⟩
  | portfolios state =>
    obtain ⟨logged, logs, observed⟩ : ∃ logged : Watch, Quiet w logged ∧ w.observe (.portfolios state) =
        { logged with dashboard := logged.dashboard.setPortfolios state }.syncPoller.tellValuation := by
      cases failed : state.error? with
      | none => exact ⟨w, .refl steady, by simp only [observe, failed]⟩
      | some text =>
        exact ⟨w.record ("ERROR loading portfolios: " ++ text), .same steady rfl rfl rfl rfl,
          by simp only [observe, failed]⟩
    let shows : Watch := { logged with dashboard := logged.dashboard.setPortfolios state }
    have ready : Steady shows := ⟨logs.aside.seated, logs.poller⟩
    have synced := quiet_syncPoller ready
    have told : Quiet shows.syncPoller shows.syncPoller.tellValuation := by
      unfold tellValuation
      split
      · exact .same synced.steady rfl rfl rfl rfl
      · exact .refl synced.steady
    have after := synced.trans told
    rw [observed]
    refine ⟨after.steady, after.notices.trans logs.notices, ?_, ?_⟩
    · exact (listed_of_slot after.aside.slot).trans (listed_of_slot logs.aside.slot)
    · obtain ⟨place, symbols, parts⟩ := logged.dashboard.setPortfolios_parts state
      exact after.screen.trans (congrArg Dashboard.portfolios parts)

private theorem effect_observeNotice : Effect true w w.observeNotice := by
  unfold observeNotice takeNotice
  cases notices : w.notices with
  | nil => exact .quiet (.refl steady) true
  | cons n rest =>
    have taken : Steady { w with notices := rest } := ⟨steady.seated, steady.poller⟩
    obtain ⟨ready, left, listed, screen⟩ := steady_observe taken n
    simp only
    have silent : posted w (observe n { w with notices := rest }) = [] := by
      unfold posted
      rw [left, notices, List.length_cons]
      change (rest.drop (rest.length + 1)).filterMap Notice.list? = []
      rw [List.drop_of_length_le (Nat.le_succ _)]
      rfl
    refine ⟨ready, ?_, ?_⟩
    · rw [silent]
      unfold upcoming
      rw [left, notices, screen]
      cases shown : n.list? with
      | none => simp [shown]
      | some state =>
        rw [List.filterMap_cons_some shown, List.getLast?_cons]
        cases (rest.filterMap Notice.list?).getLast? <;> rfl
    · rw [silent, listed]
      rfl

theorem effect_step (e : WatchEvent) : Effect (w.current e) w (w.step e) := by
  unfold step
  split
  · exact .quiet (.refl steady) _
  · have handled : Effect (w.current e) w (w.handle e) := by
      cases e with
      | clock now =>
        refine .quiet ?_ true
        exact .same steady rfl rfl rfl rfl
      | input i => exact .quiet (quiet_press steady i) true
      | interrupted =>
        simp only [handle]
        split
        · have finishes : Quiet w w.finish := .same steady rfl rfl rfl rfl
          exact .quiet finishes true
        · exact .quiet (.refl steady) true
      | taskBegins => exact effect_beginTask steady
      | answered place o => exact effect_answer steady place o
      | removed place o => exact effect_answerRemoval steady place o
      | pollerRuns => exact .quiet (quiet_runPoller steady) true
      | noticeSeen => exact effect_observeNotice steady
      | pollSeen => exact .quiet (quiet_observePoll steady) true
      | feedOpened => exact .quiet (quiet_follow steady _) true
      | frame f => exact .quiet (quiet_follow steady _) true
      | feedLost e => exact .quiet (quiet_follow steady _) true
      | pollerEnded => exact .quiet (quiet_losePoller steady) true
    exact handled.then (quiet_refresh handled.steady)

end Step

/-! The effect of a run. -/

private theorem lastOf_append (old : QueryState (List Portfolio)) (later earlier : List Tiding) :
    lastOf old (later ++ earlier) = lastOf (lastOf old earlier) later := by
  cases later <;> rfl

private theorem lastOf_step (old : QueryState (List Portfolio)) (states : List (QueryState (List Portfolio)))
    (current : Bool) :
    lastOf old (states.map fun state => ⟨state, current⟩).reverse = states.getLast?.getD old := by
  unfold lastOf
  rw [List.head?_reverse, List.getLast?_map]
  cases states.getLast? <;> rfl

private theorem current_step (states : List (QueryState (List Portfolio))) (current : Bool) :
    ((states.map fun state => (⟨state, current⟩ : Tiding)).reverse).filter Tiding.current =
      if current then (states.map fun state => ⟨state, current⟩).reverse else [] := by
  cases current <;> simp

theorem run_tidings {w : Watch} (steady : Steady w) (events : List WatchEvent) :
    (run w events).upcoming = lastOf w.upcoming (tidings w events) ∧
      (run w events).listed = lastOf w.listed ((tidings w events).filter Tiding.current) := by
  -- The tidings of the step only count when the rest of the run tells nothing.
  induction events generalizing w with
  | nil => exact ⟨rfl, rfl⟩
  | cons e rest ih =>
    have effect := effect_step steady e
    obtain ⟨ahead, kept⟩ := ih effect.steady
    constructor
    · change (run (w.step e) rest).upcoming = _
      rw [ahead, tidings, lastOf_append, lastOf_step, effect.upcoming]
    · change (run (w.step e) rest).listed = _
      rw [kept, tidings, List.filter_append, lastOf_append, current_step, effect.listed]
      cases w.current e with
      | true => rw [if_pos rfl, if_pos rfl, lastOf_step]
      | false => rfl

theorem steady_start (s : Settings) (baseUrl : String) (p : Preferences) (headless : Bool) :
    Steady (start s baseUrl p headless) where
  seated := by
    refine ⟨List.nodup_nil, by simp [start, note, spawn], by simp [start, note, spawn], fun flight under => ?_⟩
    change none = some flight at under
    exact nomatch under
  poller := by simp [start, note, spawn]

/-- When all notices have been looked at, the screen shows what was told last, and the cache holds what was told
last by a request that it had not let go of. They disagree exactly when an answer that the cache refused was told
last and says something else. -/
theorem screen_after_run (s : Settings) (baseUrl : String) (p : Preferences) (headless : Bool)
    (events : List WatchEvent) (rest : (run (start s baseUrl p headless) events).notices = []) :
    (run (start s baseUrl p headless) events).dashboard.portfolios =
        lastOf .loading (tidings (start s baseUrl p headless) events) ∧
      (run (start s baseUrl p headless) events).listed =
        lastOf .loading ((tidings (start s baseUrl p headless) events).filter Tiding.current) ∧
      ((run (start s baseUrl p headless) events).dashboard.portfolios =
          (run (start s baseUrl p headless) events).listed ↔
        ∀ last, (tidings (start s baseUrl p headless) events).head? = some last →
          last.current = true ∨ last.state = (run (start s baseUrl p headless) events).listed) := by
  obtain ⟨ahead, kept⟩ := run_tidings (steady_start s baseUrl p headless) events
  have shows : (run (start s baseUrl p headless) events).dashboard.portfolios =
      lastOf .loading (tidings (start s baseUrl p headless) events) := by
    unfold upcoming at ahead
    rw [rest] at ahead
    exact ahead
  refine ⟨shows, kept, ?_⟩
  rw [shows]
  cases told : tidings (start s baseUrl p headless) events with
  | nil =>
    rw [told] at kept
    exact ⟨fun _ last none => by simp at none, fun _ => kept.symm⟩
  | cons last older =>
    constructor
    · intro agree newest found
      obtain rfl := Option.some.inj found
      exact .inr agree
    · intro newest
      rcases newest last rfl with current | same
      · rw [kept, told, List.filter_cons_of_pos current]
        rfl
      · exact same

private def desk (id : Int64) : Portfolio := ⟨id, "", "", "", [], "", ""⟩

private def pressed (c : Char) : WatchEvent := .input (.key (.letter c) false true)

/-- A list is asked for again, its first portfolio is removed, and the answer from before comes last. -/
def comeback : List WatchEvent :=
  [.taskBegins, .answered 0 (.ok (.portfolios [desk 1, desk 2])), .noticeSeen, pressed 'r', .taskBegins,
    pressed 'd', pressed 'y', .taskBegins, .removed 1 (.ok ()), .noticeSeen, .taskBegins,
    .answered 1 (.ok (.portfolios [desk 2])), .noticeSeen,
    .answered 0 (.ok (.portfolios [desk 1, desk 2])), .noticeSeen]

theorem removed_comes_back :
    (run (start {} "" {} false) comeback).tasks = [] ∧ (run (start {} "" {} false) comeback).calls = [] ∧
      (run (start {} "" {} false) comeback).notices = [] ∧
      (run (start {} "" {} false) comeback).dashboard.portfolios = .data [desk 1, desk 2] ∧
      (run (start {} "" {} false) comeback).listed = .data [desk 2] ∧
      (run (start {} "" {} false) comeback).dashboard.portfolios ≠
        (run (start {} "" {} false) comeback).listed := by
  decide +kernel

theorem screen_after_comeback : (run (start {} "" {} false) comeback).notices = [] ∧
    (run (start {} "" {} false) comeback).dashboard.portfolios =
      lastOf .loading (tidings (start {} "" {} false) comeback) := by
  have rest : (run (start {} "" {} false) comeback).notices = [] := by decide +kernel
  exact ⟨rest, (screen_after_run {} "" {} false comeback rest).1⟩

end Watch
end TradingDesk
