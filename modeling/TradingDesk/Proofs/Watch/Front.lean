import TradingDesk.Proofs.Dashboard.Quotes
import TradingDesk.Proofs.Watch.Behind

/-! The dashboard of a watch shows the prices of a history: what the feed brought, what was polled and which portfolios
were listed, in the order in which the loop saw it. -/

namespace TradingDesk
namespace Watch
open Board

/-- What the loop learns in a step, if anything. -/
def learns (w : Watch) (e : WatchEvent) : Option News :=
  if w.ended then none
  else match e with
    | .feedOpened => some .opened
    | .frame f => some (.frame f)
    | .feedLost e => some (.lost e)
    | .noticeSeen =>
      match w.notices with
      | .portfolios state :: _ => some (.listed state)
      | _ => none
    | .pollSeen =>
      (w.poller.filter Poller.unseen).map fun p =>
        .polled (p.published.narrow Cached.tickers?)
          ((w.traffic.cache.lastData Cached.areTickers p.key).bind Cached.tickers?)
    | _ => none

/-- All that a run learns. -/
def learned (w : Watch) : List WatchEvent → List News
  | [] => []
  | e :: rest => (w.learns e).toList ++ learned (w.step e) rest

/-- Neither the feed nor what the prices are made of is touched. -/
structure Still (w next : Watch) : Prop where
  feed : next.feed = w.feed
  options : next.feedOptions = w.feedOptions
  portfolios : next.dashboard.portfolios = w.dashboard.portfolios
  tickers : next.dashboard.tickers = w.dashboard.tickers
  polled : next.dashboard.polled = w.dashboard.polled

theorem Behind.still {w next : Watch} (behind : Behind w next) : Still w next where
  feed := behind.feed
  options := behind.options
  portfolios := congrArg Dashboard.portfolios behind.dashboard
  tickers := congrArg Dashboard.tickers behind.dashboard
  polled := congrArg Dashboard.polled behind.dashboard

section

variable (w : Watch)

theorem still_press (i : Keyboard.Input) : Still w (w.press i) := by
  rcases press_parts w i with same | ⟨a, acts⟩
  · rw [same]
    exact ⟨rfl, rfl, rfl, rfl, rfl⟩
  · rw [acts]
    by_cases retry : a = .retry
    · rw [retry]
      exact (behind_retry w).still
    · obtain ⟨place, removal, session, preferences, tasks, log, ended, parts, -⟩ := act_parts w a retry
      rw [parts]
      exact ⟨rfl, rfl, rfl, rfl, rfl⟩

theorem still_beginTask : Still w w.beginTask := by
  unfold beginTask
  cases w.tasks with
  | nil => exact ⟨rfl, rfl, rfl, rfl, rfl⟩
  | cons t rest =>
    cases t with
    | load mode =>
      obtain ⟨feed, options, portfolios, tickers, polled⟩ := (behind_beginLoad { w with tasks := rest } mode).still
      exact ⟨feed, options, portfolios, tickers, polled⟩
    | remove id => exact ⟨rfl, rfl, rfl, rfl, rfl⟩
    | poll =>
      obtain ⟨feed, options, portfolios, tickers, polled⟩ := (behind_runPoller { w with tasks := rest }).still
      exact ⟨feed, options, portfolios, tickers, polled⟩

/-- A step that tells the loop nothing new. -/
theorem still_handle {e : WatchEvent} (running : w.ended = false) (nothing : w.learns e = none) :
    Still w (w.handle e) := by
  unfold learns at nothing
  rw [running, if_neg Bool.false_ne_true] at nothing
  cases e with
  | clock now => exact ⟨rfl, rfl, rfl, rfl, rfl⟩
  | input i => exact still_press w i
  | interrupted =>
    unfold handle
    dsimp only
    split <;> exact ⟨rfl, rfl, rfl, rfl, rfl⟩
  | taskBegins => exact still_beginTask w
  | answered place o => exact (behind_answer w place o).still
  | removed place o =>
    change Still w (w.answerRemoval place o)
    unfold answerRemoval
    split <;> exact ⟨rfl, rfl, rfl, rfl, rfl⟩
  | pollerRuns => exact (behind_runPoller w).still
  | noticeSeen =>
    change Still w w.observeNotice
    unfold observeNotice takeNotice
    cases notices : w.notices with
    | nil => exact ⟨rfl, rfl, rfl, rfl, rfl⟩
    | cons n rest =>
      rw [notices] at nothing
      cases n with
      | portfolios state => exact nomatch nothing
      | removed id failure => cases failure <;> exact ⟨rfl, rfl, rfl, rfl, rfl⟩
  | pollSeen =>
    change Still w w.observePoll
    unfold observePoll
    cases poller : w.poller with
    | none => exact ⟨rfl, rfl, rfl, rfl, rfl⟩
    | some p =>
      simp only
      split
      · rename_i unseen
        rw [poller] at nothing
        simp [Option.filter, unseen] at nothing
      · exact ⟨rfl, rfl, rfl, rfl, rfl⟩
  | feedOpened => exact nomatch nothing
  | frame f => exact nomatch nothing
  | feedLost e => exact nomatch nothing
  | pollerEnded => exact (behind_losePoller w).still

end

/-- The watch has on its dashboard what the board has. -/
structure Mirrors (o : FeedOptions) (b : Board) (w : Watch) : Prop where
  feed : w.feed = b.feed
  options : w.feedOptions = o
  portfolios : w.dashboard.portfolios = b.dashboard.portfolios
  tickers : w.dashboard.tickers = b.dashboard.tickers
  polled : w.dashboard.polled = b.dashboard.polled

section

variable {o : FeedOptions} {b : Board} {w : Watch} (mirrors : Mirrors o b w)

include mirrors

theorem Mirrors.still {next : Watch} (still : Still w next) : Mirrors o b next where
  feed := still.feed.trans mirrors.feed
  options := still.options.trans mirrors.options
  portfolios := still.portfolios.trans mirrors.portfolios
  tickers := still.tickers.trans mirrors.tickers
  polled := still.polled.trans mirrors.polled

theorem Mirrors.follow (feed : Feed) : Mirrors o { b with feed } (w.follow feed) := by
  obtain ⟨activity, halt, session, log, parts⟩ := follow_parts w feed
  rw [parts]
  exact ⟨rfl, mirrors.options, mirrors.portfolios, mirrors.tickers, mirrors.polled⟩

theorem Mirrors.list (state : QueryState (List Portfolio)) :
    Mirrors o (b.take o (.listed state)) (w.observe (.portfolios state)) := by
  obtain ⟨place, symbols, activity, parts⟩ := observe_portfolios w state
  obtain ⟨position, held, shows⟩ := b.dashboard.setPortfolios_parts state
  let shown : Watch :=
    { w with dashboard := { w.dashboard with portfolios := state, selected := place, held := symbols, activity } }
  have listed : Mirrors o (b.take o (.listed state)) shown := by
    change Mirrors o { b with dashboard := b.dashboard.setPortfolios state } shown
    rw [shows]
    exact ⟨mirrors.feed, mirrors.options, rfl, mirrors.tickers, mirrors.polled⟩
  rw [parts]
  exact listed.still ((behind_syncPoller shown).trans (behind_tellValuation _)).still

theorem Mirrors.poll (p : Poller Cached) :
    Mirrors o (b.take o (.polled (p.published.narrow Cached.tickers?)
      ((w.traffic.cache.lastData Cached.areTickers p.key).bind Cached.tickers?))) (w.showPoll p).tellValuation := by
  refine Mirrors.still ?_ (behind_tellValuation (w.showPoll p)).still
  refine ⟨mirrors.feed, mirrors.options, mirrors.portfolios, rfl, ?_⟩
  change Option.getD _ w.dashboard.polled = Option.getD _ b.dashboard.polled
  rw [mirrors.polled]

theorem Mirrors.handle {e : WatchEvent} {n : News} (news : w.learns e = some n) :
    Mirrors o (b.take o n) (w.handle e) := by
  unfold learns at news
  split at news
  · exact nomatch news
  · cases e with
    | feedOpened =>
      obtain rfl := Option.some.inj news
      change Mirrors o _ (w.follow w.feed.opened)
      rw [mirrors.feed]
      exact mirrors.follow _
    | frame f =>
      obtain rfl := Option.some.inj news
      change Mirrors o _ (w.follow (w.feed.receive f))
      rw [mirrors.feed]
      exact mirrors.follow _
    | feedLost e =>
      obtain rfl := Option.some.inj news
      change Mirrors o _ (w.follow (w.feed.drop w.feedOptions e).1)
      rw [mirrors.feed, mirrors.options]
      exact mirrors.follow _
    | noticeSeen =>
      change Mirrors o _ w.observeNotice
      unfold observeNotice takeNotice
      cases notices : w.notices with
      | nil =>
        rw [notices] at news
        exact nomatch news
      | cons first rest =>
        rw [notices] at news
        cases first with
        | removed id failure => exact nomatch news
        | portfolios state =>
          obtain rfl := Option.some.inj news
          have taken : Mirrors o b { w with notices := rest } :=
            ⟨mirrors.feed, mirrors.options, mirrors.portfolios, mirrors.tickers, mirrors.polled⟩
          exact taken.list state
    | pollSeen =>
      change Mirrors o _ w.observePoll
      unfold observePoll
      cases poller : w.poller with
      | none =>
        rw [poller] at news
        exact nomatch news
      | some p =>
        rw [poller] at news
        cases unseen : p.unseen with
        | false => simp [Option.filter, unseen] at news
        | true =>
          simp only [Option.filter, unseen, if_true, Option.map_some, Option.some.injEq] at news
          subst news
          simp only [unseen, if_true]
          exact mirrors.poll p
    | _ => exact nomatch news

theorem Mirrors.step (shown : b.dashboard.stream = b.feed.stream)
    (same : w.dashboard.stream = b.dashboard.stream) (e : WatchEvent) :
    Mirrors o ((w.learns e).toList.foldl (learn o) b) (w.step e) ∧
      (w.step e).dashboard.stream = ((w.learns e).toList.foldl (learn o) b).dashboard.stream := by
  unfold Watch.step
  split
  · rename_i ended
    have nothing : w.learns e = none := by
      unfold learns
      rw [if_pos ended]
    rw [nothing]
    exact ⟨mirrors, same⟩
  · rename_i running
    cases news : w.learns e with
    | none =>
      have handled := mirrors.still (still_handle w (Bool.eq_false_iff.mpr running) news)
      refine ⟨⟨handled.feed, handled.options, handled.portfolios, handled.tickers, handled.polled⟩, ?_⟩
      exact (congrArg Feed.stream handled.feed).trans shown.symm
    | some n =>
      have handled := mirrors.handle news
      refine ⟨⟨handled.feed, handled.options, handled.portfolios, handled.tickers, handled.polled⟩, ?_⟩
      exact congrArg Feed.stream handled.feed

end

theorem mirrors_events {o : FeedOptions} {b : Board} {w : Watch} (mirrors : Mirrors o b w)
    (shown : b.dashboard.stream = b.feed.stream) (same : w.dashboard.stream = b.dashboard.stream)
    (events : List WatchEvent) :
    Mirrors o ((learned w events).foldl (learn o) b) (run w events) ∧
      (run w events).dashboard.stream = ((learned w events).foldl (learn o) b).dashboard.stream := by
  induction events generalizing b w with
  | nil => exact ⟨mirrors, same⟩
  | cons e rest ih =>
    obtain ⟨next, follows⟩ := mirrors.step shown same e
    have again : ((w.learns e).toList.foldl (learn o) b).dashboard.stream =
        ((w.learns e).toList.foldl (learn o) b).feed.stream := by
      cases w.learns e with
      | none => exact shown
      | some n => rfl
    obtain ⟨last, stream⟩ := ih next again follows
    rw [learned, List.foldl_append]
    exact ⟨last, stream⟩

/-- In every run the dashboard has the portfolios and the prices that it would have after the history that the run
learned. -/
theorem mirrors_run (s : Settings) (baseUrl : String) (p : Preferences) (headless : Bool)
    (events : List WatchEvent) :
    let first := start s baseUrl p headless
    let b := Board.after first.feedOptions (learned first events)
    Mirrors first.feedOptions b (run first events) ∧ (run first events).dashboard.prices = b.dashboard.prices := by
  intro first b
  have fresh : Mirrors first.feedOptions { feed := Feed.new first.feedOptions } first := ⟨rfl, rfl, rfl, rfl, rfl⟩
  obtain ⟨mirrors, stream⟩ := mirrors_events fresh rfl rfl events
  refine ⟨mirrors, ?_⟩
  unfold Dashboard.prices
  rw [stream, mirrors.polled]
  rfl

end Watch
end TradingDesk
