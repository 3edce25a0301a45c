import TradingDesk.Proofs.Cache.Moment
import TradingDesk.Proofs.Watch.Behind

/-! What a step of a watch does to the slots of the cache. A slot keeps its value, or takes that of the request it
waited for. Most steps ask for nothing at all; the others are one moment of the traffic. -/

namespace TradingDesk
namespace Watch
open Traffic

/-- Every number in use was given out, and a request asks for the key of the slot that waits for it. -/
structure Orderly (w : Watch) : Prop where
  traffic : w.traffic.Numbered
  calls : ∀ r attempt, .query r attempt ∈ w.calls → r < w.traffic.cache.nextRequest
  arrived : ∀ entry ∈ w.arrived, entry.1.1 < w.traffic.cache.nextRequest
  asked : ∀ key flight, (w.traffic.cache.slotAt key).flight = some flight →
    (w.queries.lookup flight.id).map Query.key = some key
  poller : ∀ p, w.poller = some p → p.key = (Query.tickers w.polledSymbols).key

theorem Orderly.timely {w mid : Watch} (orderly : Orderly w) (same : mid.arrived = w.arrived)
    {t : Traffic Cached} (number : w.traffic.cache.nextRequest ≤ t.cache.nextRequest) : Timely mid.world t := by
  intro r n since high
  unfold world
  rw [same, List.lookup_eq_none_iff]
  intro entry member
  have known := orderly.arrived entry member
  have differ : (r, n) ≠ entry.1 := by
    intro same
    have first := congrArg Prod.fst same
    dsimp only at first
    omega
  exact bne_iff_ne.mpr differ

/-! Requests that go on. -/

/-- A number that was given out asks what it asked. -/
theorem queries_moved (w : Watch) (q : Query) (t : Traffic Cached) (lines : List LogLine) {r : Nat}
    (known : r < w.traffic.cache.nextRequest) : (w.moved q t lines).queries.lookup r = w.queries.lookup r := by
  change (if _ then (w.traffic.cache.nextRequest, q) :: w.queries else w.queries).lookup r = _
  split
  · have other : (r == w.traffic.cache.nextRequest) = false := beq_eq_false_iff_ne.mpr (Nat.ne_of_lt known)
    rw [List.lookup_cons, other]
  · rfl

theorem Orderly.moved {w : Watch} (orderly : Orderly w) {q : Query} {t : Traffic Cached}
    (call : Call w.world q.key w.traffic t) (lines : List LogLine) : Orderly (w.moved q t lines) := by
  obtain ⟨numbered, number, _⟩ :=
    call.moment w.traffic (.refl orderly.traffic) (orderly.timely rfl (Nat.le_refl _))
  refine ⟨numbered, ?_, fun entry member => Nat.lt_of_lt_of_le (orderly.arrived entry member) number, ?_,
    orderly.poller⟩
  · intro r attempt out
    rcases List.mem_append.mp out with old | new
    · exact Nat.lt_of_lt_of_le (orderly.calls r attempt old) number
    · obtain ⟨⟨id, count⟩, asked, same⟩ := List.mem_map.mp new
      obtain ⟨⟨other, request⟩, known, counts⟩ := List.mem_filterMap.mp asked
      have below := numbered.requests (other, request) known
      simp only [OpenCall.query.injEq] at same
      dsimp only at counts below
      split at counts
      · exact nomatch counts
      · obtain ⟨rfl, -⟩ := Prod.mk.inj (Option.some.inj counts)
        rw [← same.1]
        exact below
  · intro key flight flies
    rcases call.begins key flight flies with old | ⟨rfl, same, grows⟩
    · rw [queries_moved w q t lines (orderly.traffic.flights key flight old)]
      exact orderly.asked key flight old
    · change ((if _ then (w.traffic.cache.nextRequest, q) :: w.queries else w.queries).lookup _).map Query.key = _
      rw [if_pos grows, same, List.lookup_cons_self]
      rfl

/-- What goes on behind the loop in one moment. -/
structure Errand (w next : Watch) : Prop where
  moment : w.traffic.Moment next.traffic
  orderly : Orderly next
  arrived : next.arrived = w.arrived
  queries : ∀ r, r < w.traffic.cache.nextRequest → next.queries.lookup r = w.queries.lookup r
  poller : ∀ q, next.poller = some q → ∃ p, w.poller = some p ∧ q.key = p.key ∧ (p.Rested → q.Rested)

theorem Errand.refl {w : Watch} (orderly : Orderly w) : Errand w w :=
  ⟨.refl orderly.traffic, orderly, rfl, fun _ _ => rfl, fun q found => ⟨q, found, rfl, id⟩⟩

theorem Errand.told {w mid : Watch} (errand : Errand w mid) (polled : Polled Cached) : Errand w (mid.told polled) := by
  unfold Watch.told
  cases polled.state with
  | none => exact errand
  | some state =>
    obtain ⟨moment, ⟨traffic, calls, arrived, asked, keyed⟩, same, queries, poller⟩ := errand
    exact ⟨moment, ⟨traffic, calls, arrived, asked, keyed⟩, same, queries, poller⟩

section

variable {w mid : Watch} (orderly : Orderly w) (errand : Errand w mid)

include orderly errand

theorem Errand.moved {q : Query} {t : Traffic Cached} (call : Call mid.world q.key mid.traffic t)
    (lines : List LogLine) : Errand w (mid.moved q t lines) where
  moment := call.moment w.traffic errand.moment (orderly.timely errand.arrived (Nat.le_refl _))
  orderly := errand.orderly.moved call lines
  arrived := errand.arrived
  queries := fun r known =>
    (queries_moved mid q t lines (Nat.lt_of_lt_of_le known errand.moment.number)).trans (errand.queries r known)
  poller := errand.poller

theorem Errand.beginLoad (mode : FetchMode) : Errand w (mid.beginLoad mode) := by
  obtain ⟨moment, ⟨traffic, calls, arrived, asked, keyed⟩, same, queries, poller⟩ := errand
  have counted : Errand w { mid with loads := mid.loads + 1 } :=
    ⟨moment, ⟨traffic, calls, arrived, asked, keyed⟩, same, queries, poller⟩
  unfold Watch.beginLoad
  have call := call_start mid.world mid.now ("load " ++ toString mid.loads) mode Cached.arePortfolios
    Query.portfoliosKey mid.traffic
  exact (Errand.moved orderly counted (q := .portfolios) call _).told _

theorem Errand.runPoller : Errand w mid.runPoller := by
  unfold Watch.runPoller
  cases poller : mid.poller with
  | none => exact errand
  | some p =>
    simp only
    cases advanced : p.advance mid.world mid.now mid.traffic with
    | none => exact errand
    | some done =>
      obtain ⟨q, t, lines⟩ := done
      obtain ⟨key, rests, goes⟩ := Poller.advance_parts advanced
      have mine := errand.orderly.poller p poller
      have call : Call mid.world (Query.tickers mid.polledSymbols).key mid.traffic t := by
        rw [← mine]
        rcases goes with ⟨caller, found, rfl⟩ | ⟨mode, rfl⟩
        · exact call_pollCaller mid.world mid.now p.key found
        · exact call_start mid.world mid.now Poller.callerName mode p.accepts p.key mid.traffic
      obtain ⟨moment, ⟨traffic, calls, arrived, asked, _⟩, same, queries, _⟩ := errand.moved orderly call lines
      refine ⟨moment, ⟨traffic, calls, arrived, asked, ?_⟩, same, queries, ?_⟩
      · intro other found
        obtain rfl := Option.some.inj found
        exact key.trans mine
      · intro other found
        obtain rfl := Option.some.inj found
        obtain ⟨first, held, before, kept⟩ := errand.poller p poller
        exact ⟨first, held, key.trans before, fun rested => rests (kept rested)⟩

theorem Errand.wake (name : String) : Errand w (mid.wake name) := by
  unfold Watch.wake
  split
  · exact errand.runPoller orderly
  · unfold Traffic.poll
    cases found : mid.traffic.callers.lookup name with
    | none => exact errand
    | some caller =>
      exact (errand.moved orderly (call_pollCaller mid.world mid.now Query.portfolios.key found) _).told _

theorem Errand.wakes (names : List String) : Errand w (names.foldl (fun w name => w.wake name) mid) := by
  induction names generalizing mid with
  | nil => exact errand
  | cons name rest ih => exact ih (errand.wake orderly name)

end

/-! Nothing is asked for. -/

structure Unasked (w next : Watch) : Prop where
  number : next.traffic.cache.nextRequest = w.traffic.cache.nextRequest
  requests : next.traffic.requests = w.traffic.requests
  callers : ∀ entry ∈ next.traffic.callers, entry ∈ w.traffic.callers
  slots : ∀ key, next.traffic.cache.slotAt key = w.traffic.cache.slotAt key ∨
    (w.traffic.cache.slotAt key).Dropped (next.traffic.cache.slotAt key)
  calls : ∀ r attempt, .query r attempt ∈ next.calls → .query r attempt ∈ w.calls
  arrived : next.arrived = w.arrived
  queries : next.queries = w.queries
  keyed : (∀ p, w.poller = some p → p.key = (Query.tickers w.polledSymbols).key) →
    ∀ q, next.poller = some q → q.key = (Query.tickers next.polledSymbols).key
  poller : ∀ q, next.poller = some q → (q.first = true ∧ q.Rested) ∨
    ∃ p, w.poller = some p ∧ q.key = p.key ∧ q.first = p.first ∧ (p.Rested → q.Rested)

namespace Unasked

theorem same {w next : Watch} (traffic : next.traffic = w.traffic) (calls : next.calls = w.calls)
    (arrived : next.arrived = w.arrived) (queries : next.queries = w.queries) (poller : next.poller = w.poller)
    (symbols : next.polledSymbols = w.polledSymbols) : Unasked w next where
  number := by rw [traffic]
  requests := by rw [traffic]
  callers := by
    rw [traffic]
    exact fun _ member => member
  slots := by
    rw [traffic]
    exact fun _ => .inl rfl
  calls := by
    rw [calls]
    exact fun _ _ out => out
  arrived := arrived
  queries := queries
  keyed := by
    rw [poller, symbols]
    exact id
  poller := by
    rw [poller]
    exact fun q found => .inr ⟨q, found, rfl, rfl, id⟩

theorem trans {w next last : Watch} (first : Unasked w next) (second : Unasked next last) : Unasked w last where
  number := second.number.trans first.number
  requests := second.requests.trans first.requests
  callers := fun entry member => first.callers entry (second.callers entry member)
  slots := by
    intro key
    rcases second.slots key with same | ⟨data, flight, generation⟩
    · rw [same]
      exact first.slots key
    · right
      rcases first.slots key with same | ⟨earlier, _, before⟩
      · rw [same] at data generation
        exact ⟨data, flight, generation⟩
      · exact ⟨data.trans earlier, flight, Nat.lt_trans before generation⟩
  calls := fun r attempt out => first.calls r attempt (second.calls r attempt out)
  arrived := second.arrived.trans first.arrived
  queries := second.queries.trans first.queries
  keyed := fun mine => second.keyed (first.keyed mine)
  poller := by
    intro q found
    rcases second.poller q found with fresh | ⟨mid, between, key, ticked, rests⟩
    · exact .inl fresh
    · rcases first.poller mid between with ⟨fresh, rested⟩ | ⟨p, held, before, earlier, rest⟩
      · exact .inl ⟨ticked.trans fresh, rests rested⟩
      · exact .inr ⟨p, held, key.trans before, ticked.trans earlier, fun rested => rests (rest rested)⟩

end Unasked

section

variable (w : Watch)

theorem unasked_invalidate (start : Key) : Unasked w (w.invalidate start).1 where
  number := rfl
  requests := rfl
  callers := fun _ member => member
  slots := fun key => Cache.slotAt_invalidated start key w.traffic.cache
  calls := fun _ _ out => out
  arrived := rfl
  queries := rfl
  keyed := id
  poller := fun q found => .inr ⟨q, found, rfl, rfl, id⟩

theorem unasked_dropPoller : Unasked w w.dropPoller where
  number := rfl
  requests := rfl
  callers := fun _ member => (List.mem_filter.mp member).1
  slots := fun _ => .inl rfl
  calls := fun _ _ out => out
  arrived := rfl
  queries := rfl
  keyed := fun _ => nofun
  poller := nofun

theorem unasked_losePoller : Unasked w w.losePoller := by
  unfold losePoller
  split
  · exact .same rfl rfl rfl rfl rfl rfl
  · exact ⟨rfl, rfl, (unasked_dropPoller w).callers, fun _ => .inl rfl, fun _ _ out => out, rfl, rfl,
      fun _ => nofun, nofun⟩

theorem unasked_startPoller (symbols : List String) : Unasked w (w.startPoller symbols) where
  number := rfl
  requests := rfl
  callers := (unasked_dropPoller w).callers
  slots := fun _ => .inl rfl
  calls := fun _ _ out => out
  arrived := rfl
  queries := rfl
  keyed := by
    intro _ q started
    obtain rfl := Option.some.inj started
    rfl
  poller := by
    intro q started
    obtain rfl := Option.some.inj started
    exact .inl ⟨rfl, fun _ => ⟨rfl, rfl⟩⟩

theorem unasked_syncPoller : Unasked w w.syncPoller := by
  simp only [syncPoller]
  split
  · exact unasked_dropPoller w
  · split
    · exact .same rfl rfl rfl rfl rfl rfl
    · exact unasked_startPoller w _

theorem unasked_retry : Unasked w w.retry := by
  have asked : Unasked w (w.spawn (.load .refetch)) := .same rfl rfl rfl rfl rfl rfl
  have invalidated := unasked_invalidate (w.spawn (.load .refetch)) Query.tickersKey
  exact asked.trans (invalidated.trans ((unasked_dropPoller _).trans (unasked_syncPoller _)))

theorem unasked_tellValuation : Unasked w w.tellValuation := by
  unfold tellValuation
  split <;> exact .same rfl rfl rfl rfl rfl rfl

theorem unasked_press (i : Keyboard.Input) : Unasked w (w.press i) := by
  rcases press_parts w i with same | ⟨a, acts⟩
  · rw [same]
    exact .same rfl rfl rfl rfl rfl rfl
  · rw [acts]
    by_cases retry : a = .retry
    · rw [retry]
      exact unasked_retry w
    · obtain ⟨place, removal, session, preferences, tasks, log, ended, parts, -⟩ := act_parts w a retry
      rw [parts]
      exact .same rfl rfl rfl rfl rfl rfl

theorem unasked_answerRemoval (place : Nat) (o : Outcome Unit) : Unasked w (w.answerRemoval place o) := by
  unfold answerRemoval
  split
  · rename_i id found
    refine ⟨?_, rfl, fun _ member => member, ?_, fun _ _ out => List.mem_of_mem_eraseIdx out, rfl,
      rfl, fun mine => mine, fun q held => .inr ⟨q, held, rfl, rfl, fun rested => rested⟩⟩
    · cases o <;> rfl
    · intro key
      cases o with
      | error e => exact .inl rfl
      | ok _ => exact Cache.slotAt_invalidated Query.portfoliosKey key w.traffic.cache
  · exact .same rfl rfl rfl rfl rfl rfl

theorem unasked_observeNotice : Unasked w w.observeNotice := by
  unfold observeNotice takeNotice
  cases w.notices with
  | nil => exact .same rfl rfl rfl rfl rfl rfl
  | cons n rest =>
    have taken : Unasked w { w with notices := rest } := .same rfl rfl rfl rfl rfl rfl
    refine taken.trans ?_
    cases n with
    | portfolios state =>
      obtain ⟨place, symbols, activity, parts⟩ := observe_portfolios { w with notices := rest } state
      simp only [parts]
      have shown : Unasked { w with notices := rest }
          { w with
            notices := rest
            dashboard :=
              { w.dashboard with portfolios := state, selected := place, held := symbols, activity } } :=
        .same rfl rfl rfl rfl rfl rfl
      exact shown.trans ((unasked_syncPoller _).trans (unasked_tellValuation _))
    | removed id failure => cases failure <;> exact .same rfl rfl rfl rfl rfl rfl

theorem unasked_observePoll : Unasked w w.observePoll := by
  unfold observePoll
  cases poller : w.poller with
  | none => exact .same rfl rfl rfl rfl rfl rfl
  | some p =>
    simp only
    split
    · refine Unasked.trans ?_ (unasked_tellValuation (w.showPoll p))
      refine ⟨rfl, rfl, fun _ member => member, fun _ => .inl rfl, fun _ _ out => out, rfl, rfl, ?_, ?_⟩
      · intro mine q seen
        obtain rfl := Option.some.inj seen
        exact mine p poller
      · intro q seen
        obtain rfl := Option.some.inj seen
        exact .inr ⟨p, poller, rfl, rfl, fun rested fresh => ⟨(rested fresh).1, rfl⟩⟩
    · exact .same rfl rfl rfl rfl rfl rfl

theorem unasked_follow (feed : Feed) : Unasked w (w.follow feed) := by
  obtain ⟨activity, halt, session, log, parts⟩ := follow_parts w feed
  rw [parts]
  exact .same rfl rfl rfl rfl rfl rfl

end

/-! A step. -/

structure Onward (w next : Watch) : Prop where
  orderly : Orderly next
  number : w.traffic.cache.nextRequest ≤ next.traffic.cache.nextRequest
  outcomes : ∀ r outcome, (w.traffic.request r).outcome = some outcome →
    (next.traffic.request r).outcome = some outcome
  queries : ∀ r, r < w.traffic.cache.nextRequest → next.queries.lookup r = w.queries.lookup r
  slots : ∀ key,
    Turn w.traffic.cache.nextRequest next.traffic (w.traffic.cache.slotAt key) (next.traffic.cache.slotAt key) ∨
      (w.traffic.cache.slotAt key).Dropped (next.traffic.cache.slotAt key)
  poller : ∀ q, next.poller = some q → (q.first = true ∧ q.Rested) ∨
    ∃ p, w.poller = some p ∧ q.key = p.key ∧ (p.Rested → q.Rested)

theorem Errand.onward {w next : Watch} (errand : Errand w next) : Onward w next where
  orderly := errand.orderly
  number := errand.moment.number
  outcomes := errand.moment.outcomes
  queries := errand.queries
  slots := fun key => .inl (errand.moment.slots key)
  poller := fun q found => .inr (errand.poller q found)

section

variable {w : Watch} (orderly : Orderly w)

include orderly

theorem Unasked.onward {next : Watch} (unasked : Unasked w next) : Onward w next where
  orderly := by
    have flights : ∀ key flight, (next.traffic.cache.slotAt key).flight = some flight →
        (w.traffic.cache.slotAt key).flight = some flight := by
      intro key flight flies
      rcases unasked.slots key with same | ⟨_, idle, _⟩
      · rw [same] at flies
        exact flies
      · rw [idle] at flies
        exact nomatch flies
    refine ⟨⟨?_, ?_, ?_⟩, ?_, ?_, ?_, unasked.keyed orderly.poller⟩
    · intro key flight flies
      rw [unasked.number]
      exact orderly.traffic.flights key flight (flights key flight flies)
    · intro entry member
      rw [unasked.number]
      exact orderly.traffic.callers entry (unasked.callers entry member)
    · rw [unasked.requests, unasked.number]
      exact orderly.traffic.requests
    · intro r attempt out
      rw [unasked.number]
      exact orderly.calls r attempt (unasked.calls r attempt out)
    · rw [unasked.arrived, unasked.number]
      exact orderly.arrived
    · intro key flight flies
      rw [unasked.queries]
      exact orderly.asked key flight (flights key flight flies)
  number := Nat.le_of_eq unasked.number.symm
  outcomes := by
    intro r outcome finished
    unfold Traffic.request at finished ⊢
    rw [unasked.requests]
    exact finished
  queries := fun r _ => congrArg (List.lookup r) unasked.queries
  slots := by
    intro key
    rcases unasked.slots key with same | dropped
    · rw [same]
      exact .inl (.kept rfl rfl (.inl rfl))
    · exact .inr dropped
  poller := by
    intro q found
    rcases unasked.poller q found with fresh | ⟨p, held, key, _, rests⟩
    · exact .inl fresh
    · exact .inr ⟨p, held, key, rests⟩

theorem onward_beginTask : Onward w w.beginTask := by
  unfold beginTask
  cases w.tasks with
  | nil => exact Unasked.onward orderly (.same rfl rfl rfl rfl rfl rfl)
  | cons t rest =>
    have begun : Errand w { w with tasks := rest } :=
      ⟨.refl orderly.traffic, ⟨orderly.traffic, orderly.calls, orderly.arrived, orderly.asked, orderly.poller⟩, rfl,
        fun _ _ => rfl, fun q found => ⟨q, found, rfl, id⟩⟩
    cases t with
    | load mode => exact (begun.beginLoad orderly mode).onward
    | remove id =>
      refine Unasked.onward orderly ⟨rfl, rfl, fun _ member => member, fun _ => .inl rfl, ?_, rfl, rfl,
        fun mine => mine, fun q found => .inr ⟨q, found, rfl, rfl, fun rested => rested⟩⟩
      intro r attempt out
      rcases List.mem_append.mp out with old | new
      · exact old
      · exact nomatch List.mem_singleton.mp new
    | poll => exact (begun.runPoller orderly).onward

theorem onward_answer (place : Nat) (o : Outcome Cached) : Onward w (w.answer place o) := by
  by_cases query : ∃ request attempt, w.calls[place]? = some (.query request attempt)
  · obtain ⟨request, attempt, found⟩ := query
    simp only [answer, found]
    let come : Watch :=
      { w with calls := w.calls.eraseIdx place, arrived := ((request, attempt), o) :: w.arrived }
    have known : request < w.traffic.cache.nextRequest :=
      orderly.calls request attempt (List.mem_of_getElem? found)
    -- With the answer in, everything else is one moment that began with as many requests.
    have comes : Orderly come := by
      refine ⟨orderly.traffic, fun r n out => orderly.calls r n (List.mem_of_mem_eraseIdx out), ?_, orderly.asked,
        orderly.poller⟩
      intro entry member
      rcases List.mem_cons.mp member with rfl | old
      · exact known
      · exact orderly.arrived entry old
    obtain ⟨next, number, outcomes, queries, slots, poller⟩ :=
      ((Errand.refl comes).wakes comes (come.callersOf request)).onward
    exact ⟨next, number, outcomes, queries, slots, poller⟩
  · unfold answer
    split
    · rename_i request attempt found
      exact absurd ⟨request, attempt, found⟩ query
    · exact Unasked.onward orderly (.same rfl rfl rfl rfl rfl rfl)

theorem onward_handle (e : WatchEvent) : Onward w (w.handle e) := by
  cases e with
  | clock now => exact Unasked.onward orderly (.same rfl rfl rfl rfl rfl rfl)
  | input i => exact (unasked_press w i).onward orderly
  | interrupted =>
    unfold handle
    dsimp only
    split <;> exact Unasked.onward orderly (.same rfl rfl rfl rfl rfl rfl)
  | taskBegins => exact onward_beginTask orderly
  | answered place o => exact onward_answer orderly place o
  | removed place o => exact (unasked_answerRemoval w place o).onward orderly
  | pollerRuns => exact ((Errand.refl orderly).runPoller orderly).onward
  | noticeSeen => exact (unasked_observeNotice w).onward orderly
  | pollSeen => exact (unasked_observePoll w).onward orderly
  | feedOpened => exact (unasked_follow w _).onward orderly
  | frame f => exact (unasked_follow w _).onward orderly
  | feedLost e => exact (unasked_follow w _).onward orderly
  | pollerEnded => exact (unasked_losePoller w).onward orderly

theorem onward_step (e : WatchEvent) : Onward w (w.step e) := by
  unfold Watch.step
  split
  · exact Unasked.onward orderly (.same rfl rfl rfl rfl rfl rfl)
  · obtain ⟨⟨traffic, calls, arrived, asked, keyed⟩, number, outcomes, queries, slots, poller⟩ :=
      onward_handle orderly e
    exact ⟨⟨traffic, calls, arrived, asked, keyed⟩, number, outcomes, queries, slots, poller⟩

end

end Watch
end TradingDesk
