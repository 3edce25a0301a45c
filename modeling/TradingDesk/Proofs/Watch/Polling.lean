import Mathlib.Data.List.Sort
import TradingDesk.Proofs.Watch.Polled
import TradingDesk.Proofs.Watch.Removal
import TradingDesk.Proofs.Watch.Screen

/-! The poller of a watch. There is one at most, and it asks for the symbols that are held in the portfolios loaded
last. It is brought in line with them whenever portfolios have come and when all is asked for again; if they hold the
same symbols, nobody touches it. -/

namespace TradingDesk

theorem heldSymbols_ascending (portfolios : List Portfolio) : (heldSymbols portfolios).Pairwise (· < ·) :=
  List.pairwise_map.mpr (Table.ascending_ofList _)

theorem mem_heldSymbols (symbol : String) (portfolios : List Portfolio) :
    symbol ∈ heldSymbols portfolios ↔ ∃ p ∈ portfolios, ∃ h ∈ p.holdings, h.symbol = symbol := by
  unfold heldSymbols
  rw [Table.mem_keys_ofList, List.map_map]
  simp only [List.mem_map, List.mem_flatMap, Function.comp]
  constructor
  · rintro ⟨h, ⟨p, listed, inside⟩, same⟩
    exact ⟨p, listed, h, inside, same⟩
  · rintro ⟨p, listed, h, inside, same⟩
    exact ⟨h, ⟨p, listed, inside⟩, same⟩

namespace News

/-- The portfolios that have come, if they have. -/
def loaded? (n : News) : Option (List Portfolio) :=
  n.list?.bind QueryState.data?

/-- The portfolios that came last. An attempt that failed does not count. -/
def loaded (history : List News) : List Portfolio :=
  (history.filterMap loaded?).getLast?.getD []

theorem loaded_append (history : List News) (n : Option News) :
    loaded (history ++ n.toList) = (n.bind loaded?).getD (loaded history) := by
  unfold loaded
  rw [List.filterMap_append, List.getLast?_append]
  cases n with
  | none => rfl
  | some n =>
    cases came : n.loaded? <;> simp [came]

end News

namespace Watch
open News

/-- Nobody polls but the poller: it is begun once, and without it nobody waits for a poll. -/
structure Lone (w : Watch) : Prop where
  tasks : w.tasks.count .poll ≤ w.poller.isSome.toNat
  callers : w.poller = none → w.traffic.callers.lookup Poller.callerName = none

/-- The poller is for what is held. -/
structure Tended (w : Watch) : Prop extends Lone w where
  serves : w.poller.isSome = true → w.polledSymbols = w.dashboard.held ∧ w.dashboard.held ≠ []

/-- There is a poller exactly when something is held. -/
def Settled (w : Watch) : Prop :=
  w.poller.isSome = true ↔ w.dashboard.held ≠ []

/-- Of the poller nothing is touched. -/
structure Undisturbed (w next : Watch) : Prop where
  poller : next.poller = w.poller
  symbols : next.polledSymbols = w.polledSymbols
  tasks : next.tasks = w.tasks
  traffic : next.traffic = w.traffic

/-- The poller goes on, or there is still none. -/
structure Kept (w next : Watch) : Prop where
  held : next.dashboard.held = w.dashboard.held
  symbols : next.polledSymbols = w.polledSymbols
  poller : next.poller.isSome = w.poller.isSome
  tasks : next.tasks.count .poll ≤ w.tasks.count .poll
  callers : w.poller = none →
    next.traffic.callers.lookup Poller.callerName = w.traffic.callers.lookup Poller.callerName

theorem Undisturbed.trans {w next last : Watch} (first : Undisturbed w next) (second : Undisturbed next last) :
    Undisturbed w last where
  poller := second.poller.trans first.poller
  symbols := second.symbols.trans first.symbols
  tasks := second.tasks.trans first.tasks
  traffic := second.traffic.trans first.traffic

theorem Undisturbed.lone {w next : Watch} (same : Undisturbed w next) (lone : Lone w) : Lone next where
  tasks := by
    rw [same.tasks, same.poller]
    exact lone.tasks
  callers := by
    rw [same.poller, same.traffic]
    exact lone.callers

namespace Kept

theorem of_undisturbed {w next : Watch} (same : Undisturbed w next) (held : next.dashboard.held = w.dashboard.held) :
    Kept w next where
  held := held
  symbols := same.symbols
  poller := by rw [same.poller]
  tasks := by rw [same.tasks]
  callers := fun _ => by rw [same.traffic]

theorem refl (w : Watch) : Kept w w :=
  ⟨rfl, rfl, rfl, Nat.le_refl _, fun _ => rfl⟩

theorem absent {w next : Watch} (kept : Kept w next) : next.poller = none ↔ w.poller = none := by
  rw [← Option.not_isSome_iff_eq_none, ← Option.not_isSome_iff_eq_none, kept.poller]

theorem trans {w next last : Watch} (first : Kept w next) (second : Kept next last) : Kept w last where
  held := second.held.trans first.held
  symbols := second.symbols.trans first.symbols
  poller := second.poller.trans first.poller
  tasks := Nat.le_trans second.tasks first.tasks
  callers := fun none => (second.callers (first.absent.mpr none)).trans (first.callers none)

theorem tended {w next : Watch} (kept : Kept w next) (tended : Tended w) : Tended next where
  tasks := by
    rw [kept.poller]
    exact Nat.le_trans kept.tasks tended.tasks
  callers := by
    intro none
    have before := kept.absent.mp none
    exact (kept.callers before).trans (tended.callers before)
  serves := by
    rw [kept.poller, kept.symbols, kept.held]
    exact tended.serves

theorem settled {w next : Watch} (kept : Kept w next) (settled : Settled w) : Settled next := by
  unfold Settled
  rw [kept.poller, kept.held]
  exact settled

end Kept

section

variable (w : Watch)

/-! The background. -/

theorem kept_told (polled : Traffic.Polled Cached) : Kept w (w.told polled) := by
  unfold told
  cases polled.state with
  | none => exact .refl w
  | some state => exact ⟨rfl, rfl, rfl, Nat.le_refl _, fun _ => rfl⟩

theorem kept_beginLoad (mode : FetchMode) : Kept w (w.beginLoad mode) := by
  unfold beginLoad
  have apart := load_apart w.loads
  refine Kept.trans ?_ (kept_told _ _)
  exact ⟨rfl, rfl, rfl, Nat.le_refl _, fun _ => Traffic.lookup_start w.world w.now (Ne.symm apart) w.traffic _ _ _⟩

theorem kept_runPoller : Kept w w.runPoller := by
  unfold runPoller
  cases poller : w.poller with
  | none => exact .refl w
  | some p =>
    simp only
    cases p.advance w.world w.now w.traffic with
    | none => exact .refl w
    | some done =>
      refine ⟨rfl, rfl, ?_, Nat.le_refl _, fun none => ?_⟩
      · rw [poller]
        rfl
      · exact nomatch poller.symm.trans none

theorem kept_wake (name : String) : Kept w (w.wake name) := by
  unfold wake
  split
  · exact kept_runPoller w
  · rename_i apart
    cases found : w.traffic.poll w.world w.now name with
    | none => exact .refl w
    | some done =>
      refine Kept.trans ?_ (kept_told _ _)
      obtain ⟨caller, _, rfl⟩ := Option.map_eq_some_iff.mp found
      refine ⟨rfl, rfl, rfl, Nat.le_refl _, fun _ => ?_⟩
      exact Traffic.lookup_pollCaller w.world w.now (Ne.symm apart) w.traffic caller

theorem kept_wakes (names : List String) : Kept w (names.foldl (fun w name => w.wake name) w) := by
  induction names generalizing w with
  | nil => exact .refl w
  | cons name rest ih => exact (kept_wake w name).trans (ih _)

theorem kept_answer (place : Nat) (o : Outcome Cached) : Kept w (w.answer place o) := by
  unfold answer
  split
  · rename_i request attempt found
    let come : Watch := { w with calls := w.calls.eraseIdx place, arrived := ((request, attempt), o) :: w.arrived }
    have comes : Kept w come := ⟨rfl, rfl, rfl, Nat.le_refl _, fun _ => rfl⟩
    exact comes.trans (kept_wakes come _)
  · exact .refl w

theorem kept_answerRemoval (place : Nat) (o : Outcome Unit) : Kept w (w.answerRemoval place o) := by
  unfold answerRemoval
  split
  · exact ⟨rfl, rfl, rfl, Nat.le_refl _, fun _ => rfl⟩
  · exact .refl w

theorem kept_spawn (t : BackgroundTask) (other : t ≠ .poll) : Kept w (w.spawn t) := by
  refine ⟨rfl, rfl, rfl, ?_, fun _ => rfl⟩
  change (w.tasks ++ [t]).count .poll ≤ w.tasks.count .poll
  rw [List.count_append, List.count_singleton, if_neg (by simpa using other)]
  exact Nat.le_refl _

theorem kept_beginTask : Kept w w.beginTask := by
  unfold beginTask
  cases tasks : w.tasks with
  | nil => exact .refl w
  | cons t rest =>
    have begun : Kept w { w with tasks := rest } := by
      refine ⟨rfl, rfl, rfl, ?_, fun _ => rfl⟩
      rw [tasks]
      exact List.count_le_count_cons
    refine begun.trans ?_
    cases t with
    | load mode => exact kept_beginLoad { w with tasks := rest } mode
    | remove id => exact ⟨rfl, rfl, rfl, Nat.le_refl _, fun _ => rfl⟩
    | poll => exact kept_runPoller { w with tasks := rest }

/-! The loop. -/

theorem undisturbed_tellValuation : Undisturbed w w.tellValuation := by
  unfold tellValuation
  split <;> exact ⟨rfl, rfl, rfl, rfl⟩

theorem kept_tellValuation : Kept w w.tellValuation :=
  .of_undisturbed (undisturbed_tellValuation w) (congrArg Dashboard.held (behind_tellValuation w).dashboard)

theorem kept_observePoll : Kept w w.observePoll := by
  unfold observePoll
  cases poller : w.poller with
  | none => exact .refl w
  | some p =>
    simp only
    split
    · have shows : Kept w (w.showPoll p) := by
        refine ⟨rfl, rfl, ?_, Nat.le_refl _, fun _ => rfl⟩
        rw [poller]
        rfl
      exact shows.trans (kept_tellValuation (w.showPoll p))
    · exact .refl w

theorem kept_follow (feed : Feed) : Kept w (w.follow feed) := by
  obtain ⟨activity, halt, session, log, parts⟩ := follow_parts w feed
  rw [parts]
  exact ⟨rfl, rfl, rfl, Nat.le_refl _, fun _ => rfl⟩

theorem kept_act (a : Keyboard.Action) (other : a ≠ .retry) : Kept w (w.act a) := by
  cases a with
  | retry => exact absurd rfl other
  | confirmRemoval =>
    simp only [act, confirmRemoval]
    let settled : Watch := { w with dashboard := { w.dashboard with removal := w.dashboard.removal.confirm.2 } }
    have confirms : Kept w settled := ⟨rfl, rfl, rfl, Nat.le_refl _, fun _ => rfl⟩
    cases w.dashboard.removal.confirm.1 with
    | none => exact confirms
    | some id => exact confirms.trans (kept_spawn settled (.remove id) (by simp))
  | nextPortfolio =>
    obtain ⟨place, parts⟩ := w.dashboard.selectNext_parts
    simp only [act, parts]
    exact ⟨rfl, rfl, rfl, Nat.le_refl _, fun _ => rfl⟩
  | previousPortfolio =>
    obtain ⟨place, parts⟩ := w.dashboard.selectPrevious_parts
    simp only [act, parts]
    exact ⟨rfl, rfl, rfl, Nat.le_refl _, fun _ => rfl⟩
  | requestRemoval =>
    obtain ⟨removal, parts⟩ := w.dashboard.requestRemoval_parts
    simp only [act, parts]
    exact ⟨rfl, rfl, rfl, Nat.le_refl _, fun _ => rfl⟩
  | dismissToast =>
    simp only [act, dismissToast]
    split <;> exact ⟨rfl, rfl, rfl, Nat.le_refl _, fun _ => rfl⟩
  | _ => exact ⟨rfl, rfl, rfl, Nat.le_refl _, fun _ => rfl⟩

/-! The poller is brought in line. -/

theorem lone_dropPoller : Lone w.dropPoller where
  tasks := by
    have gone : (w.tasks.filter (· ≠ BackgroundTask.poll)).count .poll = 0 := List.count_eq_zero.mpr (by simp)
    exact Nat.le_of_eq gone
  callers := fun _ => (Traffic.lookup_drop _ _ w.traffic).trans (if_pos rfl)

theorem tended_startPoller (symbols : List String) (same : symbols = w.dashboard.held) (some : symbols ≠ []) :
    Tended (w.startPoller symbols) where
  tasks := by
    change List.count .poll (w.dropPoller.tasks ++ [BackgroundTask.poll]) ≤ 1
    rw [List.count_append]
    exact Nat.add_le_add_right (lone_dropPoller w).tasks 1
  callers := nofun
  serves := fun _ => ⟨same, same ▸ some⟩

theorem tended_syncPoller {w : Watch} (lone : Lone w) : Tended w.syncPoller ∧ Settled w.syncPoller := by
  simp only [syncPoller]
  split
  · rename_i empty
    have nothing : w.dashboard.held = [] := List.isEmpty_iff.mp empty
    have gone : w.dropPoller.poller.isSome ≠ true := Bool.false_ne_true
    exact ⟨⟨lone_dropPoller w, fun present => absurd present gone⟩, fun present => absurd present gone,
      fun some => absurd nothing some⟩
  · rename_i filled
    have some : w.dashboard.held ≠ [] := fun nothing => filled (List.isEmpty_iff.mpr nothing)
    split
    · rename_i stays
      obtain ⟨exists', same⟩ := Bool.and_eq_true_iff.mp stays
      exact ⟨⟨lone, fun _ => ⟨of_decide_eq_true same, some⟩⟩, fun _ => some, fun _ => exists'⟩
    · exact ⟨tended_startPoller w _ rfl some, fun _ => some, fun _ => rfl⟩

/-- A poller of what is held is left alone. -/
theorem syncPoller_serving {p : Poller Cached} (poller : w.poller = some p)
    (same : w.polledSymbols = w.dashboard.held) (some : w.dashboard.held ≠ []) : w.syncPoller = w := by
  unfold syncPoller
  simp only
  rw [if_neg (fun empty => some (List.isEmpty_iff.mp empty)), if_pos]
  rw [poller, same]
  simp

/-- Portfolios are shown, and then the poller is brought in line. -/
theorem observe_listed (state : QueryState (List Portfolio)) : ∃ v : Watch,
    w.observe (.portfolios state) = v.syncPoller.tellValuation ∧ Undisturbed w v ∧
      v.dashboard.held = (state.data?.map heldSymbols).getD w.dashboard.held := by
  have shows (d : Dashboard) (held : d.held = w.dashboard.held) :
      (d.setPortfolios state).held = (state.data?.map heldSymbols).getD w.dashboard.held := by
    cases state with
    | data list => rfl
    | _ => exact held
  cases failed : state.error? with
  | none =>
    refine ⟨{ w with dashboard := w.dashboard.setPortfolios state }, ?_, ⟨rfl, rfl, rfl, rfl⟩, shows _ rfl⟩
    simp only [observe, failed]
  | some text =>
    let noted := w.record ("ERROR loading portfolios: " ++ text)
    refine ⟨{ noted with dashboard := noted.dashboard.setPortfolios state }, ?_, ⟨rfl, rfl, rfl, rfl⟩, shows _ rfl⟩
    simp only [observe, failed]
    rfl

theorem tended_losePoller {w : Watch} (tended : Tended w) : Tended w.losePoller := by
  unfold losePoller
  split
  · exact tended
  · exact ⟨⟨(lone_dropPoller w).tasks, (lone_dropPoller w).callers⟩, nofun⟩

end

/-! A step. -/

/-- The steps in which the poller is brought in line: portfolios are looked at, or all is asked for again. -/
def Syncs (w : Watch) (e : WatchEvent) : Prop :=
  w.ended = false ∧ ((e = .noticeSeen ∧ ∃ state rest, w.notices = .portfolios state :: rest) ∨
    ∃ i, e = .input i ∧ w.headless = false ∧
      Keyboard.action? w.dashboard.removal.pending?.isSome i = some .retry)

section

variable {w : Watch} {e : WatchEvent}

theorem press_retry {i : Keyboard.Input} (listens : w.headless = false)
    (retry : Keyboard.action? w.dashboard.removal.pending?.isSome i = some .retry) : w.press i = w.retry := by
  unfold press
  rw [if_neg (by simp [listens]), retry]
  rfl

theorem synced_handle (tended : Tended w) (syncs : w.Syncs e) : Tended (w.handle e) ∧ Settled (w.handle e) := by
  obtain ⟨-, ⟨rfl, state, rest, notices⟩ | ⟨i, rfl, listens, retry⟩⟩ := syncs
  · obtain ⟨v, observed, same, -⟩ := observe_listed { w with notices := rest } state
    have handled : w.handle .noticeSeen = v.syncPoller.tellValuation := by
      change w.observeNotice = _
      unfold observeNotice takeNotice
      rw [notices]
      exact observed
    have taken : Lone { w with notices := rest } := ⟨tended.tasks, tended.callers⟩
    obtain ⟨ready, settled⟩ := tended_syncPoller (same.lone taken)
    rw [handled]
    exact ⟨(kept_tellValuation _).tended ready, (kept_tellValuation _).settled settled⟩
  · rw [show w.handle (.input i) = w.retry from press_retry listens retry]
    exact tended_syncPoller (lone_dropPoller _)

theorem kept_handle (running : w.ended = false) (other : ¬w.Syncs e) (lives : e ≠ .pollerEnded) :
    Kept w (w.handle e) := by
  cases e with
  | input i =>
    change Kept w (w.press i)
    unfold press
    split
    · exact .refl w
    · rename_i listens
      cases action : Keyboard.action? w.dashboard.removal.pending?.isSome i with
      | none => exact .refl w
      | some a =>
        refine kept_act w a fun retry => other ⟨running, .inr ⟨i, rfl, Bool.eq_false_iff.mpr listens, ?_⟩⟩
        rw [action, retry]
  | noticeSeen =>
    change Kept w w.observeNotice
    unfold observeNotice takeNotice
    cases notices : w.notices with
    | nil => exact .refl w
    | cons n rest =>
      cases n with
      | portfolios state => exact absurd ⟨running, .inl ⟨rfl, state, rest, notices⟩⟩ other
      | removed id failure =>
        cases failure with
        | some text => exact ⟨rfl, rfl, rfl, Nat.le_refl _, fun _ => rfl⟩
        | none =>
          let told := (({ w with notices := rest }).toast .success "Portfolio deleted").record
            ("Deleted portfolio #" ++ toString id.toInt)
          have tells : Kept w told := ⟨rfl, rfl, rfl, Nat.le_refl _, fun _ => rfl⟩
          exact tells.trans (kept_spawn told (.load .fetch) nofun)
  | interrupted =>
    unfold handle
    dsimp only
    split <;> exact ⟨rfl, rfl, rfl, Nat.le_refl _, fun _ => rfl⟩
  | clock now => exact ⟨rfl, rfl, rfl, Nat.le_refl _, fun _ => rfl⟩
  | taskBegins => exact kept_beginTask w
  | answered place o => exact kept_answer w place o
  | removed place o => exact kept_answerRemoval w place o
  | pollerRuns => exact kept_runPoller w
  | pollSeen => exact kept_observePoll w
  | feedOpened => exact kept_follow w _
  | frame f => exact kept_follow w _
  | feedLost e => exact kept_follow w _
  | pollerEnded => exact absurd rfl lives

theorem kept_refresh : Kept w w.refresh :=
  ⟨rfl, rfl, rfl, Nat.le_refl _, fun _ => rfl⟩

theorem step_running (running : w.ended = false) : w.step e = (w.handle e).refresh := by
  unfold step
  rw [if_neg (by simp [running])]

theorem synced_step (tended : Tended w) (syncs : w.Syncs e) : Tended (w.step e) ∧ Settled (w.step e) := by
  rw [step_running syncs.1]
  obtain ⟨ready, settled⟩ := synced_handle tended syncs
  exact ⟨kept_refresh.tended ready, kept_refresh.settled settled⟩

theorem kept_step (other : ¬w.Syncs e) (lives : e ≠ .pollerEnded) : Kept w (w.step e) := by
  cases running : w.ended with
  | false =>
    rw [step_running running]
    exact (kept_handle running other lives).trans kept_refresh
  | true =>
    unfold step
    rw [if_pos running]
    exact .refl w

theorem tended_step (tended : Tended w) (e : WatchEvent) : Tended (w.step e) := by
  by_cases syncs : w.Syncs e
  · exact (synced_step tended syncs).1
  · by_cases lives : e = .pollerEnded
    · subst lives
      unfold step
      split
      · exact tended
      · exact kept_refresh.tended (tended_losePoller tended)
    · exact (kept_step syncs lives).tended tended

theorem settled_step (tended : Tended w) (settled : Settled w) (lives : e ≠ .pollerEnded) : Settled (w.step e) := by
  by_cases syncs : w.Syncs e
  · exact (synced_step tended syncs).2
  · exact (kept_step syncs lives).settled settled

/-! The portfolios that have come. -/

section Notice

variable {state : QueryState (List Portfolio)} {rest : List Notice} (running : w.ended = false)
  (notices : w.notices = .portfolios state :: rest)

include running notices

theorem step_listed : ∃ v : Watch, w.step .noticeSeen = v.syncPoller.tellValuation.refresh ∧ Undisturbed w v ∧
    v.dashboard.held = (state.data?.map heldSymbols).getD w.dashboard.held := by
  obtain ⟨v, observed, same, held⟩ := observe_listed { w with notices := rest } state
  refine ⟨v, ?_, ⟨same.poller, same.symbols, same.tasks, same.traffic⟩, held⟩
  rw [step_running running, ← observed]
  change w.observeNotice.refresh = _
  unfold observeNotice takeNotice
  rw [notices]

theorem held_listed : (w.step .noticeSeen).dashboard.held = (state.data?.map heldSymbols).getD w.dashboard.held := by
  obtain ⟨v, stepped, -, held⟩ := step_listed running notices
  have behind := (behind_syncPoller v).trans (behind_tellValuation _)
  have kept : v.syncPoller.tellValuation.dashboard.held = v.dashboard.held := congrArg Dashboard.held behind.dashboard
  rw [stepped, ← held]
  exact kept

theorem learns_listed : w.learns .noticeSeen = some (.listed state) := by
  unfold learns
  rw [running, notices]
  rfl

theorem undisturbed_listed (tended : Tended w) {p : Poller Cached} (poller : w.poller = some p)
    (unchanged : (state.data?.map heldSymbols).getD w.dashboard.held = w.dashboard.held) :
    Undisturbed w (w.step .noticeSeen) := by
  obtain ⟨v, stepped, same, held⟩ := step_listed running notices
  obtain ⟨serves, some⟩ := tended.serves (by rw [poller]; rfl)
  have shown : v.dashboard.held = w.dashboard.held := held.trans unchanged
  have stays : v.syncPoller = v :=
    syncPoller_serving v (same.poller.trans poller) ((same.symbols.trans serves).trans shown.symm) (shown ▸ some)
  rw [stepped, stays]
  exact (same.trans (undisturbed_tellValuation v)).trans ⟨rfl, rfl, rfl, rfl⟩

end Notice

theorem learns_loaded {n : News} {list : List Portfolio} (news : w.learns e = some n) (came : n.loaded? = some list) :
    w.ended = false ∧ e = .noticeSeen ∧ ∃ rest, w.notices = .portfolios (.data list) :: rest := by
  unfold learns at news
  split at news
  · exact nomatch news
  · rename_i running
    refine ⟨Bool.eq_false_iff.mpr running, ?_⟩
    cases e with
    | noticeSeen =>
      simp only at news
      split at news
      · rename_i state rest notices
        obtain rfl := Option.some.inj news
        cases state with
        | data other =>
          obtain rfl := Option.some.inj came
          exact ⟨rfl, rest, notices⟩
        | loading => exact nomatch came
        | error text => exact nomatch came
      · exact nomatch news
    | pollSeen =>
      obtain ⟨p, -, rfl⟩ := Option.map_eq_some_iff.mp news
      exact nomatch came
    | feedOpened | frame f | feedLost ending =>
      obtain rfl := Option.some.inj news
      exact nomatch came
    | _ => exact nomatch news

/-- Only portfolios that have come change what is held. -/
theorem held_step (w : Watch) (e : WatchEvent) : (w.step e).dashboard.held =
    (((w.learns e).bind loaded?).map heldSymbols).getD w.dashboard.held := by
  by_cases syncs : w.Syncs e
  · obtain ⟨running, ⟨rfl, state, rest, notices⟩ | ⟨i, rfl, listens, retry⟩⟩ := syncs
    · rw [held_listed running notices, learns_listed running notices]
      rfl
    · have asks : w.handle (.input i) = w.retry := press_retry listens retry
      have silent : w.learns (.input i) = none := ite_self none
      rw [step_running running, asks, silent]
      have kept : w.retry.dashboard.held = w.dashboard.held := congrArg Dashboard.held (behind_retry w).dashboard
      exact kept
  · have silent : (w.learns e).bind loaded? = none := by
      refine Option.eq_none_iff_forall_ne_some.mpr fun list came => ?_
      obtain ⟨n, news, loaded⟩ := Option.bind_eq_some_iff.mp came
      obtain ⟨running, same, rest, notices⟩ := learns_loaded news loaded
      exact syncs ⟨running, .inl ⟨same, _, rest, notices⟩⟩
    rw [silent]
    by_cases lives : e = .pollerEnded
    · subst lives
      unfold step
      split
      · rfl
      · have kept : w.losePoller.dashboard.held = w.dashboard.held :=
          congrArg Dashboard.held (behind_losePoller w).dashboard
        exact kept
    · exact (kept_step syncs lives).held

end

theorem learned_concat (w : Watch) (events : List WatchEvent) (e : WatchEvent) :
    learned w (events ++ [e]) = learned w events ++ ((run w events).learns e).toList := by
  induction events generalizing w with
  | nil => exact List.append_nil _
  | cons first rest ih =>
    rw [List.cons_append, learned, learned, ih, List.append_assoc]
    rfl

/-! A run. -/

theorem held_run {w : Watch} (nothing : w.dashboard.held = []) (events : List WatchEvent) :
    (run w events).dashboard.held = heldSymbols (loaded (learned w events)) := by
  induction events using List.reverseRecOn with
  | nil => exact nothing
  | append_singleton events e ih =>
    rw [run_concat, held_step, ih, learned_concat, loaded_append]
    cases ((run w events).learns e).bind loaded? <;> rfl

theorem tended_run {w : Watch} (tended : Tended w) (events : List WatchEvent) : Tended (run w events) := by
  induction events generalizing w with
  | nil => exact tended
  | cons e rest ih => exact ih (tended_step tended e)

theorem settled_run {w : Watch} (tended : Tended w) (settled : Settled w) (events : List WatchEvent)
    (lives : .pollerEnded ∉ events) : Settled (run w events) := by
  induction events generalizing w with
  | nil => exact settled
  | cons e rest ih =>
    have here : e ≠ .pollerEnded := fun ended => lives (ended ▸ List.mem_cons_self)
    exact ih (tended_step tended e) (settled_step tended settled here) fun later => lives (List.mem_cons_of_mem e later)

theorem steady_run {w : Watch} (steady : Steady w) (events : List WatchEvent) : Steady (run w events) := by
  induction events generalizing w with
  | nil => exact steady
  | cons e rest ih => exact ih (effect_step steady e).steady

/-- At any moment of a run with this history the poller is for the symbols in the portfolios that came last. -/
structure Polls (history : List News) (w : Watch) : Prop where
  ascending : w.dashboard.held.Pairwise (· < ·)
  held : ∀ symbol, symbol ∈ w.dashboard.held ↔ ∃ p ∈ loaded history, ∃ h ∈ p.holdings, h.symbol = symbol
  key : ∀ p, w.poller = some p → p.key = ⟨["tickers", String.intercalate "," w.dashboard.held]⟩
  symbols : ∀ p, w.poller = some p → w.polledSymbols = w.dashboard.held ∧ w.dashboard.held ≠ []
  /-- It is begun once, and nobody else waits for a poll. -/
  begun : w.tasks.count .poll ≤ w.poller.isSome.toNat
  waits : (w.traffic.callers.map Prod.fst).count Poller.callerName ≤ w.poller.isSome.toNat

theorem waits_once {t : Traffic Cached} (distinct : t.Distinct) {present : Bool}
    (absent : present = false → t.callers.lookup Poller.callerName = none) :
    (t.callers.map Prod.fst).count Poller.callerName ≤ present.toNat := by
  cases present with
  | true => exact List.nodup_iff_count_le_one.mp distinct Poller.callerName
  | false =>
    refine Nat.le_of_eq (List.count_eq_zero.mpr fun member => ?_)
    obtain ⟨⟨name, caller⟩, inside, rfl⟩ := List.mem_map.mp member
    exact nomatch (distinct.lookup inside).symm.trans (absent rfl)

/-- In every run there is one poller at most, of exactly the symbols in the portfolios that came last. Whenever
portfolios are looked at and all is asked for again, there is one afterwards if something is held, and so it stays
until its task ends by itself. Portfolios that cannot be had, or that hold the same symbols, leave it as it is. -/
theorem one_poller (s : Settings) (baseUrl : String) (p : Preferences) (headless : Bool) (events : List WatchEvent) :
    let first := start s baseUrl p headless
    let w := run first events
    Polls (learned first events) w ∧ (∀ e, w.Syncs e → Settled (w.step e)) ∧
    (.pollerEnded ∉ events → Settled w) ∧
    ∀ poller state rest, w.ended = false → w.poller = some poller → w.notices = .portfolios state :: rest →
      (∀ list, state = .data list → ∀ symbol,
        symbol ∈ w.dashboard.held ↔ ∃ q ∈ list, ∃ h ∈ q.holdings, h.symbol = symbol) →
      Undisturbed w (w.step .noticeSeen) := by
  intro first w
  have tendedFirst : Tended first := ⟨⟨Nat.le_refl 0, fun _ => rfl⟩, nofun⟩
  have settledFirst : Settled first := ⟨nofun, fun some => absurd rfl some⟩
  have tended : Tended w := tended_run tendedFirst events
  have held : w.dashboard.held = heldSymbols (loaded (learned first events)) := held_run rfl events
  have keyed := (traced_sources (.start s baseUrl p headless) events).orderly.poller
  refine ⟨⟨?_, ?_, ?_, ?_, tended.tasks, ?_⟩, ?_, settled_run tendedFirst settledFirst events, ?_⟩
  · rw [held]
    exact heldSymbols_ascending _
  · intro symbol
    rw [held]
    exact mem_heldSymbols symbol _
  · intro q poller
    rw [keyed q poller, (tended.serves (by rw [poller]; rfl)).1]
    rfl
  · intro q poller
    exact tended.serves (by rw [poller]; rfl)
  · refine waits_once (steady_run (steady_start s baseUrl p headless) events).seated.distinct fun absent => ?_
    exact tended.callers (Option.isNone_iff_eq_none.mp (Option.isSome_eq_false_iff.mp absent))
  · exact fun e syncs => (synced_step tended syncs).2
  · intro poller state rest running found notices same
    refine undisturbed_listed running notices tended found ?_
    cases state with
    | loading => rfl
    | error text => rfl
    | data list =>
      have ascending := heldSymbols_ascending (loaded (learned first events))
      rw [← held] at ascending
      refine (heldSymbols_ascending list).eq_of_mem_iff ascending fun symbol => ?_
      rw [mem_heldSymbols]
      exact (same list rfl symbol).symm

end Watch
end TradingDesk
