import Mathlib.Data.List.Induction
import Mathlib.Data.List.Nodup
import TradingDesk.Proofs.Dashboard.Parts
import TradingDesk.Proofs.Dashboard.Prompt
import TradingDesk.Proofs.Watch.Behind

/-! Which removals are sent. Each was requested while its portfolio was selected, the prompt named it until it was
confirmed, and it is sent once. -/

namespace TradingDesk
open Keyboard

def WatchEvent.input? : WatchEvent → Option Input
  | .input i => some i
  | _ => none

namespace Watch

/-- The removals that a step sends. -/
def sent (w next : Watch) : List Int64 :=
  next.out.diff w.out

/-- Where in a run removals are sent. -/
def sends (w : Watch) (events : List WatchEvent) : List (Nat × Int64) :=
  (List.range events.length).flatMap fun place =>
    (sent (run w (events.take place)) (run w (events.take (place + 1)))).map (place, ·)

/-- The prompt was opened at a place and is still open at the end. -/
structure Prompted (w : Watch) (events : List WatchEvent) (place : Nat) (id : Int64) : Prop where
  request : ∃ i, events[place]? = some (.input i) ∧ Requests i
  selected : (run w (events.take place)).dashboard.selected?.map Portfolio.id = some id
  unanswered : ∀ later i, place < later → events[later]? = some (.input i) → ¬Affirms i ∧ ¬Declines i
  named : ∀ later, place < later → later ≤ events.length → (run w (events.take later)).dashboard.Names id

/-- The places at which a removal was requested and confirmed. -/
structure Confirmation where
  requested : Nat
  confirmed : Nat
  id : Int64

structure Confirms (w : Watch) (events : List WatchEvent) (c : Confirmation) : Prop where
  prompted : Prompted w (events.take c.confirmed) c.requested c.id
  affirmed : ∃ i, events[c.confirmed]? = some (.input i) ∧ Affirms i

/-! A step. -/

theorem diff_append {α : Type} [DecidableEq α] (before new : List α) : (before ++ new).diff before = new := by
  induction before with
  | nil => rfl
  | cons a rest ih =>
    rw [List.cons_append, List.diff_cons, List.erase_cons_head]
    exact ih

theorem sent_sublist {w next : Watch} (fewer : next.out.Sublist w.out) : sent w next = [] := by
  have nothing := diff_append w.out []
  rw [List.append_nil] at nothing
  have within : (sent w next).Sublist (w.out.diff w.out) := fewer.diff_right
  rw [nothing] at within
  exact List.sublist_nil.mp within

theorem sent_append {w next : Watch} (new : List Int64) (out : next.out = w.out ++ new) : sent w next = new := by
  unfold sent
  rw [out]
  exact diff_append w.out new

inductive Turn (w next : Watch) (e : WatchEvent) : Prop where
  | finished (ended : w.ended = true) (same : next = w)
  | rests (removal : next.dashboard.removal = w.dashboard.removal) (waiting : next.waiting = w.waiting)
    (sent : sent w next = [])
    (silent : ∀ i, e = .input i → w.headless = false → w.dashboard.removal ≠ .idle → ¬Affirms i ∧ ¬Declines i)
  | requests (i : Input) (p : Portfolio) (event : e = .input i) (pressed : Requests i) (attended : w.headless = false)
    (selected : w.dashboard.selected? = some p) (removal : next.dashboard.removal = .pending p.id)
    (waiting : next.waiting = w.waiting) (sent : sent w next = [])
  | confirms (i : Input) (id : Int64) (event : e = .input i) (pressed : Affirms i)
    (pending : w.dashboard.removal = .pending id) (removal : next.dashboard.removal = .idle)
    (waiting : next.waiting = w.waiting ++ [id]) (sent : sent w next = [])
  | closes (removal : next.dashboard.removal = .idle) (waiting : next.waiting = w.waiting) (sent : sent w next = [])
  | begins (id : Int64) (event : e = .taskBegins) (removal : next.dashboard.removal = w.dashboard.removal)
    (waiting : w.waiting = id :: next.waiting) (sent : sent w next = [id])

/-- Nothing is done about removals. -/
structure Calm (w next : Watch) : Prop where
  headless : next.headless = w.headless
  removal : next.dashboard.removal = w.dashboard.removal
  waiting : next.waiting = w.waiting
  out : next.out = w.out

theorem Behind.calm {w next : Watch} (behind : Behind w next) : Calm w next :=
  ⟨behind.headless, congrArg Dashboard.removal behind.dashboard, behind.waiting, behind.out⟩

theorem Calm.trans {w next last : Watch} (first : Calm w next) (second : Calm next last) : Calm w last where
  headless := second.headless.trans first.headless
  removal := second.removal.trans first.removal
  waiting := second.waiting.trans first.waiting
  out := second.out.trans first.out

theorem Calm.refl (w : Watch) : Calm w w :=
  ⟨rfl, rfl, rfl, rfl⟩

section

variable {w next : Watch} (calm : Calm w next)

include calm

theorem Calm.turn {e : WatchEvent} (silent : ∀ i, e = .input i → w.headless = false → w.dashboard.removal ≠ .idle →
    ¬Affirms i ∧ ¬Declines i) : Turn w next e := by
  refine .rests calm.removal calm.waiting (sent_sublist ?_) silent
  rw [calm.out]

theorem Calm.turn_other {e : WatchEvent} (other : e.input? = none) : Turn w next e := by
  refine calm.turn fun i input => ?_
  rw [input] at other
  exact absurd other (Option.some_ne_none i)

end

section

variable (w : Watch)

/-! The keyboard. -/

theorem calm_act (a : Keyboard.Action) (other : a ≠ .requestRemoval ∧ a ≠ .confirmRemoval ∧ a ≠ .cancelRemoval) :
    Calm w (w.act a) := by
  by_cases retry : a = .retry
  · rw [retry]
    exact (behind_retry w).calm
  · obtain ⟨place, removal, session, preferences, tasks, log, ended, parts, kept⟩ := act_parts w a retry
    obtain ⟨rfl, rfl⟩ := kept other
    rw [parts]
    exact ⟨rfl, rfl, rfl, rfl⟩

theorem turn_request (i : Input) (pressed : Requests i) (attended : w.headless = false)
    (idle : w.dashboard.removal = .idle) :
    Turn w (w.act .requestRemoval) (.input i) := by
  cases selected : w.dashboard.selected? with
  | none =>
    have same : w.dashboard.requestRemoval = w.dashboard := by
      unfold Dashboard.requestRemoval
      rw [selected]
    have removal := congrArg Dashboard.removal same
    have calm : Calm w (w.act .requestRemoval) := ⟨rfl, removal, rfl, rfl⟩
    exact calm.turn fun _ _ _ busy => absurd idle busy
  | some p =>
    refine .requests i p rfl pressed attended selected ?_ rfl (sent_sublist (List.Sublist.refl _))
    change w.dashboard.requestRemoval.removal = _
    unfold Dashboard.requestRemoval
    rw [selected]
    rfl

theorem turn_confirm (i : Input) (pressed : Affirms i) (id : Int64) (pending : w.dashboard.removal = .pending id) :
    Turn w (w.act .confirmRemoval) (.input i) := by
  have confirmed : w.act .confirmRemoval =
      { w with dashboard := { w.dashboard with removal := .idle } }.spawn (.remove id) := by
    unfold act confirmRemoval
    rw [pending]
    rfl
  rw [confirmed]
  refine .confirms i id rfl pressed pending rfl ?_ (sent_sublist (List.Sublist.refl _))
  change (w.tasks ++ [BackgroundTask.remove id]).filterMap _ = w.tasks.filterMap _ ++ [id]
  rw [List.filterMap_append]
  rfl

theorem turn_press (i : Input) : Turn w (w.press i) (.input i) := by
  unfold press
  split
  · rename_i deaf
    exact (Calm.refl w).turn fun _ _ attended => absurd (attended.symm.trans deaf) Bool.false_ne_true
  · rename_i listens
    have attended : w.headless = false := Bool.eq_false_iff.mpr listens
    cases removal : w.dashboard.removal with
    | idle =>
      obtain ⟨requests, confirms, cancels⟩ := browsing_removal i
      have still : ∀ j, WatchEvent.input i = .input j → w.headless = false → w.dashboard.removal ≠ .idle →
          ¬Affirms j ∧ ¬Declines j :=
        fun _ _ _ busy => absurd removal busy
      rw [show Removal.idle.pending?.isSome = false from rfl]
      cases asked : action? false i with
      | none => exact (Calm.refl w).turn still
      | some a =>
        rw [asked] at requests confirms cancels
        by_cases request : a = .requestRemoval
        · rw [request] at requests ⊢
          exact turn_request w i (requests rfl) attended removal
        · have other : a ≠ .confirmRemoval ∧ a ≠ .cancelRemoval :=
            ⟨fun same => confirms (congrArg some same), fun same => cancels (congrArg some same)⟩
          exact (calm_act w a ⟨request, other⟩).turn still
    | pending id =>
      rw [show (Removal.pending id).pending?.isSome = true from rfl]
      cases reply i with
      | affirms said action =>
        rw [action]
        exact turn_confirm w i said id removal
      | declines said action =>
        rw [action]
        exact .closes rfl rfl (sent_sublist (List.Sublist.refl _))
      | interrupts said action =>
        rw [action]
        refine (calm_act w .quit (by decide)).turn ?_
        rintro j ⟨rfl⟩ - -
        rw [said]
        simp [Affirms, Declines, stroke?]
      | other silent action =>
        rw [action]
        refine (Calm.refl w).turn ?_
        rintro j ⟨rfl⟩ - -
        exact ⟨silent.1, silent.2.1⟩

/-! The background. -/

theorem turn_beginTask : Turn w w.beginTask .taskBegins := by
  unfold beginTask
  cases tasks : w.tasks with
  | nil => exact (Calm.refl w).turn_other rfl
  | cons t rest =>
    have begun (other : t.removal? = none) : Calm w { w with tasks := rest } := by
      refine ⟨rfl, rfl, ?_, rfl⟩
      unfold waiting
      rw [tasks, List.filterMap_cons_none other]
    cases t with
    | load mode => exact ((begun rfl).trans (behind_beginLoad _ mode).calm).turn_other rfl
    | poll => exact ((begun rfl).trans (behind_runPoller _).calm).turn_other rfl
    | remove id =>
      refine .begins id rfl rfl ?_ (sent_append [id] ?_)
      · unfold waiting
        rw [tasks]
        rfl
      · change (w.calls ++ [OpenCall.removal id]).filterMap _ = w.calls.filterMap _ ++ [id]
        rw [List.filterMap_append]
        rfl

theorem turn_answerRemoval (place : Nat) (o : Outcome Unit) :
    Turn w (w.answerRemoval place o) (.removed place o) := by
  unfold answerRemoval
  split
  · rename_i id found
    refine .rests rfl rfl (sent_sublist ?_) (by simp)
    exact (List.eraseIdx_sublist w.calls place).filterMap _
  · exact (Calm.refl w).turn_other rfl

/-! Results and the feed. -/

theorem calm_observe (n : Notice) : Calm w (w.observe n) := by
  cases n with
  | removed id failure =>
    cases failure with
    | none =>
      let told := (w.toast .success "Portfolio deleted").record ("Deleted portfolio #" ++ toString id.toInt)
      have tells : Calm w told := ⟨rfl, rfl, rfl, rfl⟩
      exact tells.trans (behind_spawn told (.load .fetch) rfl).calm
    | some text => exact ⟨rfl, rfl, rfl, rfl⟩
  | portfolios state =>
    obtain ⟨place, symbols, activity, parts⟩ := observe_portfolios w state
    rw [parts]
    let shows : Watch :=
      { w with dashboard := { w.dashboard with portfolios := state, selected := place, held := symbols, activity } }
    have shown : Calm w shows := ⟨rfl, rfl, rfl, rfl⟩
    exact shown.trans ((behind_syncPoller shows).trans (behind_tellValuation _)).calm

theorem calm_observeNotice : Calm w w.observeNotice := by
  unfold observeNotice takeNotice
  cases w.notices with
  | nil => exact ⟨rfl, rfl, rfl, rfl⟩
  | cons n rest =>
    have taken : Calm w { w with notices := rest } := ⟨rfl, rfl, rfl, rfl⟩
    exact taken.trans (calm_observe _ n)

theorem calm_observePoll : Calm w w.observePoll := by
  unfold observePoll
  cases w.poller with
  | none => exact ⟨rfl, rfl, rfl, rfl⟩
  | some p =>
    simp only
    split
    · have shown : Calm w (w.showPoll p) := ⟨rfl, rfl, rfl, rfl⟩
      exact shown.trans (behind_tellValuation _).calm
    · exact ⟨rfl, rfl, rfl, rfl⟩

theorem calm_follow (feed : Feed) : Calm w (w.follow feed) := by
  obtain ⟨activity, halt, session, log, parts⟩ := follow_parts w feed
  rw [parts]
  exact ⟨rfl, rfl, rfl, rfl⟩

theorem turn_step (e : WatchEvent) : Turn w (w.step e) e := by
  cases ended : w.ended with
  | true =>
    refine .finished ended ?_
    unfold step
    rw [ended, if_pos rfl]
  | false =>
    have stepped : w.step e = (w.handle e).refresh := by
      unfold step
      rw [ended, if_neg Bool.false_ne_true]
    rw [stepped]
    have handled : Turn w (w.handle e) e := by
      cases e with
      | input i => exact turn_press w i
      | taskBegins => exact turn_beginTask w
      | removed place o => exact turn_answerRemoval w place o
      | clock now =>
        have ticks : Calm w (w.handle (.clock now)) := ⟨rfl, rfl, rfl, rfl⟩
        exact ticks.turn_other rfl
      | interrupted =>
        have finishes : Calm w (w.handle .interrupted) := by
          unfold handle
          dsimp only
          split <;> exact ⟨rfl, rfl, rfl, rfl⟩
        exact finishes.turn_other rfl
      | answered place o => exact (behind_answer w place o).calm.turn_other rfl
      | pollerRuns => exact (behind_runPoller w).calm.turn_other rfl
      | noticeSeen => exact (calm_observeNotice w).turn_other rfl
      | pollSeen => exact (calm_observePoll w).turn_other rfl
      | feedOpened => exact (calm_follow w _).turn_other rfl
      | frame f => exact (calm_follow w _).turn_other rfl
      | feedLost e => exact (calm_follow w _).turn_other rfl
      | pollerEnded => exact (behind_losePoller w).calm.turn_other rfl
    cases handled with
    | finished already same => exact absurd (ended.symm.trans already) Bool.false_ne_true
    | rests removal waiting sent silent => exact .rests removal waiting sent silent
    | requests i p event pressed attended selected removal waiting sent =>
      exact .requests i p event pressed attended selected removal waiting sent
    | confirms i id event pressed pending removal waiting sent =>
      exact .confirms i id event pressed pending removal waiting sent
    | closes removal waiting sent => exact .closes removal waiting sent
    | begins id event removal waiting sent => exact .begins id event removal waiting sent

theorem headless_press (i : Input) : (w.press i).headless = w.headless := by
  rcases press_parts w i with same | ⟨a, acts⟩
  · rw [same]
  · rw [acts]
    by_cases retry : a = .retry
    · rw [retry]
      exact (behind_retry w).headless
    · obtain ⟨place, removal, session, preferences, tasks, log, ended, parts, -⟩ := act_parts w a retry
      rw [parts]

theorem headless_step (e : WatchEvent) : (w.step e).headless = w.headless := by
  have handled : (w.handle e).headless = w.headless := by
    cases e with
    | input i => exact headless_press w i
    | taskBegins =>
      change w.beginTask.headless = w.headless
      unfold beginTask
      cases w.tasks with
      | nil => rfl
      | cons t rest =>
        cases t with
        | load mode => exact (behind_beginLoad { w with tasks := rest } mode).headless
        | remove id => rfl
        | poll => exact (behind_runPoller { w with tasks := rest }).headless
    | removed place o =>
      change (w.answerRemoval place o).headless = w.headless
      unfold answerRemoval
      split <;> rfl
    | clock now => rfl
    | interrupted =>
      unfold handle
      dsimp only
      split <;> rfl
    | answered place o => exact (behind_answer w place o).headless
    | pollerRuns => exact (behind_runPoller w).headless
    | noticeSeen => exact (calm_observeNotice w).headless
    | pollSeen => exact (calm_observePoll w).headless
    | feedOpened => exact (calm_follow w _).headless
    | frame f => exact (calm_follow w _).headless
    | feedLost e => exact (calm_follow w _).headless
    | pollerEnded => exact (behind_losePoller w).headless
  unfold step
  split
  · rfl
  · exact handled

end

/-! A run. -/

section

variable {w : Watch} {events : List WatchEvent}

theorem run_concat (e : WatchEvent) : run w (events ++ [e]) = (run w events).step e := by
  unfold run
  rw [List.foldl_append]
  rfl

theorem run_take {more : List WatchEvent} {place : Nat} (inside : place ≤ events.length) :
    run w ((events ++ more).take place) = run w (events.take place) := by
  rw [List.take_append_of_le_length inside]

theorem sends_concat (e : WatchEvent) : sends w (events ++ [e]) =
    sends w events ++ (sent (run w events) ((run w events).step e)).map (events.length, ·) := by
  unfold sends
  rw [List.length_append, List.length_singleton, List.range_succ, List.flatMap_append]
  congr 1
  · refine List.flatMap_congr fun place member => ?_
    have inside := List.mem_range.mp member
    rw [run_take (Nat.le_of_lt inside), run_take inside]
  · have all : (events ++ [e]).take (events.length + 1) = events ++ [e] :=
      List.take_of_length_le (by simp)
    rw [List.flatMap_singleton, run_take (Nat.le_refl _), List.take_length, all, run_concat]

theorem Prompted.extend {place : Nat} {id : Int64} (prompted : Prompted w events place id) (e : WatchEvent)
    (silent : ∀ i, e = .input i → ¬Affirms i ∧ ¬Declines i) (names : ((run w events).step e).dashboard.Names id) :
    Prompted w (events ++ [e]) place id := by
  obtain ⟨⟨i, here, pressed⟩, selected, unanswered, named⟩ := prompted
  obtain ⟨inside, -⟩ := List.getElem?_eq_some_iff.mp here
  refine ⟨⟨i, ?_, pressed⟩, ?_, ?_, ?_⟩
  · rw [List.getElem?_append_left inside]
    exact here
  · rw [run_take (Nat.le_of_lt inside)]
    exact selected
  · intro later j after there
    rcases Nat.lt_or_ge later events.length with earlier | last
    · rw [List.getElem?_append_left earlier] at there
      exact unanswered later j after there
    · rw [List.getElem?_append_right last] at there
      obtain ⟨bound, same⟩ := List.getElem?_eq_some_iff.mp there
      exact silent j (by simpa using same)
  · intro later after upTo
    rcases Nat.lt_or_ge events.length later with last | earlier
    · have all : (events ++ [e]).take later = events ++ [e] := by
        refine List.take_of_length_le ?_
        rw [List.length_append]
        exact last
      rw [all, run_concat]
      exact names
    · rw [run_take earlier]
      exact named later after earlier

theorem Prompted.begin {i : Input} {p : Portfolio} (pressed : Requests i)
    (selected : (run w events).dashboard.selected? = some p)
    (names : ((run w events).step (.input i)).dashboard.Names p.id) :
    Prompted w (events ++ [.input i]) events.length p.id := by
  refine ⟨⟨i, List.getElem?_concat_length, pressed⟩, ?_, ?_, ?_⟩
  · rw [run_take (Nat.le_refl _), List.take_length, selected]
    rfl
  · intro later j after there
    obtain ⟨inside, -⟩ := List.getElem?_eq_some_iff.mp there
    rw [List.length_append, List.length_singleton] at inside
    omega
  · intro later after upTo
    have all : (events ++ [WatchEvent.input i]).take later = events ++ [WatchEvent.input i] := by
      refine List.take_of_length_le ?_
      rw [List.length_append]
      exact after
    rw [all, run_concat]
    exact names

theorem Confirms.extend {c : Confirmation} (confirms : Confirms w events c) (e : WatchEvent) :
    Confirms w (events ++ [e]) c := by
  obtain ⟨prompted, i, here, affirms⟩ := confirms
  obtain ⟨inside, -⟩ := List.getElem?_eq_some_iff.mp here
  refine ⟨?_, i, ?_, affirms⟩
  · rw [List.take_append_of_le_length (Nat.le_of_lt inside)]
    exact prompted
  · rw [List.getElem?_append_left inside]
    exact here

theorem Confirms.inside {c : Confirmation} (confirms : Confirms w events c) : c.confirmed < events.length := by
  obtain ⟨-, i, here, -⟩ := confirms
  exact (List.getElem?_eq_some_iff.mp here).1

/-- The removals of a run so far, and what the next one will come from. -/
structure Tracked (w : Watch) (events : List WatchEvent) (cs : List Confirmation) : Prop where
  confirmed : ∀ c ∈ cs, Confirms w events c
  ordered : cs.Pairwise fun c d => c.confirmed < d.requested
  sent : ∀ (n place : Nat) (id : Int64), (sends w events)[n]? = some (place, id) →
    ∃ c, cs[n]? = some c ∧ c.id = id ∧ c.confirmed < place
  waiting : (sends w events).map Prod.snd ++ (run w events).waiting = cs.map Confirmation.id
  prompt : ∀ id, (run w events).ended = false → (run w events).dashboard.removal = .pending id →
    (run w events).headless = false ∧ ∃ place, Prompted w events place id ∧ ∀ c ∈ cs, c.confirmed < place

theorem ended_step {w : Watch} {e : WatchEvent} (goesOn : (w.step e).ended = false) : w.ended = false := by
  unfold step at goesOn
  split at goesOn
  · exact goesOn
  · rename_i running
    exact Bool.eq_false_iff.mpr running

section

variable {cs : List Confirmation} (tracked : Tracked w events cs) (e : WatchEvent)

include tracked

/-- A step that neither confirms nor sends. -/
theorem Tracked.keep (waiting : ((run w events).step e).waiting = (run w events).waiting)
    (silent : Watch.sent (run w events) ((run w events).step e) = [])
    (prompt : ∀ id, ((run w events).step e).ended = false → ((run w events).step e).dashboard.removal = .pending id →
      (run w events).headless = false ∧ ∃ place, Prompted w (events ++ [e]) place id ∧ ∀ c ∈ cs, c.confirmed < place) :
    Tracked w (events ++ [e]) cs := by
  have same : sends w (events ++ [e]) = sends w events := by
    rw [sends_concat, silent]
    exact List.append_nil _
  refine ⟨fun c member => (tracked.confirmed c member).extend e, tracked.ordered, ?_, ?_, ?_⟩
  · rw [same]
    exact tracked.sent
  · rw [same, run_concat, waiting]
    exact tracked.waiting
  · rw [run_concat, headless_step]
    exact prompt

theorem Tracked.confirm {i : Input} {id : Int64} {place : Nat} (event : e = .input i) (pressed : Affirms i)
    (prompted : Prompted w events place id) (later : ∀ c ∈ cs, c.confirmed < place)
    (removal : ((run w events).step e).dashboard.removal = .idle)
    (waiting : ((run w events).step e).waiting = (run w events).waiting ++ [id])
    (silent : Watch.sent (run w events) ((run w events).step e) = []) :
    Tracked w (events ++ [e]) (cs ++ [⟨place, events.length, id⟩]) := by
  have same : sends w (events ++ [e]) = sends w events := by
    rw [sends_concat, silent]
    exact List.append_nil _
  have new : Confirms w (events ++ [e]) ⟨place, events.length, id⟩ := by
    refine ⟨?_, i, ?_, pressed⟩
    · rw [List.take_append_of_le_length (Nat.le_refl _), List.take_length]
      exact prompted
    · rw [event]
      exact List.getElem?_concat_length
  refine ⟨?_, ?_, ?_, ?_, ?_⟩
  · intro c member
    rcases List.mem_append.mp member with old | last
    · exact (tracked.confirmed c old).extend e
    · rw [List.mem_singleton.mp last]
      exact new
  · refine List.pairwise_append.mpr ⟨tracked.ordered, List.pairwise_singleton _ _, fun c member d last => ?_⟩
    rw [List.mem_singleton.mp last]
    exact later c member
  · intro n place id here
    rw [same] at here
    obtain ⟨c, found, own, before⟩ := tracked.sent n place id here
    obtain ⟨inside, -⟩ := List.getElem?_eq_some_iff.mp found
    exact ⟨c, (List.getElem?_append_left inside).trans found, own, before⟩
  · rw [same, run_concat, waiting, ← List.append_assoc, tracked.waiting, List.map_append]
    rfl
  · intro id _ pending
    rw [run_concat, removal] at pending
    exact nomatch pending

theorem Tracked.send {id : Int64}
    (removal : ((run w events).step e).dashboard.removal = (run w events).dashboard.removal)
    (other : e.input? = none) (waiting : (run w events).waiting = id :: ((run w events).step e).waiting)
    (sent : Watch.sent (run w events) ((run w events).step e) = [id]) :
    Tracked w (events ++ [e]) cs := by
  have more : sends w (events ++ [e]) = sends w events ++ [(events.length, id)] := by
    rw [sends_concat, sent]
    rfl
  have shift := tracked.waiting
  rw [waiting] at shift
  refine ⟨fun c member => (tracked.confirmed c member).extend e, tracked.ordered, ?_, ?_, ?_⟩
  · intro n place other here
    rw [more] at here
    rcases Nat.lt_or_ge n (sends w events).length with old | last
    · rw [List.getElem?_append_left old] at here
      exact tracked.sent n place other here
    · rw [List.getElem?_append_right last] at here
      obtain ⟨bound, same⟩ := List.getElem?_eq_some_iff.mp here
      obtain rfl : n = (sends w events).length := by
        rw [List.length_singleton] at bound
        omega
      simp only [Nat.sub_self, List.getElem_cons_zero, Prod.mk.injEq] at same
      obtain ⟨rfl, rfl⟩ := same
      -- What waited longest was confirmed right after all that have been sent.
      have next : (cs.map Confirmation.id)[(sends w events).length]? = some id := by
        rw [← shift, List.getElem?_append_right (by simp)]
        simp
      rw [List.getElem?_map, Option.map_eq_some_iff] at next
      obtain ⟨c, found, own⟩ := next
      exact ⟨c, found, own, (tracked.confirmed c (List.mem_of_getElem? found)).inside⟩
  · rw [more, run_concat, List.map_append, List.append_assoc]
    exact shift
  · intro id goesOn pending
    rw [run_concat] at goesOn pending
    rw [run_concat, headless_step]
    have before := removal.symm.trans pending
    obtain ⟨attended, place, prompted, later⟩ := tracked.prompt id (ended_step goesOn) before
    have unanswered : ∀ i, e = .input i → ¬Affirms i ∧ ¬Declines i := by
      intro i event
      rw [event] at other
      exact absurd other (Option.some_ne_none i)
    exact ⟨attended, place, prompted.extend e unanswered (Dashboard.names_of_pending pending), later⟩

theorem Tracked.step : ∃ more, Tracked w (events ++ [e]) (cs ++ more) := by
  have names {id : Int64} (pending : ((run w events).step e).dashboard.removal = .pending id) :=
    Dashboard.names_of_pending pending
  have inside (c : Confirmation) (member : c ∈ cs) : c.confirmed < events.length :=
    (tracked.confirmed c member).inside
  have kept (same : Tracked w (events ++ [e]) cs) : ∃ more, Tracked w (events ++ [e]) (cs ++ more) := by
    refine ⟨[], ?_⟩
    rw [List.append_nil]
    exact same
  cases turn_step (run w events) e with
  | finished ended same =>
    refine kept (tracked.keep e (by rw [same]) (sent_sublist (by rw [same])) fun id goesOn _ => ?_)
    exact absurd ((ended_step goesOn).symm.trans ended) Bool.false_ne_true
  | rests removal waiting sent silent =>
    refine kept (tracked.keep e waiting sent fun id goesOn pending => ?_)
    have before := removal.symm.trans pending
    obtain ⟨attended, place, prompted, later⟩ := tracked.prompt id (ended_step goesOn) before
    have unanswered : ∀ i, e = .input i → ¬Affirms i ∧ ¬Declines i := by
      intro i event
      refine silent i event attended ?_
      rw [before]
      exact nofun
    exact ⟨attended, place, prompted.extend e unanswered (names pending), later⟩
  | requests i p event pressed attended selected removal waiting sent =>
    refine kept (tracked.keep e waiting sent fun id goesOn pending => ?_)
    obtain rfl : p.id = id := Removal.pending.inj (removal.symm.trans pending)
    subst event
    exact ⟨attended, events.length, .begin pressed selected (names removal), inside⟩
  | confirms i id event pressed pending removal waiting sent =>
    have running : (run w events).ended = false := by
      refine Bool.eq_false_iff.mpr fun ended => ?_
      unfold Watch.step at removal
      rw [if_pos ended, pending] at removal
      exact nomatch removal
    obtain ⟨-, place, prompted, later⟩ := tracked.prompt id running pending
    exact ⟨_, tracked.confirm e event pressed prompted later removal waiting sent⟩
  | closes removal waiting sent =>
    refine kept (tracked.keep e waiting sent fun id goesOn pending => ?_)
    rw [removal] at pending
    exact nomatch pending
  | begins id event removal waiting sent =>
    subst event
    exact kept (tracked.send .taskBegins removal rfl waiting sent)

end

end

theorem tracked_run {w : Watch} (fresh : Tracked w [] []) (events : List WatchEvent) : ∃ cs, Tracked w events cs := by
  induction events using List.reverseRecOn with
  | nil => exact ⟨[], fresh⟩
  | append_singleton events e ih =>
    obtain ⟨cs, tracked⟩ := ih
    obtain ⟨more, next⟩ := tracked.step e
    exact ⟨_, next⟩

theorem tracked_start (s : Settings) (baseUrl : String) (p : Preferences) (headless : Bool) :
    Tracked (start s baseUrl p headless) [] [] := by
  refine ⟨nofun, List.Pairwise.nil, nofun, rfl, ?_⟩
  intro id _ pending
  exact nomatch pending

/-! An open prompt. -/

/-- What an open prompt keeps from the other keys. A toast goes only when its time has come. -/
structure Unmoved (w next : Watch) : Prop where
  selected : next.dashboard.selected = w.dashboard.selected
  removal : next.dashboard.removal = w.dashboard.removal
  selections : next.session.selections = w.session.selections
  preferences : next.preferences = w.preferences
  toasts : ∀ later, w.now ≤ later → next.session.toasts.visible later = w.session.toasts.visible later
  tasks : next.tasks = w.tasks
  calls : next.calls = w.calls
  traffic : next.traffic = w.traffic
  poller : next.poller = w.poller
  notices : next.notices = w.notices
  ended : next.ended = w.ended

theorem visible_prune {now later : Nat} (after : now ≤ later) (t : Toasts) :
    (t.prune now).2.visible later = t.visible later := by
  unfold Toasts.prune Toasts.visible
  rw [List.filter_filter]
  refine List.filter_congr fun toast _ => ?_
  unfold Toasts.isVisible
  by_cases seen : later - toast.createdAt < t.timeToLive
  · have before : now - toast.createdAt < t.timeToLive := by omega
    simp [seen, before]
  · simp [seen]

theorem unmoved_step (w : Watch) {id : Int64} (pending : w.dashboard.removal = .pending id) {i : Input}
    (silent : ¬Affirms i ∧ ¬Declines i ∧ ¬Interrupts i) : Unmoved w (w.step (.input i)) := by
  have ignores : action? true i = none := by
    cases reply i with
    | affirms said action => exact absurd said silent.1
    | declines said action => exact absurd said silent.2.1
    | interrupts said action => exact absurd said silent.2.2
    | other _ action => exact action
  have idle : w.handle (.input i) = w := by
    change w.press i = w
    unfold press
    rw [pending, show (Removal.pending id).pending?.isSome = true from rfl, ignores]
    exact ite_self w
  unfold step
  rw [idle]
  split
  · exact ⟨rfl, rfl, rfl, rfl, fun _ _ => rfl, rfl, rfl, rfl, rfl, rfl, rfl⟩
  · exact ⟨rfl, rfl, rfl, rfl, fun later after => visible_prune after _, rfl, rfl, rfl, rfl, rfl, rfl⟩

/-- Each removal that is sent has a confirmation of its own: a request for the selected portfolio, a prompt that names
it from then on, and the first answer to the prompt. While a prompt is open no other key does anything. -/
theorem removals_confirmed (s : Settings) (baseUrl : String) (p : Preferences) (headless : Bool)
    (events : List WatchEvent) :
    (∃ cs : List Confirmation, (∀ c ∈ cs, Confirms (start s baseUrl p headless) events c) ∧
      cs.Pairwise (fun c d => c.confirmed < d.requested) ∧
      ∀ (n place : Nat) (id : Int64), (sends (start s baseUrl p headless) events)[n]? = some (place, id) →
        ∃ c, cs[n]? = some c ∧ c.id = id ∧ c.confirmed < place) ∧
    ∀ (w : Watch) (id : Int64) (i : Input), w.dashboard.removal = .pending id →
      ¬Affirms i ∧ ¬Declines i ∧ ¬Interrupts i → Unmoved w (w.step (.input i)) := by
  obtain ⟨cs, tracked⟩ := tracked_run (tracked_start s baseUrl p headless) events
  refine ⟨⟨cs, tracked.confirmed, tracked.ordered, tracked.sent⟩, ?_⟩
  intro w id i pending silent
  exact unmoved_step w pending silent

end Watch
end TradingDesk
