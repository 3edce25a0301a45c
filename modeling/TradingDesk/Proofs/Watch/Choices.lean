import TradingDesk.Proofs.Session.Selections
import TradingDesk.Proofs.Watch.Behind

/-! The choices made in a watch. Two keys choose; nothing else that happens touches the selections or the
preferences. -/

namespace TradingDesk

/-- The same selections in memory, the same preferences, and both are written there or neither is. -/
structure Agrees (s t : Session × Preferences) : Prop where
  selections : s.1.selections = t.1.selections
  kept : s.1.kept = t.1.kept
  preferences : s.2 = t.2

namespace Agrees

theorem refl (s : Session × Preferences) : Agrees s s :=
  ⟨rfl, rfl, rfl⟩

theorem trans {s t u : Session × Preferences} (first : Agrees s t) (second : Agrees t u) : Agrees s u where
  selections := first.selections.trans second.selections
  kept := first.kept.trans second.kept
  preferences := first.preferences.trans second.preferences

theorem make {s t : Session × Preferences} (agrees : Agrees s t) (x : Choice) : Agrees (x.make s) (x.make t) := by
  obtain ⟨⟨selections, toasts, kept⟩, p⟩ := s
  obtain ⟨⟨_, others, _⟩, _⟩ := t
  obtain ⟨rfl, rfl, rfl⟩ := agrees
  cases x <;> exact ⟨rfl, rfl, rfl⟩

theorem after {s t : Session × Preferences} (agrees : Agrees s t) (choices : List Choice) :
    Agrees (Session.after choices s) (Session.after choices t) := by
  induction choices generalizing s t with
  | nil => exact agrees
  | cons x rest ih => exact ih (agrees.make x)

end Agrees

theorem Dashboard.observe_session (d : Dashboard) (now : Nat) (e : SystemEvent) (s : Session) :
    ∃ toasts, (d.observe now e s).2.1 = { s with toasts } := by
  cases e with
  | halt h =>
    change ∃ toasts, (d.observeHalt now h s).2.1 = { s with toasts }
    unfold observeHalt
    by_cases halts : h.isHalted = true
    · rw [if_pos halts]
      exact ⟨_, rfl⟩
    · rw [if_neg halts]
      by_cases halted : d.isHalted = true
      · rw [if_pos halted]
        exact ⟨_, rfl⟩
      · rw [if_neg halted]
        exact ⟨s.toasts, rfl⟩
  | orderUpdate o => exact ⟨s.toasts, rfl⟩
  | riskAlert a => exact ⟨_, rfl⟩

namespace Watch

/-- The session of a watch with the preferences. -/
def memory (w : Watch) : Session × Preferences :=
  (w.session, w.preferences)

/-- The choice that a key stands for. -/
def choice? : Keyboard.Action → Option Choice
  | .toggleTheme => some .toggle
  | .cycleAssetClass => some .cycle
  | _ => none

/-- The choice that is made in a step. Only a dashboard listens, and only until the watch has ended. -/
def chosen (w : Watch) (e : WatchEvent) : Option Choice :=
  match e with
  | .input i =>
    if w.ended || w.headless then none
    else (Keyboard.action? w.dashboard.removal.pending?.isSome i).bind choice?
  | _ => none

/-- All that is chosen in a run. -/
def choices (w : Watch) : List WatchEvent → List Choice
  | [] => []
  | e :: rest => (w.chosen e).toList ++ choices (w.step e) rest

variable (w : Watch)

theorem Behind.agrees {w next : Watch} (behind : Behind w next) : Agrees next.memory w.memory where
  selections := congrArg Session.selections behind.session
  kept := congrArg Session.kept behind.session
  preferences := behind.preferences

theorem agrees_act (a : Keyboard.Action) : Agrees (w.act a).memory (Session.after (choice? a).toList w.memory) := by
  cases a with
  | retry => exact (behind_retry w).agrees
  | confirmRemoval =>
    simp only [act, confirmRemoval]
    cases w.dashboard.removal <;> exact ⟨rfl, rfl, rfl⟩
  | dismissToast =>
    simp only [act, dismissToast]
    split <;> exact ⟨rfl, rfl, rfl⟩
  | _ => exact ⟨rfl, rfl, rfl⟩

theorem agrees_press (i : Keyboard.Input) (running : w.ended = false) :
    Agrees (w.press i).memory (Session.after (w.chosen (.input i)).toList w.memory) := by
  unfold press chosen
  simp only [running, Bool.false_or]
  split
  · exact .refl _
  · cases Keyboard.action? w.dashboard.removal.pending?.isSome i with
    | none => exact .refl _
    | some a => exact agrees_act w a

theorem agrees_beginTask : Agrees w.beginTask.memory w.memory := by
  unfold beginTask
  cases w.tasks with
  | nil => exact .refl _
  | cons t rest =>
    cases t with
    | load mode => exact (behind_beginLoad { w with tasks := rest } mode).agrees
    | remove id => exact ⟨rfl, rfl, rfl⟩
    | poll => exact (behind_runPoller { w with tasks := rest }).agrees

theorem agrees_observeNotice : Agrees w.observeNotice.memory w.memory := by
  unfold observeNotice takeNotice
  cases w.notices with
  | nil => exact .refl _
  | cons n rest =>
    cases n with
    | removed id failure => cases failure <;> exact ⟨rfl, rfl, rfl⟩
    | portfolios state =>
      obtain ⟨place, symbols, activity, parts⟩ := observe_portfolios { w with notices := rest } state
      simp only [parts]
      exact ((behind_syncPoller _).trans (behind_tellValuation _)).agrees

theorem agrees_observePoll : Agrees w.observePoll.memory w.memory := by
  unfold observePoll
  cases w.poller with
  | none => exact .refl _
  | some p =>
    simp only
    split
    · exact (behind_tellValuation (w.showPoll p)).agrees
    · exact .refl _

theorem agrees_follow (feed : Feed) : Agrees (w.follow feed).memory w.memory := by
  have events (news : List SystemEvent) (v : Watch) : Agrees (news.foldl observeEvent v).memory v.memory := by
    induction news generalizing v with
    | nil => exact .refl _
    | cons e rest ih =>
      obtain ⟨toasts, told⟩ := v.dashboard.observe_session v.now e v.session
      have session : (v.observeEvent e).memory.1 = { v.session with toasts } := told
      have first : Agrees (v.observeEvent e).memory v.memory := by
        refine ⟨?_, ?_, rfl⟩ <;> rw [session] <;> rfl
      exact (ih (v.observeEvent e)).trans first
  exact (events _ _).trans ⟨rfl, rfl, rfl⟩

theorem agrees_handle (e : WatchEvent) (running : w.ended = false) :
    Agrees (w.handle e).memory (Session.after (w.chosen e).toList w.memory) := by
  cases e with
  | input i => exact agrees_press w i running
  | taskBegins => exact agrees_beginTask w
  | noticeSeen => exact agrees_observeNotice w
  | pollSeen => exact agrees_observePoll w
  | removed place o =>
    change Agrees (w.answerRemoval place o).memory w.memory
    unfold answerRemoval
    split <;> exact ⟨rfl, rfl, rfl⟩
  | interrupted =>
    unfold handle
    dsimp only
    split <;> exact ⟨rfl, rfl, rfl⟩
  | clock now => exact ⟨rfl, rfl, rfl⟩
  | answered place o => exact (behind_answer w place o).agrees
  | pollerRuns => exact (behind_runPoller w).agrees
  | pollerEnded => exact (behind_losePoller w).agrees
  | feedOpened => exact agrees_follow w _
  | frame f => exact agrees_follow w _
  | feedLost e => exact agrees_follow w _

theorem agrees_step (e : WatchEvent) :
    Agrees (w.step e).memory (Session.after (w.chosen e).toList w.memory) := by
  unfold step
  cases running : w.ended with
  | true =>
    have nothing : w.chosen e = none := by
      unfold chosen
      split
      · rw [running, Bool.true_or, if_pos rfl]
      · rfl
    rw [if_pos rfl, nothing]
    exact .refl _
  | false =>
    obtain ⟨selections, kept, preferences⟩ := agrees_handle w e running
    exact ⟨selections, kept, preferences⟩

theorem agrees_run (events : List WatchEvent) :
    Agrees (w.run events).memory (Session.after (w.choices events) w.memory) := by
  induction events generalizing w with
  | nil => exact .refl _
  | cons e rest ih =>
    have later := (ih (w.step e)).trans ((agrees_step w e).after (choices (w.step e) rest))
    unfold choices Session.after
    rw [List.foldl_append]
    exact later

end Watch
end TradingDesk
