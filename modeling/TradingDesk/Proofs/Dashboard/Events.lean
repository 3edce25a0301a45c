import Mathlib.Data.List.Induction
import TradingDesk.Dashboard.Events
import TradingDesk.Proofs.Session.Toasts

/-! What the events of the system channel leave behind. A halt is told whenever it is heard of, its end only once, and
of all that came before an event only the halt heard of last makes a difference. The activity and the toasts are the
latest of all that was ever told. -/

namespace TradingDesk

/-- An event and the moment at which it comes. -/
structure Occurrence where
  time : Nat
  event : SystemEvent

def SystemEvent.halt? : SystemEvent → Option HaltStatus
  | .halt h => some h
  | .orderUpdate _ | .riskAlert _ => none

/-- What was heard of a halt last. -/
def lastHalt? (heard : List Occurrence) : Option HaltStatus :=
  (heard.filterMap fun o => o.event.halt?).getLast?

/-- Trading goes on, and was halted when it was last heard of. -/
def Resumes (before : List Occurrence) (e : SystemEvent) : Prop :=
  ∃ h last, e.halt? = some h ∧ h.isHalted = false ∧ lastHalt? before = some last ∧ last.isHalted = true

/-- What is told of an event: in the activity, by a toast and in the log. -/
structure Telling where
  line : Option String := none
  toast : Option (ToastLevel × String) := none
  logged : List LogLine := []

/-- What is told of an event that comes after others. -/
inductive Told (before : List Occurrence) : SystemEvent → Telling → Prop where
  | halted {h : HaltStatus} (halts : h.isHalted = true) : Told before (.halt h)
      { line := some ("HALT: " ++ h.haltReason)
        toast := some (.error, "Trading halted: " ++ h.haltReason)
        logged := [.warn ("Trading halted: " ++ h.haltReason)] }
  | resumed {h : HaltStatus} (resumes : Resumes before (.halt h)) : Told before (.halt h)
      { line := some "Trading resumed"
        toast := some (.success, "Trading resumed") }
  | silent {h : HaltStatus} (goes : h.isHalted = false) (known : ¬Resumes before (.halt h)) : Told before (.halt h) {}
  | orderUpdate (o : Order) : Told before (.orderUpdate o) { line := some (Dashboard.orderNews o) }
  | riskAlert (a : RiskAlert) : Told before (.riskAlert a)
      { line := some ("Risk alert [" ++ a.severity ++ "]: " ++ a.message)
        toast := some (Dashboard.alertLevel a, a.message)
        logged := [.warn ("Risk alert (" ++ a.severity ++ "): " ++ a.message)] }

/-- All that was told, event by event. -/
inductive Chronicle : List Occurrence → List (Nat × Telling) → Prop where
  | nil : Chronicle [] []
  | concat {heard : List Occurrence} {tellings : List (Nat × Telling)} (earlier : Chronicle heard tellings)
      (o : Occurrence) {t : Telling} (told : Told heard o.event t) :
      Chronicle (heard ++ [o]) (tellings ++ [(o.time, t)])

namespace Chronicle

/-- Every line that was ever added, in the order of their coming. -/
def lines (tellings : List (Nat × Telling)) : List Activity :=
  tellings.filterMap fun t => t.2.line.map (⟨t.1, ·⟩)

def toasted (tellings : List (Nat × Telling)) : List (Nat × ToastLevel × String) :=
  tellings.filterMap fun t => t.2.toast.map (t.1, ·)

/-- Every toast that was ever made; they are numbered from 1 on. -/
def toasts (tellings : List (Nat × Telling)) : List Toast :=
  (toasted tellings).mapIdx fun i t => ⟨i + 1, t.2.1, t.2.2, t.1⟩

def logged (tellings : List (Nat × Telling)) : List LogLine :=
  tellings.flatMap fun t => t.2.logged

theorem lines_concat (tellings : List (Nat × Telling)) (now : Nat) (t : Telling) :
    lines (tellings ++ [(now, t)]) = lines tellings ++ (t.line.map (⟨now, ·⟩)).toList := by
  unfold lines
  rw [List.filterMap_append]
  cases line : t.line <;> simp [line]

theorem toasted_concat (tellings : List (Nat × Telling)) (now : Nat) (t : Telling) :
    toasted (tellings ++ [(now, t)]) = toasted tellings ++ (t.toast.map (now, ·)).toList := by
  unfold toasted
  rw [List.filterMap_append]
  cases toast : t.toast <;> simp [toast]

theorem toasts_concat (tellings : List (Nat × Telling)) (now : Nat) (t : Telling) :
    toasts (tellings ++ [(now, t)]) = toasts tellings ++
      (t.toast.map fun x => ⟨(toasted tellings).length + 1, x.1, x.2, now⟩).toList := by
  unfold toasts
  rw [toasted_concat]
  cases t.toast with
  | none => simp
  | some x => exact List.mapIdx_concat

theorem logged_concat (tellings : List (Nat × Telling)) (now : Nat) (t : Telling) :
    logged (tellings ++ [(now, t)]) = logged tellings ++ t.logged := by
  unfold logged
  rw [List.flatMap_append, List.flatMap_singleton]

theorem length_eq {heard : List Occurrence} {tellings : List (Nat × Telling)} (chronicle : Chronicle heard tellings) :
    tellings.length = heard.length := by
  induction chronicle with
  | nil => rfl
  | concat _ o _ ih => rw [List.length_append, List.length_append, ih, List.length_singleton, List.length_singleton]

/-- At the place of every event stands what was told of it. -/
theorem told_at {heard : List Occurrence} {tellings : List (Nat × Telling)} (chronicle : Chronicle heard tellings)
    {before after : List Occurrence} {o : Occurrence} (split : heard = before ++ o :: after) :
    ∃ earlier t later, tellings = earlier ++ (o.time, t) :: later ∧ earlier.length = before.length ∧
      Told before o.event t := by
  induction chronicle generalizing after with
  | nil => simp at split
  | @concat heard tellings earlier last t told ih =>
    rcases List.eq_nil_or_concat after with rfl | ⟨rest, x, rfl⟩
    · obtain ⟨rfl, same⟩ := List.append_inj' split rfl
      obtain rfl := List.singleton_inj.mp same
      exact ⟨tellings, t, [], rfl, earlier.length_eq, told⟩
    · rw [List.concat_eq_append, ← List.cons_append, ← List.append_assoc] at split
      obtain ⟨first, found, later, parts, place⟩ := ih (List.append_inj' split rfl).1
      exact ⟨first, found, later ++ [(last.time, t)], by rw [parts, List.append_assoc, List.cons_append], place⟩

end Chronicle

theorem lastHalt?_concat (heard : List Occurrence) (o : Occurrence) :
    lastHalt? (heard ++ [o]) = o.event.halt?.or (lastHalt? heard) := by
  unfold lastHalt?
  rw [List.filterMap_append]
  cases halt : o.event.halt? <;> simp [halt]

theorem Resumes.goes {before : List Occurrence} {h : HaltStatus} (resumes : Resumes before (.halt h)) :
    ¬h.isHalted = true := by
  obtain ⟨other, last, same, goes, -⟩ := resumes
  obtain rfl : h = other := Option.some.inj same
  exact Bool.eq_false_iff.mp goes

/-- A halt is told as an error each time, the end of one as a success and only then. -/
structure Told.Once (before : List Occurrence) (e : SystemEvent) (t : Telling) : Prop where
  line : t.line = some "Trading resumed" ↔ Resumes before e
  toast : t.toast = some (.success, "Trading resumed") ↔ Resumes before e
  success : ∀ message, t.toast = some (.success, message) → Resumes before e
  halted : ∀ h, e = .halt h → h.isHalted = true →
    t.line = some ("HALT: " ++ h.haltReason) ∧ t.toast = some (.error, "Trading halted: " ++ h.haltReason)
  silent : ∀ h, e = .halt h → ¬h.isHalted = true → ¬Resumes before e → t.line = none ∧ t.toast = none

/-- Texts that begin with another letter. -/
private theorem apart_of_first {start text : String} (first : Char) (begins : start.toList.head? = some first)
    (other : text.toList.head? ≠ some first) (rest : String) : start ++ rest ≠ text := by
  rintro rfl
  rw [String.toList_append, List.head?_append, begins] at other
  exact other rfl

private theorem alertLevel_ne_success (a : RiskAlert) : Dashboard.alertLevel a ≠ .success := by
  unfold Dashboard.alertLevel
  split <;> nofun

theorem Told.once {before : List Occurrence} {e : SystemEvent} {t : Telling} (told : Told before e t) :
    Told.Once before e t := by
  cases told with
  | @halted h halts =>
    have still : ¬Resumes before (.halt h) := fun resumes => resumes.goes halts
    have other : "HALT: " ++ h.haltReason ≠ "Trading resumed" := apart_of_first 'H' rfl (by decide) _
    refine ⟨iff_of_false (fun same => other (Option.some.inj same)) still, iff_of_false nofun still, nofun, ?_, ?_⟩
    · rintro _ ⟨⟩ -
      exact ⟨rfl, rfl⟩
    · rintro _ ⟨⟩ goes
      exact absurd halts goes
  | @resumed h resumes =>
    refine ⟨iff_of_true rfl resumes, iff_of_true rfl resumes, fun _ _ => resumes, ?_, ?_⟩
    · rintro _ ⟨⟩ halts
      exact absurd halts resumes.goes
    · exact fun _ _ _ known => absurd resumes known
  | silent goes known =>
    refine ⟨iff_of_false nofun known, iff_of_false nofun known, nofun, ?_, fun _ _ _ _ => ⟨rfl, rfl⟩⟩
    rintro _ ⟨⟩ halts
    exact absurd (halts.symm.trans goes) nofun
  | orderUpdate o =>
    have still : ¬Resumes before (.orderUpdate o) := nofun
    have other : Dashboard.orderNews o ≠ "Trading resumed" := by
      unfold Dashboard.orderNews
      simp only [String.append_assoc]
      exact apart_of_first 'O' rfl (by decide) _
    exact ⟨iff_of_false (fun same => other (Option.some.inj same)) still, iff_of_false nofun still, nofun, nofun, nofun⟩
  | riskAlert a =>
    have still : ¬Resumes before (.riskAlert a) := nofun
    have other : "Risk alert [" ++ a.severity ++ "]: " ++ a.message ≠ "Trading resumed" := by
      simp only [String.append_assoc]
      exact apart_of_first 'R' rfl (by decide) _
    have grave {message : String} (same : some (Dashboard.alertLevel a, a.message) = some (.success, message)) : False :=
      alertLevel_ne_success a (Prod.mk.inj (Option.some.inj same)).1
    exact ⟨iff_of_false (fun same => other (Option.some.inj same)) still, iff_of_false grave still,
      fun _ same => (grave same).elim, nofun, nofun⟩

namespace Dashboard

/-- Takes in one more event; the log grows. -/
def hear (state : Dashboard × Session × List LogLine) (o : Occurrence) : Dashboard × Session × List LogLine :=
  let (d, s, more) := state.1.observe o.time o.event state.2.1
  (d, s, state.2.2 ++ more)

/-- A new dashboard and a session after events, and the log of them. -/
def hearing (s : Session) (heard : List Occurrence) : Dashboard × Session × List LogLine :=
  heard.foldl hear ({}, s, [])

theorem hearing_concat (s : Session) (heard : List Occurrence) (o : Occurrence) :
    hearing s (heard ++ [o]) = hear (hearing s heard) o := by
  unfold hearing
  rw [List.foldl_append]
  rfl

theorem isHalted_iff (d : Dashboard) : d.isHalted = true ↔ ∃ h, d.halt = some h ∧ h.isHalted = true := by
  unfold isHalted
  exact Option.any_eq_true _ _

/-- An event changes nothing but what is told of it and the halt. -/
theorem observe_told (now : Nat) (e : SystemEvent) {d : Dashboard} (s : Session) {before : List Occurrence}
    (last : d.halt = lastHalt? before) : ∃ t, Told before e t ∧ d.observe now e s =
      ({ t.line.elim d fun message => d.record now message with halt := e.halt?.or d.halt },
        t.toast.elim s fun x => s.toast now x.1 x.2, t.logged) := by
  cases e with
  | halt h =>
    change ∃ t, Told before (.halt h) t ∧ d.observeHalt now h s = _
    unfold observeHalt
    cases halts : h.isHalted with
    | true => exact ⟨_, .halted halts, rfl⟩
    | false =>
      by_cases halted : d.isHalted = true
      · obtain ⟨own, held, halted'⟩ := (isHalted_iff d).mp halted
        refine ⟨_, .resumed ⟨h, own, rfl, halts, last ▸ held, halted'⟩, ?_⟩
        simp only [halted]
        rfl
      · refine ⟨_, .silent halts ?_, ?_⟩
        · rintro ⟨-, own, -, -, held, halted'⟩
          exact halted ((isHalted_iff d).mpr ⟨own, last.trans held, halted'⟩)
        · simp only [halted]
          rfl
  | orderUpdate o => exact ⟨_, .orderUpdate o, rfl⟩
  | riskAlert a => exact ⟨_, .riskAlert a, rfl⟩

section

variable (d : Dashboard) (s : Session) (now : Nat) (t : Telling) (tellings : List (Nat × Telling))

theorem activity_told (all : d.activity = (Chronicle.lines tellings).reverse.take activityLimit) :
    (t.line.elim d fun message => d.record now message).activity =
      (Chronicle.lines (tellings ++ [(now, t)])).reverse.take activityLimit := by
  rw [Chronicle.lines_concat, List.reverse_append]
  cases t.line with
  | none => exact all
  | some message =>
    change (⟨now, message⟩ :: d.activity).take 200 = (⟨now, message⟩ :: (Chronicle.lines tellings).reverse).take 200
    rw [List.take_succ_cons, List.take_succ_cons, all, List.take_take]
    rfl

/-- The toasts are the last of all that were ever made. -/
structure Toasted (most : Nat) : Prop where
  limit : s.toasts.limit = most
  queue : s.toasts.queue = Toasts.newest most (Chronicle.toasts tellings)
  nextId : s.toasts.nextId = (Chronicle.toasted tellings).length + 1

variable {s tellings}

theorem Toasted.told {most : Nat} (toasted : Toasted s tellings most) :
    Toasted (t.toast.elim s fun x => s.toast now x.1 x.2) (tellings ++ [(now, t)]) most := by
  obtain ⟨limit, queue, nextId⟩ := toasted
  have made := Chronicle.toasts_concat tellings now t
  have count := Chronicle.toasted_concat tellings now t
  cases toast : t.toast with
  | none =>
    rw [toast, Option.map_none, Option.toList_none, List.append_nil] at made count
    exact ⟨limit, made ▸ queue, count ▸ nextId⟩
  | some x =>
    rw [toast, Option.map_some, Option.toList_some] at made count
    refine ⟨limit, ?_, ?_⟩
    · change Toasts.newest s.toasts.limit (s.toasts.queue ++ [⟨s.toasts.nextId, x.1, x.2, now⟩]) = _
      rw [limit, queue, nextId, made, Toasts.newest_newest]
    · change s.toasts.nextId + 1 = _
      rw [nextId, count, List.length_append, List.length_singleton]

end

/-- Where a dashboard and its session stand after events of which this was told. -/
structure Reported (heard : List Occurrence) (tellings : List (Nat × Telling)) (most : Nat)
    (state : Dashboard × Session × List LogLine) : Prop where
  halt : state.1.halt = lastHalt? heard
  activity : state.1.activity = (Chronicle.lines tellings).reverse.take 200
  toasted : Toasted state.2.1 tellings most
  logged : state.2.2 = Chronicle.logged tellings

theorem reported_hear {heard : List Occurrence} {tellings : List (Nat × Telling)} {most : Nat}
    {state : Dashboard × Session × List LogLine} (reported : Reported heard tellings most state) (o : Occurrence) :
    ∃ t, Told heard o.event t ∧ Reported (heard ++ [o]) (tellings ++ [(o.time, t)]) most (hear state o) := by
  obtain ⟨d, s, log⟩ := state
  obtain ⟨halt, activity, toasted, logged⟩ := reported
  obtain ⟨t, told, observed⟩ := observe_told o.time o.event s halt
  refine ⟨t, told, ?_⟩
  unfold hear
  rw [observed]
  refine ⟨?_, activity_told d o.time t tellings activity, toasted.told o.time t, ?_⟩
  · rw [lastHalt?_concat]
    exact congrArg o.event.halt?.or halt
  · rw [Chronicle.logged_concat]
    exact congrArg (· ++ t.logged) logged

theorem reported_hearing {timeToLive limit : Nat} {s : Session} (begun : s.Begun timeToLive limit)
    (heard : List Occurrence) :
    ∃ tellings, Chronicle heard tellings ∧ Reported heard tellings (max 1 limit) (hearing s heard) := by
  induction heard using List.reverseRecOn with
  | nil =>
    have empty : (hearing s []).2.1.toasts = Toasts.new timeToLive limit := begun.toasts
    refine ⟨[], .nil, rfl, rfl, ⟨?_, ?_, ?_⟩, rfl⟩
    · rw [empty]
      rfl
    · rw [empty]
      exact List.drop_nil.symm
    · rw [empty]
      rfl
  | append_singleton heard o ih =>
    obtain ⟨tellings, chronicle, reported⟩ := ih
    obtain ⟨t, told, next⟩ := reported_hear reported o
    rw [hearing_concat]
    exact ⟨_, chronicle.concat o told, next⟩

/-- After any events the halt is the one heard of last, and only halts change it. Of each event there is what was told of
it: an error whenever trading is halted, and a success exactly where it goes on after a halt. The activity has the last
200 lines of all that were told, the newest first, and the toasts are the last ones too. -/
theorem events_reported {timeToLive limit : Nat} {s : Session} (begun : s.Begun timeToLive limit)
    (heard : List Occurrence) :
    let state := hearing s heard
    (∃ tellings, Chronicle heard tellings ∧ Reported heard tellings (max 1 limit) state ∧
      ∀ before o after, heard = before ++ o :: after → ∃ earlier t later,
        tellings = earlier ++ (o.time, t) :: later ∧ earlier.length = before.length ∧ Told.Once before o.event t) ∧
    ∀ o, o.event.halt? = none → (hearing s (heard ++ [o])).1.halt = state.1.halt := by
  obtain ⟨tellings, chronicle, reported⟩ := reported_hearing begun heard
  refine ⟨⟨tellings, chronicle, reported, fun before o after split => ?_⟩, fun o other => ?_⟩
  · obtain ⟨earlier, t, later, parts, place, told⟩ := chronicle.told_at split
    exact ⟨earlier, t, later, parts, place, told.once⟩
  · obtain ⟨t, told, next⟩ := reported_hear reported o
    rw [hearing_concat, next.halt, lastHalt?_concat, other, Option.none_or, reported.halt]

/-- A halt that is over, heard of twice: its end is told once. -/
theorem events_reported_resumed : Session.Begun 4 2 (.new 4 2) ∧
    ∃ d s log, hearing (.new 4 2) [⟨0, .halt ⟨true, "Limit"⟩⟩, ⟨1, .riskAlert ⟨"high", "VaR"⟩⟩, ⟨2, .halt ⟨false, ""⟩⟩,
      ⟨3, .halt ⟨false, ""⟩⟩] = (d, s, log) ∧ d.halt = some ⟨false, ""⟩ ∧
      d.activity = [⟨2, "Trading resumed"⟩, ⟨1, "Risk alert [high]: VaR"⟩, ⟨0, "HALT: Limit"⟩] ∧
      s.toasts.queue = [⟨2, .error, "VaR", 1⟩, ⟨3, .success, "Trading resumed", 2⟩] := by
  have begun : Session.Begun 4 2 (.new 4 2) := .new
  obtain ⟨⟨_, _, reported, _⟩, _⟩ := events_reported begun [⟨0, .halt ⟨true, "Limit"⟩⟩,
    ⟨1, .riskAlert ⟨"high", "VaR"⟩⟩, ⟨2, .halt ⟨false, ""⟩⟩, ⟨3, .halt ⟨false, ""⟩⟩]
  exact ⟨begun, _, _, _, rfl, reported.halt, rfl, rfl⟩

end Dashboard
end TradingDesk
