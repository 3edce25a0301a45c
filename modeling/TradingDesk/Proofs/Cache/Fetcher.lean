import TradingDesk.Proofs.Cache.Ledger

/-! What is said between a request and its fetcher. Whoever polls the request, and whatever happens between two
polls, the conversation is a beginning of one and the same: call and outcome in turn, up to the first value or to
the last failure that the retries allow. -/

namespace TradingDesk

variable {V : Type}

inductive Talk (V : Type) where
  | call
  | outcome (said : Outcome V)

def Talk.isCall : Talk V → Bool
  | .call => true
  | .outcome _ => false

namespace Attempts

/-- The call that decides: the first one that gives a value, else the last one that the retries allow. -/
def decisive (retries : Nat) (fetcher : Nat → Outcome V) : Nat :=
  ((List.range (retries + 1)).find? fun n => (fetcher n).isOk).getD retries

/-- The first `n` calls, each with its outcome before the next one. -/
def rounds (fetcher : Nat → Outcome V) (n : Nat) : List (Talk V) :=
  (List.range n).flatMap fun k => [.call, .outcome (fetcher k)]

/-- The answers that have come are outcomes of the fetcher. -/
def Tells (fetcher : Nat → Outcome V) (ready : Nat → Nat → Option (Outcome V)) : Prop :=
  ∀ n since said, ready n since = some said → said = fetcher n

/-- What is said while the request is driven. -/
def talk (retries : Nat) (ready : Nat → Nat → Option (Outcome V)) (now : Nat) (r : Attempts V) : List (Talk V) :=
  match r.outcome with
  | some _ => []
  | none =>
    let since := r.asked.getD now
    let calls := if r.asked.isSome then r.calls else r.calls + 1
    let opening := if r.asked.isSome then [] else [.call]
    match ready (calls - 1) since with
    | none => opening
    | some (.ok v) => opening ++ [.outcome (.ok v)]
    | some (.error e) =>
      opening ++ .outcome (.error e) ::
        if r.attempt < retries then
          talk retries ready now { r with attempt := r.attempt + 1, calls := calls, asked := none }
        else []
termination_by retries - r.attempt

section Decisive

variable (retries : Nat) (fetcher : Nat → Outcome V)

theorem decisive_decides : decisive retries fetcher ≤ retries ∧
    (∀ n < decisive retries fetcher, (fetcher n).isOk = false) ∧
    ((fetcher (decisive retries fetcher)).isOk = true ∨ decisive retries fetcher = retries) := by
  unfold decisive
  cases found : (List.range (retries + 1)).find? fun n => (fetcher n).isOk with
  | none =>
    have failures := List.find?_range_eq_none.mp found
    refine ⟨Nat.le_refl retries, ?_, .inr rfl⟩
    intro n early
    simpa using failures n (Nat.lt_succ_of_lt early)
  | some last =>
    obtain ⟨value, inside, before⟩ := List.find?_range_eq_some.mp found
    refine ⟨Nat.le_of_lt_succ (List.mem_range.mp inside), ?_, .inl value⟩
    intro n early
    simpa using before n early

variable {retries fetcher} {n : Nat}

theorem decisive_of_value {v : V} (within : n ≤ decisive retries fetcher) (value : fetcher n = .ok v) :
    n = decisive retries fetcher := by
  obtain ⟨-, before, -⟩ := decisive_decides retries fetcher
  rcases Nat.lt_or_eq_of_le within with early | here
  · have failed := before n early
    rw [value] at failed
    exact absurd failed Bool.noConfusion
  · exact here

theorem decisive_after_failure {e : Failure} (within : n ≤ decisive retries fetcher)
    (failed : fetcher n = .error e) (more : n < retries) : n + 1 ≤ decisive retries fetcher := by
  obtain ⟨-, -, value | last⟩ := decisive_decides retries fetcher
  · refine Nat.lt_of_le_of_ne within ?_
    rintro rfl
    rw [failed] at value
    exact absurd value Bool.noConfusion
  · omega

theorem decisive_of_exhausted (within : n ≤ decisive retries fetcher) (last : ¬n < retries) :
    n = decisive retries fetcher := by
  have bounded := (decisive_decides retries fetcher).1
  omega

end Decisive

theorem rounds_succ (fetcher : Nat → Outcome V) (n : Nat) :
    rounds fetcher (n + 1) = rounds fetcher n ++ [.call, .outcome (fetcher n)] := by
  simp [rounds, List.range_succ]

theorem rounds_within (fetcher : Nat → Outcome V) {n m : Nat} (within : n ≤ m) :
    rounds fetcher n <+: rounds fetcher m := by
  induction within with
  | refl => exact List.prefix_rfl
  | step _ ih =>
    rw [rounds_succ]
    exact ih.trans (List.prefix_append _ _)

theorem rounds_length (fetcher : Nat → Outcome V) (n : Nat) : (rounds fetcher n).length = 2 * n := by
  induction n with
  | zero => rfl
  | succ n ih =>
    rw [rounds_succ, List.length_append, ih]
    rfl

theorem rounds_end (fetcher : Nat → Outcome V) (n : Nat) : (rounds fetcher n).getLast? ≠ some .call := by
  cases n with
  | zero => nofun
  | succ n =>
    rw [rounds_succ, List.getLast?_append]
    nofun

theorem rounds_calls (fetcher : Nat → Outcome V) (n : Nat) : (rounds fetcher n).countP Talk.isCall = n := by
  induction n with
  | zero => rfl
  | succ n ih =>
    rw [rounds_succ, List.countP_append, ih]
    rfl

/-! The stages of a request, each with what was said until then. -/

/-- Call `n` was not made yet. -/
def idle (n : Nat) : Attempts V := { attempt := n, calls := n }

/-- Call `n` is out since a time. -/
def out (n since : Nat) : Attempts V := { attempt := n, calls := n + 1, asked := some since }

inductive Stage (retries : Nat) (fetcher : Nat → Outcome V) : List (Talk V) → Attempts V → Prop where
  | idle (n : Nat) (within : n ≤ decisive retries fetcher) :
    Stage retries fetcher (rounds fetcher n) (idle n)
  | out (n since : Nat) (within : n ≤ decisive retries fetcher) :
    Stage retries fetcher (rounds fetcher n ++ [.call]) (out n since)
  | done (n : Nat) (last : n = decisive retries fetcher) :
    Stage retries fetcher (rounds fetcher (n + 1))
      { attempt := n, calls := n + 1, outcome := some (fetcher n) }

namespace Stage

variable {retries : Nat} {fetcher : Nat → Outcome V} {talked : List (Talk V)} {r : Attempts V}
  (stage : Stage retries fetcher talked r)

include stage

theorem begins : talked <+: rounds fetcher (decisive retries fetcher + 1) := by
  cases stage with
  | idle n within => exact rounds_within fetcher (Nat.le_succ_of_le within)
  | out n since within =>
    have turn : rounds fetcher n ++ [.call] <+: rounds fetcher (n + 1) := by
      rw [rounds_succ]
      exact (List.prefix_append_right_inj _).mpr ⟨_, rfl⟩
    exact turn.trans (rounds_within fetcher (Nat.succ_le_succ within))
  | done n last =>
    subst last
    exact List.prefix_rfl

theorem counted : r.calls = talked.countP Talk.isCall := by
  cases stage with
  | idle n within => exact (rounds_calls fetcher n).symm
  | out n since within =>
    rw [List.countP_append, rounds_calls]
    rfl
  | done n last => exact (rounds_calls fetcher (n + 1)).symm

theorem asked_iff : r.asked.isSome = true ↔ talked.getLast? = some .call := by
  cases stage with
  | idle n within => exact ⟨nofun, fun calls => absurd calls (rounds_end fetcher n)⟩
  | out n since within => simp [Attempts.out]
  | done n last => exact ⟨nofun, fun calls => absurd calls (rounds_end fetcher (n + 1))⟩

/-- The request is finished exactly when everything has been said. -/
theorem outcome_iff (outcome : Outcome V) : r.outcome = some outcome ↔
    outcome = fetcher (decisive retries fetcher) ∧
      talked = rounds fetcher (decisive retries fetcher + 1) := by
  cases stage with
  | idle n within =>
    refine ⟨nofun, ?_⟩
    rintro ⟨-, all⟩
    have long := congrArg List.length all
    rw [rounds_length, rounds_length] at long
    omega
  | out n since within =>
    refine ⟨nofun, ?_⟩
    rintro ⟨-, all⟩
    have long := congrArg List.length all
    rw [List.length_append, rounds_length, rounds_length, List.length_singleton] at long
    omega
  | done n last =>
    subst last
    exact ⟨fun found => ⟨(Option.some.inj found).symm, rfl⟩, fun both => congrArg some both.1.symm⟩

end Stage

/-- To drive a request with no call out is to call and drive on. -/
theorem drive_idle (retries : Nat) (ready : Nat → Nat → Option (Outcome V)) (now n : Nat) :
    (idle n).drive retries ready now = (out n now).drive retries ready now ∧
      (idle n).talk retries ready now = .call :: (out n now).talk retries ready now := by
  constructor
  · rw [drive, drive]
    rfl
  · rw [talk, talk]
    simp only [idle, out, Option.isSome_none, Option.isSome_some, Option.getD_none, Option.getD_some, Bool.false_eq_true,
      if_false, if_true, Nat.add_sub_cancel, List.nil_append, List.cons_append]
    cases ready n now with
    | none => rfl
    | some said =>
      cases said with
      | ok v => rfl
      | error e => rfl

/-- A drive leaves a request only when it is finished or waits for an answer. -/
theorem drive_waits (retries : Nat) (ready : Nat → Nat → Option (Outcome V)) (now : Nat) (r : Attempts V)
    (unfinished : (r.drive retries ready now).1.outcome = none) :
    ∃ since, (r.drive retries ready now).1.asked = some since ∧
      ready ((r.drive retries ready now).1.calls - 1) since = none := by
  fun_induction drive retries ready now r with
  | case1 r outcome finished => simp [finished] at unfinished
  | case2 r going since calls silent => exact ⟨since, rfl, silent⟩
  | case3 => simp at unfinished
  | case4 r going since calls e failed more next driven lines same ih =>
    rw [same] at ih
    exact ih unfinished
  | case5 => simp at unfinished

section Drive

variable {retries : Nat} {fetcher : Nat → Outcome V} {ready : Nat → Nat → Option (Outcome V)} (now : Nat)
  (truthful : Tells fetcher ready)

include truthful

/-- What a drive says and where it leaves a request whose call `n` is out. -/
theorem drive_out (n since : Nat) (within : n ≤ decisive retries fetcher) :
    Stage retries fetcher (rounds fetcher n ++ .call :: (out n since).talk retries ready now)
      ((out n since).drive retries ready now).1 := by
  rw [drive, talk]
  simp only [out, Option.isSome_some, Option.getD_some, if_true, Nat.add_sub_cancel, List.nil_append]
  cases answer : ready n since with
  | none => exact .out n since within
  | some said =>
    obtain rfl := truthful n since said answer
    cases told : fetcher n with
    | ok v =>
      have ended : Stage retries fetcher _ _ := .done n (decisive_of_value within told)
      rw [rounds_succ, told] at ended
      exact ended
    | error e =>
      by_cases more : n < retries
      · -- The next call goes out in the same drive.
        have onward := drive_out (n + 1) now (decisive_after_failure within told more)
        obtain ⟨driven, spoken⟩ := drive_idle retries ready now (n + 1)
        rw [← driven, ← spoken, rounds_succ, told, List.append_assoc] at onward
        simp only [if_pos more]
        exact onward
      · have ended : Stage retries fetcher _ _ := .done n (decisive_of_exhausted within more)
        rw [rounds_succ, told] at ended
        simp only [if_neg more]
        exact ended
termination_by retries - n

theorem drive_stage {talked : List (Talk V)} {r : Attempts V} (stage : Stage retries fetcher talked r) :
    Stage retries fetcher (talked ++ r.talk retries ready now) (r.drive retries ready now).1 := by
  cases stage with
  | idle n within =>
    obtain ⟨driven, spoken⟩ := drive_idle retries ready now n
    rw [driven, spoken]
    exact drive_out now truthful n now within
  | out n since within =>
    rw [List.append_assoc]
    exact drive_out now truthful n since within
  | done n last =>
    rw [drive, talk]
    simp only [List.append_nil]
    exact .done n last

/-- A drive for which all the answers have come finishes the request. -/
theorem drive_arrived (come : ∀ n ≤ decisive retries fetcher, ∀ since, (ready n since).isSome = true)
    {talked : List (Talk V)} {r : Attempts V} (stage : Stage retries fetcher talked r) :
    (r.drive retries ready now).1.outcome = some (fetcher (decisive retries fetcher)) := by
  have after := drive_stage now truthful stage
  have waits := drive_waits retries ready now r
  generalize (r.drive retries ready now).1 = driven, talked ++ r.talk retries ready now = heard at after waits ⊢
  cases after with
  | idle n within =>
    obtain ⟨since, quiet, -⟩ := waits rfl
    exact nomatch quiet
  | out n since within =>
    obtain ⟨time, -, silent⟩ := waits rfl
    exact absurd silent (Option.isSome_iff_ne_none.mp (come n within time))
  | done n last => rw [last]

end Drive

end Attempts

namespace Crowd
open Attempts

/-! Many visitors drive the requests. -/

/-- A visitor drives the request that it waits for. -/
structure Poll (V : Type) where
  request : Nat
  now : Nat
  ready : Nat → Nat → Option (Outcome V)

def polled? (c : Crowd V) : Move V → Option (Poll V)
  | .advance i now ready =>
    match c.visitors[i]? with
    | some ⟨_, _, .waiting request⟩ => some ⟨request, now, ready⟩
    | _ => none
  | _ => none

/-- What a move makes the request say and hear. -/
def talk (request : Nat) (c : Crowd V) (m : Move V) : List (Talk V) :=
  match c.polled? m with
  | some p =>
    if p.request = request then (c.requests request).talk c.cache.options.retries p.ready p.now else []
  | none => []

def talks (request : Nat) : List (Move V) → Crowd V → List (Talk V)
  | [], _ => []
  | m :: rest, c => c.talk request m ++ talks request rest (c.step m)

/-- What a request and its fetcher have said to each other after a run. -/
def conversation (options : CacheOptions) (request : Nat) (moves : List (Move V)) : List (Talk V) :=
  talks request moves { cache := { options } }

/-- Whenever the request is polled, the answers that have come are the outcomes of its fetcher. -/
def Truthful (request : Nat) (fetcher : Nat → Outcome V) : Crowd V → List (Move V) → Prop
  | _, [] => True
  | c, m :: rest =>
    (∀ p, c.polled? m = some p → p.request = request → Tells fetcher p.ready) ∧
    Truthful request fetcher (c.step m) rest

theorem requests_step (c : Crowd V) (m : Move V) : (c.step m).requests =
    match c.polled? m with
    | some p => Function.update c.requests p.request
        ((c.requests p.request).drive c.cache.options.retries p.ready p.now).1
    | none => c.requests := by
  cases m with
  | advance i now ready =>
    simp only [step, polled?]
    cases here : c.visitors[i]? with
    | none => rfl
    | some v =>
      obtain ⟨key, accepts, stand⟩ := v
      simp only [advance]
      cases stand with
      | looking =>
        cases c.cache.fresh? accepts now key <;> rfl
      | _ => rfl
  | call mode accepts key => rfl
  | drop i =>
    simp only [step, polled?]
    cases here : c.visitors[i]? with
    | none => rfl
    | some v =>
      simp only [leave]
      split <;> rfl
  | invalidate start => rfl
  | mutate outcome starts => cases outcome <;> rfl
  | mutateNext n =>
    simp only [step, polled?]
    split <;> rfl

section Request

variable {request : Nat} {fetcher : Nat → Outcome V}

theorem stage_step {c : Crowd V} {talked : List (Talk V)} {m : Move V}
    (stage : Stage c.cache.options.retries fetcher talked (c.requests request))
    (truthful : ∀ p, c.polled? m = some p → p.request = request → Tells fetcher p.ready) :
    Stage c.cache.options.retries fetcher (talked ++ c.talk request m) ((c.step m).requests request) := by
  rw [requests_step]
  unfold talk
  cases polled : c.polled? m with
  | none =>
    rw [List.append_nil]
    exact stage
  | some p =>
    by_cases same : p.request = request
    · subst same
      simp only [if_pos, Function.update_self]
      exact drive_stage p.now (truthful p polled rfl) stage
    · simp only [if_neg same, List.append_nil, Function.update_of_ne (Ne.symm same)]
      exact stage

theorem stage_steps {c : Crowd V} {talked : List (Talk V)} {moves : List (Move V)}
    (stage : Stage c.cache.options.retries fetcher talked (c.requests request))
    (truthful : Truthful request fetcher c moves) :
    Stage c.cache.options.retries fetcher (talked ++ talks request moves c)
      ((steps moves c).requests request) := by
  induction moves generalizing c talked with
  | nil =>
    rw [talks, List.append_nil]
    exact stage
  | cons m rest ih =>
    obtain ⟨now, later⟩ := truthful
    have same : (c.step m).cache.options = c.cache.options := options_moved (moved c m)
    have next := stage_step stage now
    rw [← same] at next
    have after := ih next later
    rw [same, List.append_assoc] at after
    exact after

/-- Moves that bring nothing but outcomes of the fetcher are truthful. -/
theorem truthful_of_ready (c : Crowd V) (moves : List (Move V))
    (told : ∀ i now ready, .advance i now ready ∈ moves → Tells fetcher ready) :
    Truthful request fetcher c moves := by
  induction moves generalizing c with
  | nil => trivial
  | cons m rest ih =>
    refine ⟨?_, ih (c.step m) fun i now ready member => told i now ready (List.mem_cons_of_mem m member)⟩
    intro p polled asked
    unfold polled? at polled
    split at polled
    · rename_i i now ready
      split at polled
      · obtain rfl := Option.some.inj polled
        exact told i now ready List.mem_cons_self
      · exact nomatch polled
    · exact nomatch polled

theorem talks_append (c : Crowd V) (moves more : List (Move V)) :
    talks request (moves ++ more) c = talks request moves c ++ talks request more (steps moves c) := by
  induction moves generalizing c with
  | nil => rfl
  | cons m rest ih =>
    rw [List.cons_append, talks, talks, ih (c.step m), List.append_assoc]
    rfl

theorem talk_finished {c : Crowd V} {outcome : Outcome V} (finished : (c.requests request).outcome = some outcome)
    (m : Move V) : c.talk request m = [] := by
  unfold talk
  cases c.polled? m with
  | none => rfl
  | some p =>
    unfold Attempts.talk
    simp only [finished, ite_self]

theorem talks_finished {c : Crowd V} {outcome : Outcome V} (finished : (c.requests request).outcome = some outcome)
    (moves : List (Move V)) : talks request moves c = [] := by
  induction moves generalizing c with
  | nil => rfl
  | cons m rest ih =>
    rw [talks, talk_finished finished m, List.nil_append]
    exact ih (outcome_moved (moved c m) request outcome finished)

end Request

/-- `last` is the call that decides. The request may be shared, and who started it may be gone. -/
structure Fetches (options : CacheOptions) (fetcher : Nat → Outcome V) (last request : Nat)
    (moves : List (Move V)) : Prop where
  alternates : conversation options request moves <+: rounds fetcher (last + 1)
  counted : ((run options moves).requests request).calls =
    (conversation options request moves).countP Talk.isCall
  pending : ((run options moves).requests request).asked.isSome = true ↔
    (conversation options request moves).getLast? = some .call
  outcome : ∀ outcome, ((run options moves).requests request).outcome = some outcome ↔
    outcome = fetcher last ∧ conversation options request moves = rounds fetcher (last + 1)
  silent : ∀ outcome more, ((run options moves).requests request).outcome = some outcome →
    conversation options request (moves ++ more) = conversation options request moves
  finishes : ∀ (i : Nat) (v : Visitor V) now ready, (run options moves).visitors[i]? = some v →
    v.stand = .waiting request → Tells fetcher ready →
    (∀ n ≤ last, ∀ since, (ready n since).isSome = true) →
    ((run options moves).step (.advance i now ready)).visitors[i]? =
      some { v with stand := .settling request (fetcher last) }
  answers : ∀ (i : Nat) (v : Visitor V) state, (run options moves).visitors[i]? = some v →
    v.stand = .answered (some request) state → state = Outcome.shownTo v.accepts v.key (fetcher last)

/-- Whoever comes, polls and goes, a request asks its fetcher one call at a time up to the call that decides, and ends with
the outcome of that call. -/
theorem fetcher_asked (options : CacheOptions) (fetcher : Nat → Outcome V) (request : Nat)
    (moves : List (Move V)) (truthful : Truthful request fetcher { cache := { options } } moves) :
    Fetches options fetcher (decisive options.retries fetcher) request moves := by
  have stage : Stage options.retries fetcher (conversation options request moves)
      ((run options moves).requests request) := by
    have first : Stage options.retries fetcher [] ({} : Attempts V) := .idle 0 (Nat.zero_le _)
    exact stage_steps first truthful
  refine ⟨stage.begins, stage.counted, stage.asked_iff, stage.outcome_iff, ?_, ?_, ?_⟩
  · intro outcome more finished
    have silent : talks request more (run options moves) = [] := talks_finished finished more
    unfold run at silent
    unfold conversation
    rw [talks_append, silent, List.append_nil]
  · intro i v now ready here stands told come
    have same : (run options moves).cache.options = options := options_steps _ moves
    have finished := drive_arrived now told come stage
    rw [step_advance _ i now v ready here]
    simp only [advance, stands, afterPoll, same, finished]
    exact put_visitor _ i v _ here
  · intro i v state here stands
    obtain ⟨source, outcome, bound, finished, shown⟩ := answer_outcome (sound_run options moves) here stands
    obtain rfl : request = source := Option.some.inj bound
    rw [shown, ((stage.outcome_iff outcome).mp finished).1]

private def quotes : Key := ⟨["tickers"]⟩

private def flaky : Nat → Outcome Nat
  | 0 => .error (.payload "bad json")
  | _ => .ok 5

/-- The visitor who started the request is dropped while the first call is out. -/
private def handedOver : List (Move Nat) :=
  [.call .refetch (fun _ => true) quotes, .advance 0 0 fun _ _ => none, .advance 0 0 fun _ _ => none,
    .call .refetch (fun _ => true) quotes, .advance 1 1 fun _ _ => none, .drop 0,
    .advance 1 1 fun n _ => if n = 0 then some (flaky 0) else none, .advance 1 2 fun n _ => some (flaky n)]

theorem flaky_asked_twice : Truthful 0 flaky { cache := { options := { retries := 1 } } } handedOver ∧
    ((run { retries := 1 } handedOver).requests 0).outcome = some (.ok 5) ∧
    conversation { retries := 1 } 0 handedOver =
      [.call, .outcome (.error (.payload "bad json")), .call, .outcome (.ok 5)] := by
  have truthful : Truthful 0 flaky { cache := { options := { retries := 1 } } } handedOver := by
    refine truthful_of_ready _ _ ?_
    intro i now ready member n since said answer
    simp only [handedOver, List.mem_cons, List.not_mem_nil, reduceCtorEq, Move.advance.injEq, false_or, or_false]
      at member
    rcases member with ⟨-, -, rfl⟩ | ⟨-, -, rfl⟩ | ⟨-, -, rfl⟩ | ⟨-, -, rfl⟩ | ⟨-, -, rfl⟩
    · exact nomatch answer
    · exact nomatch answer
    · exact nomatch answer
    · by_cases first : n = 0
      · subst first
        exact (Option.some.inj answer).symm
      · simp [first] at answer
    · exact (Option.some.inj answer).symm
  have finished : ((run { retries := 1 } handedOver).requests 0).outcome = some (.ok 5) := by
    with_unfolding_all rfl
  have fetches := fetcher_asked { retries := 1 } flaky 0 handedOver truthful
  exact ⟨truthful, finished, ((fetches.outcome (.ok 5)).mp finished).2⟩

end Crowd
end TradingDesk
