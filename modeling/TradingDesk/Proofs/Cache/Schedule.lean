import TradingDesk.Proofs.Cache.Callers
import TradingDesk.Proofs.Cache.Sound

/-! Whatever a traffic does, a crowd can do: a start is a call that looks, joins and polls without a pause, a poll
that finds the request finished settles at once. So what holds of every run of a crowd holds of every traffic. -/

namespace TradingDesk

variable {V : Type}

namespace Traffic

inductive Event (V : Type) where
  | start (world : World V) (now : Nat) (name : String) (mode : FetchMode) (accepts : V → Bool) (key : Key)
  | poll (world : World V) (now : Nat) (name : String)
  | drop (name : String)
  | invalidate (start : Key)
  | mutate (outcome : Outcome Unit) (starts : List Key)

def follow (t : Traffic V) : Event V → Traffic V
  | .start world now name mode accepts key => (t.start world now name mode accepts key).1
  | .poll world now name => ((t.poll world now name).map Prod.fst).getD t
  | .drop name => t.drop name
  | .invalidate start => { t with cache := (t.cache.invalidate start).1 }
  | .mutate outcome starts => { t with cache := (t.cache.mutate outcome starts).1 }

/-- What an event tells its caller. -/
def told (t : Traffic V) : Event V → Option (QueryState V)
  | .start world now name mode accepts key => (t.start world now name mode accepts key).2.state
  | .poll world now name => (t.poll world now name).bind fun after => after.2.state
  | _ => none

end Traffic

namespace Crowd
open Traffic

/-- Every caller of the traffic has a seat of its own, where a visitor waits for the same request. -/
structure Mirrors (seat : String → Nat) (t : Traffic V) (c : Crowd V) : Prop where
  cache : c.cache = t.cache
  requests : c.requests = t.request
  apart : ∀ a b x y, t.callers.lookup a = some x → t.callers.lookup b = some y → seat a = seat b → a = b
  sits : ∀ name caller, t.callers.lookup name = some caller →
    c.visitors[seat name]? = some ⟨caller.key, caller.accepts, .waiting caller.request⟩

theorem steps_append (earlier later : List (Move V)) (c : Crowd V) :
    steps (earlier ++ later) c = steps later (steps earlier c) :=
  List.foldl_append

theorem steps_cons (first : Move V) (rest : List (Move V)) (c : Crowd V) :
    steps (first :: rest) c = steps rest (c.step first) :=
  rfl

theorem steps_nil (c : Crowd V) : steps [] c = c :=
  rfl

namespace Mirrors

variable {seat : String → Nat} {t : Traffic V} {c : Crowd V}

private theorem without (m : Mirrors seat t c) (name : String) (after : Traffic V) (next : Crowd V)
    (callers : after.callers = t.callers) (cache : next.cache = after.cache)
    (requests : next.requests = after.request)
    (sit : ∀ other waiting, other ≠ name → t.callers.lookup other = some waiting →
      next.visitors[seat other]? = some ⟨waiting.key, waiting.accepts, .waiting waiting.request⟩) :
    Mirrors seat (after.drop name) next := by
  have remains (other : String) (waiting : Caller V)
      (still : (after.drop name).callers.lookup other = some waiting) :
      other ≠ name ∧ t.callers.lookup other = some waiting := by
    rw [lookup_drop, callers] at still
    split at still
    · simp at still
    · rename_i differ
      exact ⟨differ, still⟩
  refine ⟨cache, requests, ?_, ?_⟩
  · intro a b x y left right
    exact m.apart a b x y (remains a x left).2 (remains b y right).2
  · intro other waiting still
    obtain ⟨differ, there⟩ := remains other waiting still
    exact sit other waiting differ there

section Poll

variable (m : Mirrors seat t c) (world : World V) (now : Nat) (name : String) (caller : Caller V)
  (found : t.callers.lookup name = some caller)

include m found

private theorem polled : c.step (.advance (seat name) now (world caller.request)) =
    { c.put (seat name) ⟨caller.key, caller.accepts, .waiting caller.request⟩
        (afterPoll caller.request (driven world now caller t)) with
      requests := (t.setRequest caller.request (driven world now caller t)).request } := by
  rw [step_advance c (seat name) now _ (world caller.request) (m.sits name caller found)]
  have drives : ((c.requests caller.request).drive c.cache.options.retries (world caller.request) now).1 =
      driven world now caller t := by
    rw [m.cache, m.requests]
    rfl
  have updated : Function.update c.requests caller.request (driven world now caller t) =
      (t.setRequest caller.request (driven world now caller t)).request := by
    funext r
    rw [request_setRequest, m.requests]
    by_cases same : r = caller.request
    · rw [same, Function.update_self, if_pos rfl]
    · rw [Function.update_of_ne same, if_neg same]
  simp only [advance, drives, updated]

private theorem other_seat (other : String) (waiting : Caller V) (differ : other ≠ name)
    (there : t.callers.lookup other = some waiting) : seat other ≠ seat name :=
  fun same => differ (m.apart other name waiting caller there found same)

private theorem unfinished (goesOn : (driven world now caller t).outcome = none) :
    Mirrors seat (t.setRequest caller.request (driven world now caller t))
      (c.step (.advance (seat name) now (world caller.request))) := by
  rw [polled m world now name caller found]
  refine ⟨m.cache, rfl, m.apart, ?_⟩
  intro other waiting there
  have after : afterPoll caller.request (driven world now caller t) = .waiting caller.request := by
    rw [afterPoll, goesOn]
  rw [after]
  by_cases same : other = name
  · subst same
    obtain rfl : caller = waiting := Option.some.inj (found.symm.trans there)
    exact put_visitor c _ _ _ (m.sits other caller found)
  · exact (put_other c _ _ _ _ (other_seat m name caller found other waiting same there)).trans
      (m.sits other waiting there)

/-- The visitor sees the outcome and brings it to the slot at once. -/
private theorem finished (outcome : Outcome V) (done : (driven world now caller t).outcome = some outcome) :
    Mirrors seat
        ({ t.setRequest caller.request (driven world now caller t) with
          cache := (t.cache.settle caller.key caller.request outcome now).1 }.drop name)
        ((c.step (.advance (seat name) now (world caller.request))).step
          (.advance (seat name) now (world caller.request))) ∧
      ((c.step (.advance (seat name) now (world caller.request))).step
          (.advance (seat name) now (world caller.request))).visitors[seat name]? =
        some ⟨caller.key, caller.accepts,
          .answered (some caller.request) (Cache.answerOf caller.accepts caller.key outcome)⟩ := by
  have here := m.sits name caller found
  have after : afterPoll caller.request (driven world now caller t) = .settling caller.request outcome := by
    rw [afterPoll, done]
  rw [polled m world now name caller found, after]
  -- The first move leaves the visitor at its seat with the outcome in hand.
  have sees := put_visitor c (seat name) ⟨caller.key, caller.accepts, .waiting caller.request⟩
    (.settling caller.request outcome) here
  generalize next_eq : ({ c.put (seat name) ⟨caller.key, caller.accepts, .waiting caller.request⟩
    (.settling caller.request outcome) with
    requests := (t.setRequest caller.request (driven world now caller t)).request } : Crowd V) = next
  have there : next.visitors[seat name]? =
      some ⟨caller.key, caller.accepts, .settling caller.request outcome⟩ := by
    rw [← next_eq]
    exact sees
  rw [step_advance next _ now _ (world caller.request) there]
  simp only [advance]
  refine ⟨?_, put_visitor next _ _ _ there⟩
  refine m.without name _ _ rfl ?_ ?_ ?_
  · rw [← next_eq]
    change (c.cache.settle _ _ _ _).1 = _
    rw [m.cache]
  · rw [← next_eq]
    rfl
  · intro other waiting differ still
    have elsewhere := other_seat m name caller found other waiting differ still
    change (next.put _ _ _).visitors[seat other]? = _
    rw [put_other next _ _ _ _ elsewhere, ← next_eq]
    exact (put_other c _ _ _ _ elsewhere).trans (m.sits other waiting still)

/-- A caller's request is polled. If it is finished, the caller is told what its visitor is answered. -/
theorem pollCaller : ∃ moves, Mirrors seat (t.pollCaller world now name caller).1 (steps moves c) ∧
    ∀ state, (t.pollCaller world now name caller).2.state = some state →
      (steps moves c).visitors[seat name]? =
        some ⟨caller.key, caller.accepts, .answered (some caller.request) state⟩ := by
  let poll : Move V := .advance (seat name) now (world caller.request)
  cases ends : (driven world now caller t).outcome with
  | none =>
    obtain ⟨goesOn, silent⟩ := pollCaller_unfinished world now name caller t ends
    refine ⟨[poll], ?_, ?_⟩
    · rw [goesOn]
      exact unfinished m world now name caller found ends
    · intro state told
      rw [silent] at told
      simp at told
  | some outcome =>
    obtain ⟨goesOn, tells⟩ := pollCaller_finished world now name caller t outcome ends
    obtain ⟨mirrors, answered⟩ := finished m world now name caller found outcome ends
    refine ⟨[poll, poll], ?_, ?_⟩
    · rw [goesOn]
      exact mirrors
    · intro state told
      rw [tells] at told
      obtain rfl := Option.some.inj told
      exact answered

end Poll

/-! A start. -/

private theorem visitors_call (mode : FetchMode) (accepts : V → Bool) (key : Key) (i : Nat) (v : Visitor V)
    (here : c.visitors[i]? = some v) : i ≠ c.visitors.length ∧
      (c.step (.call mode accepts key)).visitors[i]? = some v := by
  have inside : i < c.visitors.length := (List.getElem?_eq_some_iff.mp here).1
  exact ⟨Nat.ne_of_lt inside, (List.getElem?_append_left inside).trans here⟩

private theorem visitor_call (mode : FetchMode) (accepts : V → Bool) (key : Key) :
    (c.step (.call mode accepts key)).visitors[c.visitors.length]? =
      some ⟨key, accepts, if mode = .fetch then .looking else .joining⟩ := by
  simp [step]

section Start

variable (m : Mirrors seat t c) (world : World V) (now : Nat) (name : String) (mode : FetchMode)
  (accepts : V → Bool) (key : Key)

include m

private theorem hits (v : V) (fresh : t.cache.fresh? accepts now key = some v) :
    ∃ moves source, Mirrors seat t (steps moves c) ∧
      (steps moves c).visitors[c.visitors.length]? = some ⟨key, accepts, .answered source (.data v)⟩ := by
  have here := visitor_call (c := c) .fetch accepts key
  refine ⟨[.call .fetch accepts key, .advance c.visitors.length now fun _ _ => none],
    (c.step (.call .fetch accepts key)).lastSource key, ?_⟩
  rw [steps_cons, steps_cons, steps_nil]
  have same : (c.step (.call .fetch accepts key)).cache = t.cache := m.cache
  rw [step_advance _ _ now _ _ here]
  simp only [advance, if_true, same, fresh]
  refine ⟨⟨same, m.requests, m.apart, ?_⟩, put_visitor _ _ _ _ here⟩
  intro other waiting there
  obtain ⟨differ, still⟩ := visitors_call .fetch accepts key _ _ (m.sits other waiting there)
  exact (put_other _ _ _ _ _ differ).trans still

private theorem begins (missed : mode = .fetch → t.cache.fresh? accepts now key = none) :
    ∃ moves, Mirrors seat t (steps moves c) ∧
      (∀ i v, c.visitors[i]? = some v → i ≠ c.visitors.length ∧ (steps moves c).visitors[i]? = some v) ∧
      (steps moves c).visitors[c.visitors.length]? = some ⟨key, accepts, .joining⟩ := by
  have here := visitor_call (c := c) mode accepts key
  have stay := visitors_call (c := c) mode accepts key
  have called : Mirrors seat t (c.step (.call mode accepts key)) :=
    ⟨m.cache, m.requests, m.apart, fun other waiting there => (stay _ _ (m.sits other waiting there)).2⟩
  cases mode with
  | refetch => exact ⟨[.call .refetch accepts key], called, stay, here⟩
  | fetch =>
    have silent : (c.step (.call .fetch accepts key)).cache.fresh? accepts now key = none := by
      rw [called.cache]
      exact missed rfl
    refine ⟨[.call .fetch accepts key, .advance c.visitors.length now fun _ _ => none], ?_⟩
    rw [steps_cons, steps_cons, steps_nil, step_advance _ _ now _ _ here]
    simp only [advance, if_true, silent]
    have moved (i : Nat) (v : Visitor V) (there : c.visitors[i]? = some v) : i ≠ c.visitors.length ∧
        (((c.step (.call .fetch accepts key)).put c.visitors.length ⟨key, accepts, .looking⟩
          .joining).visitors[i]? = some v) := by
      obtain ⟨differ, still⟩ := stay i v there
      exact ⟨differ, (put_other _ _ _ _ _ differ).trans still⟩
    exact ⟨⟨m.cache, m.requests, m.apart, fun other waiting there => (moved _ _ (m.sits other waiting there)).2⟩,
      moved, put_visitor _ _ _ _ here⟩

private theorem joins (i : Nat) (new : ∀ other waiting, t.callers.lookup other = some waiting → seat other ≠ i)
    (here : c.visitors[i]? = some ⟨key, accepts, .joining⟩) :
    Mirrors (Function.update seat name i) (t.joined name accepts key)
      (c.step (.advance i now fun _ _ => none)) := by
  rw [step_advance c i now _ _ here]
  simp only [advance]
  refine ⟨?_, m.requests, ?_, ?_⟩
  · change (c.cache.joinOrStart key).1 = _
    rw [m.cache]
    rfl
  · intro a b x y left right same
    rw [lookup_joined] at left right
    split at left
    · rename_i isNew
      subst isNew
      split at right
      · rename_i isNew
        exact isNew.symm
      · rename_i old
        -- Nobody else sits where the new caller sits.
        rw [Function.update_self, Function.update_of_ne old] at same
        exact absurd same.symm (new b y right)
    · rename_i old
      split at right
      · rename_i isNew
        rw [isNew, Function.update_self, Function.update_of_ne old] at same
        exact absurd same (new a x left)
      · rename_i also
        rw [Function.update_of_ne old, Function.update_of_ne also] at same
        exact m.apart a b x y left right same
  · intro other waiting there
    rw [lookup_joined] at there
    change (c.put _ _ _).visitors[Function.update seat name i other]? = _
    split at there
    · rename_i isNew
      obtain rfl := Option.some.inj there
      rw [isNew, Function.update_self, ← m.cache]
      exact put_visitor c _ _ _ here
    · rename_i old
      rw [Function.update_of_ne old]
      exact (put_other c _ _ _ _ (new other waiting there)).trans (m.sits other waiting there)

/-- A start is a call of a new visitor. It is answered what the caller is told. -/
theorem start : ∃ moves after, Mirrors after (t.start world now name mode accepts key).1 (steps moves c) ∧
    ∀ state, (t.start world now name mode accepts key).2.state = some state →
      ∃ source, (steps moves c).visitors[c.visitors.length]? = some ⟨key, accepts, .answered source state⟩ := by
  rcases start_cases world now name mode accepts key t with ⟨v, fresh, hit⟩ | ⟨missed, asks⟩
  · obtain ⟨moves, source, mirrors, answered⟩ := hits m now accepts key v fresh
    rw [hit]
    refine ⟨moves, seat, mirrors, ?_⟩
    intro state told
    obtain rfl := Option.some.inj told
    exact ⟨source, answered⟩
  · obtain ⟨first, begun, stay, here⟩ := begins m now mode accepts key missed
    have new (other : String) (waiting : Caller V) (there : t.callers.lookup other = some waiting) :
        seat other ≠ c.visitors.length := (stay _ _ (m.sits other waiting there)).1
    have joined := joins begun now name accepts key c.visitors.length new here
    have found : (t.joined name accepts key).callers.lookup name =
        some ⟨key, (t.cache.joinOrStart key).2.1, accepts⟩ := by
      rw [lookup_joined, if_pos rfl]
    obtain ⟨rest, mirrors, answered⟩ := joined.pollCaller world now name _ found
    rw [asks]
    refine ⟨first ++ .advance c.visitors.length now (fun _ _ => none) :: rest,
      Function.update seat name c.visitors.length, ?_, ?_⟩
    · rw [steps_append]
      exact mirrors
    · intro state told
      have shows := answered state told
      rw [Function.update_self] at shows
      rw [steps_append]
      exact ⟨_, shows⟩

end Start

/-! A drop, an invalidation and a mutation. -/

theorem drop (m : Mirrors seat t c) (name : String) : ∃ moves, Mirrors seat (t.drop name) (steps moves c) := by
  cases found : t.callers.lookup name with
  | none =>
    refine ⟨[], m.without name t c rfl m.cache m.requests ?_⟩
    intro other waiting _ there
    exact m.sits other waiting there
  | some caller =>
    have here := m.sits name caller found
    have gone : steps [.drop (seat name)] c =
        c.put (seat name) ⟨caller.key, caller.accepts, .waiting caller.request⟩ .gone := by
      rw [steps_cons, steps_nil]
      simp only [step, here, leave]
    refine ⟨[.drop (seat name)], m.without name t _ rfl ?_ ?_ ?_⟩
    · rw [gone]
      exact m.cache
    · rw [gone]
      exact m.requests
    · intro other waiting differ there
      rw [gone, put_other c _ _ _ _ (other_seat m name caller found other waiting differ there)]
      exact m.sits other waiting there

theorem invalidated (m : Mirrors seat t c) (start : Key) (mutations : List (List Key)) :
    Mirrors seat { t with cache := (t.cache.invalidate start).1 }
      { c.invalidated start with mutations := mutations } where
  cache := congrArg (fun cache => (cache.invalidate start).1) m.cache
  requests := m.requests
  apart := m.apart
  sits := m.sits

/-- A mutation under way invalidates one prefix after the other. -/
private theorem mutates (n : Nat) (starts : List Key) (m : Mirrors seat t c)
    (left : c.mutations[n]? = some starts) :
    Mirrors seat { t with cache := starts.foldl (fun cache start => (cache.invalidate start).1) t.cache }
      (steps (starts.map fun _ => .mutateNext n) c) := by
  -- The prefixes that are left shrink with each move, and so does the list of moves.
  induction starts generalizing t c with
  | nil => exact m
  | cons start rest ih =>
    have inside : n < c.mutations.length := (List.getElem?_eq_some_iff.mp left).1
    have next : c.step (.mutateNext n) =
        { c.invalidated start with mutations := c.mutations.set n rest } := by
      simp only [step, left]
    rw [List.map_cons, steps_cons, next]
    refine ih (m.invalidated start _) ?_
    simp [inside]

theorem mutate (m : Mirrors seat t c) (outcome : Outcome Unit) (starts : List Key) :
    ∃ moves, Mirrors seat { t with cache := (t.cache.mutate outcome starts).1 } (steps moves c) := by
  cases outcome with
  | error e => exact ⟨[], m⟩
  | ok done =>
    refine ⟨.mutate (.ok done) starts :: starts.map fun _ => .mutateNext c.mutations.length, ?_⟩
    have begun : Mirrors seat t (c.step (.mutate (.ok done) starts)) := ⟨m.cache, m.requests, m.apart, m.sits⟩
    refine begun.mutates c.mutations.length starts ?_
    simp [step]

theorem follow (m : Mirrors seat t c) (e : Traffic.Event V) :
    ∃ moves after, Mirrors after (t.follow e) (steps moves c) := by
  cases e with
  | start world now name mode accepts key =>
    obtain ⟨moves, after, mirrors, _⟩ := m.start world now name mode accepts key
    exact ⟨moves, after, mirrors⟩
  | poll world now name =>
    cases found : t.callers.lookup name with
    | none =>
      refine ⟨[], seat, ?_⟩
      simp only [Traffic.follow, Traffic.poll, found]
      exact m
    | some caller =>
      obtain ⟨moves, mirrors, _⟩ := m.pollCaller world now name caller found
      refine ⟨moves, seat, ?_⟩
      simp only [Traffic.follow, Traffic.poll, found]
      exact mirrors
  | drop name =>
    obtain ⟨moves, mirrors⟩ := m.drop name
    exact ⟨moves, seat, mirrors⟩
  | invalidate start => exact ⟨[.invalidate start], seat, m.invalidated start c.mutations⟩
  | mutate outcome starts =>
    obtain ⟨moves, mirrors⟩ := m.mutate outcome starts
    exact ⟨moves, seat, mirrors⟩

theorem followed (m : Mirrors seat t c) (events : List (Traffic.Event V)) :
    ∃ moves after, Mirrors after (events.foldl Traffic.follow t) (steps moves c) := by
  induction events generalizing seat t c with
  | nil => exact ⟨[], seat, m⟩
  | cons e rest ih =>
    obtain ⟨earlier, between, reached⟩ := m.follow e
    obtain ⟨later, after, mirrors⟩ := ih reached
    refine ⟨earlier ++ later, after, ?_⟩
    rw [steps_append]
    exact mirrors

end Mirrors

theorem mirrors_empty (seat : String → Nat) (options : CacheOptions) :
    Mirrors seat ({ cache := { options } } : Traffic V) { cache := { options } } where
  cache := rfl
  requests := rfl
  apart := by simp
  sits := by simp

/-- Whatever happens to a traffic, some run of a crowd ends with the same cache and the same requests. -/
theorem mirrors_run (options : CacheOptions) (events : List (Traffic.Event V)) :
    ∃ moves seat, Mirrors seat (events.foldl Traffic.follow { cache := { options } }) (run options moves) :=
  (mirrors_empty (fun _ => 0) options).followed events

theorem recorded_traffic (options : CacheOptions) (events : List (Traffic.Event V)) :
    ∃ h : History V, Recorded h (events.foldl Traffic.follow { cache := { options } }).cache := by
  obtain ⟨moves, seat, mirrors⟩ := mirrors_run options events
  refine ⟨(run options moves).history, ?_⟩
  rw [← mirrors.cache]
  exact (sound_run options moves).recorded

/-- A caller is told what some visitor of a crowd is answered. -/
theorem told_traffic (options : CacheOptions) (events : List (Traffic.Event V)) (e : Traffic.Event V)
    (state : QueryState V)
    (told : (events.foldl Traffic.follow { cache := { options } }).told e = some state) :
    ∃ (moves : List (Move V)) (i : Nat) (v : Visitor V) (source : Option Nat),
      (run options moves).visitors[i]? = some v ∧ v.stand = .answered source state := by
  obtain ⟨earlier, seat, mirrors⟩ := mirrors_run options events
  have reached (later : List (Move V)) : steps later (run options earlier) = run options (earlier ++ later) :=
    (steps_append earlier later _).symm
  cases e with
  | start world now name mode accepts key =>
    obtain ⟨later, _, _, answered⟩ := mirrors.start world now name mode accepts key
    obtain ⟨source, here⟩ := answered state told
    rw [reached later] at here
    exact ⟨_, _, _, source, here, rfl⟩
  | poll world now name =>
    cases found : (events.foldl Traffic.follow { cache := { options } }).callers.lookup name with
    | none => simp [Traffic.told, Traffic.poll, found] at told
    | some caller =>
      simp only [Traffic.told, Traffic.poll, found, Option.map_some, Option.bind_some] at told
      obtain ⟨later, _, answered⟩ := mirrors.pollCaller world now name caller found
      have here := answered state told
      rw [reached later] at here
      exact ⟨_, _, _, _, here, rfl⟩
  | drop name => simp [Traffic.told] at told
  | invalidate start => simp [Traffic.told] at told
  | mutate outcome starts => simp [Traffic.told] at told

end Crowd
end TradingDesk
