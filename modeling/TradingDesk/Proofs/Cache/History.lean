import TradingDesk.Proofs.Cache.Slots

/-! What has happened to a cache, as it is seen from outside: calls, answers given at once, requests joined or
started, outcomes brought to a slot, invalidations. The request under way for a key, the outcomes that were
settled and whether an invalidation came after the last of them are read off this record alone, without a
slot. -/

namespace TradingDesk

/-- A `hit` is a call answered at once, by the outcome of an earlier request. `joined` tells whether the caller
had to start the request. `seen` is a caller that comes to the slot with the outcome of the request it waited
for. -/
inductive CacheEvent (V : Type) where
  | called (caller : Nat) (key : Key)
  | hit (caller : Nat) (key : Key) (source : Option Nat)
  | joined (caller : Nat) (key : Key) (request : Nat) (isNew : Bool)
  | seen (key : Key) (request : Nat) (outcome : Outcome V) (now : Nat)
  | invalidated (start : Key)

structure Settlement (V : Type) where
  request : Nat
  outcome : Outcome V
  time : Nat

namespace Settlement

variable {V : Type}

def value? (s : Settlement V) : Option V := s.outcome.toOption

def failure? (s : Settlement V) : Option String :=
  match s.outcome with
  | .ok _ => none
  | .error e => some e.message

end Settlement

/-- What a caller is shown of an outcome. A value of another type than the caller's is an error to it. -/
def Outcome.shownTo {V : Type} (accepts : V → Bool) (key : Key) : Outcome V → QueryState V
  | .ok v =>
    if accepts v then .data v
    else .error ("Unexpected response: cached value for '" ++ key.shown ++ "' has an unexpected type")
  | .error e => .error e.message

/-- The newest event comes first. -/
abbrev History (V : Type) : Type := List (CacheEvent V)

namespace History

variable {V : Type}

/-- The request under way for a key: the last one started for it, unless it was settled or an invalidation
has detached it since. -/
def attached (key : Key) : History V → Option Nat
  | [] => none
  | .joined _ k r true :: older => if k = key then some r else attached key older
  | .joined _ _ _ false :: older => attached key older
  | .seen k r _ _ :: older =>
    if k = key ∧ attached key older = some r then none else attached key older
  | .invalidated start :: older => if key.startsWith start then none else attached key older
  | .called _ _ :: older => attached key older
  | .hit _ _ _ :: older => attached key older

/-- The outcomes of a key that were seen while their request was still attached. -/
def settlements (key : Key) : History V → List (Settlement V)
  | [] => []
  | .seen k r outcome now :: older =>
    if k = key ∧ attached key older = some r then ⟨r, outcome, now⟩ :: settlements key older
    else settlements key older
  | .joined _ _ _ _ :: older => settlements key older
  | .invalidated _ :: older => settlements key older
  | .called _ _ :: older => settlements key older
  | .hit _ _ _ :: older => settlements key older

/-- An invalidation of the key came after its last settled outcome. -/
def outdated (key : Key) : History V → Bool
  | [] => false
  | .seen k r _ _ :: older =>
    if k = key ∧ attached key older = some r then false else outdated key older
  | .invalidated start :: older => key.startsWith start || outdated key older
  | .joined _ _ _ _ :: older => outdated key older
  | .called _ _ :: older => outdated key older
  | .hit _ _ _ :: older => outdated key older

def newRequest? : CacheEvent V → Option Nat
  | .joined _ _ r true => some r
  | _ => none

def started (h : History V) : List Nat :=
  h.filterMap newRequest?

def StartedOn (key : Key) (r : Nat) (h : History V) : Prop :=
  ∃ caller, .joined caller key r true ∈ h

/-- The caller whose call an event answers at once or binds to a request. -/
def served? : CacheEvent V → Option Nat
  | .hit caller _ _ => some caller
  | .joined caller _ _ _ => some caller
  | _ => none

def Unserved (caller : Nat) (h : History V) : Prop :=
  ∀ e ∈ h, served? e ≠ some caller

/-- What an event needs. Nobody starts a request while one is attached or under an old number, nobody joins one
that is not attached, an answer at once comes from the last settled outcome while it is not outdated, and an
outcome is brought by a caller that has joined its request. -/
def Allowed : CacheEvent V → History V → Prop
  | .called caller _, older => Unserved caller older ∧ ∀ key, .called caller key ∉ older
  | .hit caller key source, older =>
    .called caller key ∈ older ∧ Unserved caller older ∧ outdated key older = false ∧
      ∃ last, (settlements key older).head? = some last ∧ source = some last.request
  | .joined caller key r true, older =>
    .called caller key ∈ older ∧ Unserved caller older ∧ attached key older = none ∧ r ∉ started older
  | .joined caller key r false, older =>
    .called caller key ∈ older ∧ Unserved caller older ∧ attached key older = some r
  | .seen key r _ _, older => ∃ caller isNew, .joined caller key r isNew ∈ older
  | .invalidated _, _ => True

def Orderly : History V → Prop
  | [] => True
  | e :: older => Allowed e older ∧ Orderly older

theorem StartedOn.mono {key : Key} {r : Nat} {h more : History V} (on : StartedOn key r h) (inside : h ⊆ more) :
    StartedOn key r more := by
  obtain ⟨caller, member⟩ := on
  exact ⟨caller, inside member⟩

theorem StartedOn.later {key : Key} {r : Nat} {before : History V} (on : StartedOn key r before)
    (after : History V) (e : CacheEvent V) : StartedOn key r (after ++ e :: before) :=
  on.mono fun _ member => List.mem_append_right after (List.mem_cons_of_mem e member)

theorem StartedOn.weaken {key : Key} {r : Nat} {h : History V} (on : StartedOn key r h) (e : CacheEvent V) :
    StartedOn key r (e :: h) :=
  on.mono (List.subset_cons_self e h)

theorem mem_started {r : Nat} {h : History V} : r ∈ started h ↔ ∃ key, StartedOn key r h := by
  constructor
  · intro member
    obtain ⟨e, present, new⟩ := List.mem_filterMap.mp member
    cases e with
    | joined caller key request isNew =>
      cases isNew with
      | true =>
        obtain rfl : request = r := by simpa [newRequest?] using new
        exact ⟨key, caller, present⟩
      | false => simp [newRequest?] at new
    | called caller key => simp [newRequest?] at new
    | hit caller key source => simp [newRequest?] at new
    | seen key request outcome now => simp [newRequest?] at new
    | invalidated start => simp [newRequest?] at new
  · rintro ⟨key, caller, present⟩
    exact List.mem_filterMap.mpr ⟨_, present, rfl⟩

theorem attached_started {key : Key} {r : Nat} {h : History V} (on : attached key h = some r) :
    StartedOn key r h := by
  induction h with
  | nil => simp [attached] at on
  | cons e older ih =>
    cases e with
    | joined caller k request isNew =>
      cases isNew with
      | true =>
        by_cases same : k = key
        · subst k
          obtain rfl : request = r := by simpa [attached] using on
          exact ⟨caller, List.mem_cons_self⟩
        · exact (ih (by simpa [attached, same] using on)).weaken _
      | false => exact (ih on).weaken _
    -- The other events only detach.
    | seen k request outcome now =>
      simp only [attached] at on
      split at on
      · simp at on
      · exact (ih on).weaken _
    | invalidated start =>
      simp only [attached] at on
      split at on
      · simp at on
      · exact (ih on).weaken _
    | called caller k => exact (ih on).weaken _
    | hit caller k source => exact (ih on).weaken _

/-- An attached request stays attached until an outcome of it is seen or an invalidation reaches its key. -/
theorem attached_until {key : Key} {r : Nat} {h : History V} {e : CacheEvent V} (on : attached key h = some r)
    (allowed : Allowed e h) :
    attached key (e :: h) = some r ∨ (∃ outcome now, e = .seen key r outcome now) ∨
      ∃ start, e = .invalidated start ∧ key.startsWith start = true := by
  cases e with
  | joined caller k request isNew =>
    cases isNew with
    | true =>
      have differ : k ≠ key := by
        rintro rfl
        rw [allowed.2.2.1] at on
        simp at on
      left
      simpa [attached, differ] using on
    | false => exact .inl on
  | seen k request outcome now =>
    by_cases here : k = key ∧ attached key h = some request
    · obtain ⟨rfl, same⟩ := here
      obtain rfl : request = r := Option.some.inj (same.symm.trans on)
      exact .inr (.inl ⟨outcome, now, rfl⟩)
    · left
      simpa only [attached, if_neg here] using on
  | invalidated start =>
    cases below : key.startsWith start with
    | true => exact .inr (.inr ⟨start, rfl, below⟩)
    | false =>
      left
      simpa [attached, below] using on
  | called caller k => exact .inl on
  | hit caller k source => exact .inl on

theorem settlements_mono {key : Key} {s : Settlement V} {after before : History V}
    (settled : s ∈ settlements key before) : s ∈ settlements key (after ++ before) := by
  induction after with
  | nil => exact settled
  | cons e rest ih =>
    cases e with
    | seen k r outcome now =>
      simp only [List.cons_append, settlements]
      split
      · exact List.mem_cons_of_mem _ ih
      · exact ih
    | joined caller k r isNew => exact ih
    | invalidated start => exact ih
    | called caller k => exact ih
    | hit caller k source => exact ih

theorem settlement_seen {key : Key} {s : Settlement V} {h : History V} (settled : s ∈ settlements key h) :
    .seen key s.request s.outcome s.time ∈ h ∧ StartedOn key s.request h := by
  induction h with
  | nil => simp [settlements] at settled
  | cons e older ih =>
    have rest (inside : s ∈ settlements key older) :
        .seen key s.request s.outcome s.time ∈ e :: older ∧ StartedOn key s.request (e :: older) :=
      ⟨List.mem_cons_of_mem e (ih inside).1, (ih inside).2.weaken e⟩
    cases e with
    | seen k r outcome now =>
      simp only [settlements] at settled
      split at settled
      · rename_i current
        obtain ⟨rfl, on⟩ := current
        rcases List.mem_cons.mp settled with rfl | inside
        · exact ⟨List.mem_cons_self, (attached_started on).weaken _⟩
        · exact rest inside
      · exact rest settled
    | joined caller k r isNew => exact rest settled
    | invalidated start => exact rest settled
    | called caller k => exact rest settled
    | hit caller k source => exact rest settled

theorem Allowed.unserved {e : CacheEvent V} {older : History V} {caller : Nat} (allowed : Allowed e older)
    (serves : served? e = some caller) : Unserved caller older := by
  cases e with
  | hit i key source =>
    obtain rfl : i = caller := by simpa [served?] using serves
    exact allowed.2.1
  | joined i key r isNew =>
    obtain rfl : i = caller := by simpa [served?] using serves
    cases isNew with
    | true => exact allowed.2.1
    | false => exact allowed.2.1
  | called i key => simp [served?] at serves
  | seen key r outcome now => simp [served?] at serves
  | invalidated start => simp [served?] at serves

theorem Allowed.caller {e : CacheEvent V} {older : History V} {caller : Nat} (allowed : Allowed e older)
    (serves : served? e = some caller) : ∃ key, .called caller key ∈ older := by
  cases e with
  | hit i key source =>
    obtain rfl : i = caller := by simpa [served?] using serves
    exact ⟨key, allowed.1⟩
  | joined i key r isNew =>
    obtain rfl : i = caller := by simpa [served?] using serves
    cases isNew with
    | true => exact ⟨key, allowed.1⟩
    | false => exact ⟨key, allowed.1⟩
  | called i key => simp [served?] at serves
  | seen key r outcome now => simp [served?] at serves
  | invalidated start => simp [served?] at serves

namespace Orderly

theorem suffix {after h : History V} (o : Orderly (after ++ h)) : Orderly h := by
  induction after with
  | nil => exact o
  | cons e rest ih => exact ih o.2

theorem allowed {after before : History V} {e : CacheEvent V} (o : Orderly (after ++ e :: before)) :
    Allowed e before :=
  o.suffix.1

theorem distinct {h : History V} (o : Orderly h) : (started h).Nodup := by
  induction h with
  | nil => exact List.nodup_nil
  | cons e older ih =>
    have rest := ih o.2
    cases e with
    | joined caller key r isNew =>
      cases isNew with
      | true => exact List.nodup_cons.mpr ⟨o.1.2.2.2, rest⟩
      | false => exact rest
    | seen key r outcome now => exact rest
    | invalidated start => exact rest
    | called caller key => exact rest
    | hit caller key source => exact rest

theorem started_apart {after before : History V} (o : Orderly (after ++ before)) {key other : Key} {r : Nat}
    (on : StartedOn key r after) : ¬StartedOn other r before := by
  intro too
  have split : started (after ++ before) = started after ++ started before := List.filterMap_append
  have apart := List.nodup_append.mp (split ▸ o.distinct)
  exact apart.2.2 r (mem_started.mpr ⟨key, on⟩) r (mem_started.mpr ⟨other, too⟩) rfl

theorem same_key {h : History V} (o : Orderly h) {key other : Key} {r : Nat} (on : StartedOn key r h)
    (too : StartedOn other r h) : key = other := by
  induction h with
  | nil => exact absurd on.choose_spec List.not_mem_nil
  | cons e older ih =>
    have fresh (caller : Nat) (k : Key) (same : CacheEvent.joined caller k r true = e) (k' : Key) :
        ¬StartedOn k' r older := by
      subst e
      intro again
      exact o.1.2.2.2 (mem_started.mpr ⟨k', again⟩)
    obtain ⟨i, first⟩ := on
    obtain ⟨j, second⟩ := too
    rcases List.mem_cons.mp first with here | before <;> rcases List.mem_cons.mp second with here' | before'
    · have both := here.trans here'.symm
      simp only [CacheEvent.joined.injEq] at both
      exact both.2.1
    · exact absurd ⟨j, before'⟩ (fresh i key here other)
    · exact absurd ⟨i, before⟩ (fresh j other here' key)
    · exact ih o.2 ⟨i, before⟩ ⟨j, before'⟩

theorem joined_started {h : History V} (o : Orderly h) {caller : Nat} {key : Key} {r : Nat} {isNew : Bool}
    (joined : .joined caller key r isNew ∈ h) : StartedOn key r h := by
  cases isNew with
  | true => exact ⟨caller, joined⟩
  | false =>
    obtain ⟨after, before, rfl⟩ := List.append_of_mem joined
    have on : attached key before = some r := o.allowed.2.2
    exact (attached_started on).later after _

/-- A settled request is never attached again. -/
theorem detached_of_settled {h : History V} (o : Orderly h) {key other : Key} {s : Settlement V}
    (settled : s ∈ settlements key h) : attached other h ≠ some s.request := by
  induction h with
  | nil => simp [attached]
  | cons e older ih =>
    cases e with
    | joined caller k r isNew =>
      cases isNew with
      | true =>
        simp only [attached]
        split
        · intro same
          obtain rfl := Option.some.inj same
          exact o.1.2.2.2 (mem_started.mpr ⟨key, (settlement_seen (h := older) settled).2⟩)
        · exact ih o.2 settled
      | false => exact ih o.2 settled
    | seen k r outcome now =>
      simp only [settlements] at settled
      have older_ne (inside : s ∈ settlements key older) :
          attached other (.seen k r outcome now :: older) ≠ some s.request := by
        simp only [attached]
        split
        · simp
        · exact ih o.2 inside
      split at settled
      · rename_i current
        obtain ⟨rfl, on⟩ := current
        rcases List.mem_cons.mp settled with rfl | inside
        · simp only [attached]
          split
          · simp
          · rename_i elsewhere
            intro again
            -- A request attached to two keys would have been started on both.
            have same := o.2.same_key (attached_started on) (attached_started again)
            exact elsewhere ⟨same, again⟩
        · exact older_ne inside
      · exact older_ne settled
    | invalidated start =>
      simp only [attached]
      split
      · simp
      · exact ih o.2 settled
    | called caller k => exact ih o.2 settled
    | hit caller k source => exact ih o.2 settled

theorem settled_once {h : History V} (o : Orderly h) (key : Key) :
    ((settlements key h).map Settlement.request).Nodup := by
  induction h with
  | nil => exact List.nodup_nil
  | cons e older ih =>
    have rest := ih o.2
    cases e with
    | seen k r outcome now =>
      simp only [settlements]
      split
      · rename_i current
        refine List.nodup_cons.mpr ⟨?_, rest⟩
        intro again
        obtain ⟨s, settled, same⟩ := List.mem_map.mp again
        have under : attached key older = some s.request := same ▸ current.2
        exact o.2.detached_of_settled settled under
      · exact rest
    | joined caller k r isNew => exact rest
    | invalidated start => exact rest
    | called caller k => exact rest
    | hit caller k source => exact rest

theorem served_once {h : History V} (o : Orderly h) {caller : Nat} {e other : CacheEvent V} (here : e ∈ h)
    (too : other ∈ h) (serves : served? e = some caller) (also : served? other = some caller) : e = other := by
  induction h with
  | nil => exact absurd here List.not_mem_nil
  | cons newest older ih =>
    rcases List.mem_cons.mp here with rfl | before <;> rcases List.mem_cons.mp too with rfl | before'
    · rfl
    · exact absurd also (o.1.unserved serves other before')
    · exact absurd serves (o.1.unserved also e before)
    · exact ih o.2 before before'

theorem served_called {h : History V} (o : Orderly h) {caller : Nat} {e : CacheEvent V} (here : e ∈ h)
    (serves : served? e = some caller) : ∃ key, .called caller key ∈ h := by
  obtain ⟨after, before, rfl⟩ := List.append_of_mem here
  obtain ⟨key, called⟩ := o.allowed.caller serves
  exact ⟨key, List.mem_append_right after (List.mem_cons_of_mem e called)⟩

theorem served_since {after before : History V} (o : Orderly (after ++ before)) {caller : Nat} {key : Key}
    (called : .called caller key ∈ after) {e : CacheEvent V} (here : e ∈ after ++ before)
    (serves : served? e = some caller) : e ∈ after := by
  rcases List.mem_append.mp here with inside | earlier
  · exact inside
  · obtain ⟨late, early, rfl⟩ := List.append_of_mem called
    rw [List.append_assoc, List.cons_append] at o
    exact absurd serves (o.allowed.1 e (List.mem_append_right early earlier))

theorem hit_settled {h : History V} (o : Orderly h) {caller : Nat} {key : Key} {source : Option Nat}
    (answered : .hit caller key source ∈ h) : ∃ s ∈ settlements key h, source = some s.request := by
  obtain ⟨after, before, rfl⟩ := List.append_of_mem answered
  obtain ⟨-, -, -, last, found, same⟩ := o.allowed
  have settled : last ∈ settlements key (.hit caller key source :: before) := List.mem_of_head? found
  exact ⟨last, settlements_mono settled, same⟩

end Orderly

/-! After an invalidation of the key. -/

section Since

variable {key start : Key} {after before : History V} (below : key.startsWith start = true)

include below

theorem attached_since {r : Nat} (on : attached key (after ++ .invalidated start :: before) = some r) :
    StartedOn key r after := by
  induction after with
  | nil => simp [attached, below] at on
  | cons e rest ih =>
    cases e with
    | joined caller k request isNew =>
      cases isNew with
      | true =>
        by_cases same : k = key
        · subst k
          obtain rfl : request = r := by simpa [attached] using on
          exact ⟨caller, List.mem_cons_self⟩
        · exact (ih (by simpa [attached, same] using on)).weaken _
      | false => exact (ih on).weaken _
    | seen k request outcome now =>
      simp only [List.cons_append, attached] at on
      split at on
      · simp at on
      · exact (ih on).weaken _
    | invalidated other =>
      simp only [List.cons_append, attached] at on
      split at on
      · simp at on
      · exact (ih on).weaken _
    | called caller k => exact (ih on).weaken _
    | hit caller k source => exact (ih on).weaken _

/-- When no invalidation came after the last settled outcome, its request was started since. -/
theorem settled_since {last : Settlement V}
    (found : (settlements key (after ++ .invalidated start :: before)).head? = some last)
    (current : outdated key (after ++ .invalidated start :: before) = false) :
    StartedOn key last.request after := by
  induction after with
  | nil => simp [outdated, below] at current
  | cons e rest ih =>
    cases e with
    | seen k r outcome now =>
      simp only [List.cons_append, settlements, outdated] at found current
      split at found
      · rename_i now_attached
        obtain rfl := Option.some.inj found
        exact (attached_since below now_attached.2).weaken _
      · rename_i other
        rw [if_neg other] at current
        exact (ih found current).weaken _
    | invalidated other =>
      simp only [List.cons_append, outdated, Bool.or_eq_false_iff] at current
      exact (ih found current.2).weaken _
    | joined caller k r isNew => exact (ih found current).weaken _
    | called caller k => exact (ih found current).weaken _
    | hit caller k source => exact (ih found current).weaken _

theorem settled_before_or_since {s : Settlement V}
    (settled : s ∈ settlements key (after ++ .invalidated start :: before)) :
    s ∈ settlements key before ∨ StartedOn key s.request after := by
  induction after with
  | nil => exact .inl settled
  | cons e rest ih =>
    have later (inside : s ∈ settlements key (rest ++ .invalidated start :: before)) :
        s ∈ settlements key before ∨ StartedOn key s.request (e :: rest) :=
      (ih inside).imp_right fun on => on.weaken e
    cases e with
    | seen k r outcome now =>
      simp only [List.cons_append, settlements] at settled
      split at settled
      · rename_i now_attached
        rcases List.mem_cons.mp settled with rfl | inside
        · exact .inr ((attached_since below now_attached.2).weaken _)
        · exact later inside
      · exact later settled
    | joined caller k r isNew => exact later settled
    | invalidated other => exact later settled
    | called caller k => exact later settled
    | hit caller k source => exact later settled

theorem joined_since (o : Orderly (after ++ .invalidated start :: before)) {caller : Nat} {r : Nat}
    {isNew : Bool} (joined : .joined caller key r isNew ∈ after) : StartedOn key r after := by
  cases isNew with
  | true => exact ⟨caller, joined⟩
  | false =>
    obtain ⟨late, early, rfl⟩ := List.append_of_mem joined
    rw [List.append_assoc, List.cons_append] at o
    have on : attached key (early ++ .invalidated start :: before) = some r := o.allowed.2.2
    exact (attached_since below on).later late _

theorem hit_since (o : Orderly (after ++ .invalidated start :: before)) {caller : Nat} {source : Option Nat}
    (answered : .hit caller key source ∈ after) : ∃ r, source = some r ∧ StartedOn key r after := by
  obtain ⟨late, early, rfl⟩ := List.append_of_mem answered
  rw [List.append_assoc, List.cons_append] at o
  obtain ⟨-, -, current, last, found, same⟩ := o.allowed
  have on := settled_since below found current
  exact ⟨last.request, same, on.later late _⟩

end Since

end History
end TradingDesk
