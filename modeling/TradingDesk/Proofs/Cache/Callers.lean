import TradingDesk.Cache.Poller
import TradingDesk.Proofs.Cache.Slots

/-! What a poll, a start and a drop do to the callers and the requests of a traffic, and how a poller goes on. -/

namespace TradingDesk
namespace Traffic

variable {V : Type}

private theorem lookup_without {α β : Type} [BEq α] [LawfulBEq α] (key other : α) (l : List (α × β)) :
    (l.filter fun entry => entry.1 != key).lookup other = if other == key then none else l.lookup other := by
  induction l with
  | nil => simp
  | cons entry rest ih =>
    obtain ⟨head, value⟩ := entry
    by_cases gone : head = key
    · subst head
      rw [List.filter_cons_of_neg (by simp), ih, List.lookup_cons]
      by_cases same : other = key
      · simp [same]
      · have differ : (other == key) = false := beq_eq_false_iff_ne.mpr same
        rw [differ]
    · rw [List.filter_cons_of_pos (by simp [gone]), List.lookup_cons, List.lookup_cons, ih]
      by_cases same : other = head
      · subst same
        simp [gone]
      · have differ : (other == head) = false := beq_eq_false_iff_ne.mpr same
        rw [differ]

theorem request_setRequest (id other : Nat) (r : Attempts V) (t : Traffic V) :
    (t.setRequest id r).request other = if other = id then r else t.request other := by
  unfold request setRequest
  rw [List.lookup_cons, lookup_without]
  by_cases same : other = id
  · simp [same]
  · have differ : (other == id) = false := beq_eq_false_iff_ne.mpr same
    simp [differ, same]

theorem lookup_drop (name other : String) (t : Traffic V) :
    (t.drop name).callers.lookup other = if other = name then none else t.callers.lookup other := by
  have found := lookup_without name other t.callers
  simp only [beq_iff_eq] at found
  exact found

def Distinct (t : Traffic V) : Prop :=
  (t.callers.map Prod.fst).Nodup

theorem Distinct.drop {t : Traffic V} (distinct : t.Distinct) (name : String) : (t.drop name).Distinct :=
  distinct.sublist (List.filter_sublist.map Prod.fst)

theorem Distinct.lookup {t : Traffic V} (distinct : t.Distinct) {name : String} {caller : Caller V}
    (member : (name, caller) ∈ t.callers) : t.callers.lookup name = some caller := by
  unfold Distinct at distinct
  obtain ⟨before, after, split⟩ := List.append_of_mem member
  refine List.lookup_eq_some_iff.mpr ⟨before, after, split, ?_⟩
  intro entry early
  rw [split, List.map_append, List.map_cons] at distinct
  have apart := (List.nodup_append.mp distinct).2.2
  have differ := apart entry.1 (List.mem_map_of_mem early) name List.mem_cons_self
  simpa using Ne.symm differ

/-! A poll. -/

section Poll

variable (world : World V) (now : Nat) (name : String) (caller : Caller V) (t : Traffic V)

/-- The caller's request after the poll. -/
def driven : Attempts V :=
  ((t.request caller.request).drive t.cache.options.retries (world caller.request) now).1

theorem pollCaller_unfinished (unfinished : (driven world now caller t).outcome = none) :
    (t.pollCaller world now name caller).1 = t.setRequest caller.request (driven world now caller t) ∧
      (t.pollCaller world now name caller).2.state = none := by
  unfold driven at *
  unfold pollCaller
  simp only [unfinished, and_self]

theorem pollCaller_finished (outcome : Outcome V)
    (finished : (driven world now caller t).outcome = some outcome) :
    (t.pollCaller world now name caller).1 =
      { t.setRequest caller.request (driven world now caller t) with
        cache := (t.cache.settle caller.key caller.request outcome now).1 }.drop name ∧
      (t.pollCaller world now name caller).2.state =
        some (Cache.answerOf caller.accepts caller.key outcome) := by
  unfold driven at *
  unfold pollCaller
  simp only [finished]
  exact ⟨rfl, trivial⟩

end Poll

theorem driven_finished (world : World V) (now : Nat) (caller : Caller V) (t : Traffic V) (outcome : Outcome V)
    (finished : (t.request caller.request).outcome = some outcome) :
    driven world now caller t = t.request caller.request := by
  unfold driven
  rw [Attempts.drive, finished]

/-! A start. -/

section Start

variable (world : World V) (now : Nat) (name : String) (mode : FetchMode) (accepts : V → Bool) (key : Key)
  (t : Traffic V)

/-- The traffic once the caller has joined a request or started one. -/
def joined : Traffic V :=
  { cache := (t.cache.joinOrStart key).1
    requests := t.requests
    callers := (name, ⟨key, (t.cache.joinOrStart key).2.1, accepts⟩) :: (t.drop name).callers }

theorem start_hit (v : V) (asks : mode = .fetch) (fresh : t.cache.fresh? accepts now key = some v) :
    t.start world now name mode accepts key = (t, ⟨some (.data v), []⟩) := by
  simp [start, asks, fresh]

theorem start_joined (missed : mode = .fetch → t.cache.fresh? accepts now key = none) :
    t.start world now name mode accepts key =
      (t.joined name accepts key).pollCaller world now name
        ⟨key, (t.cache.joinOrStart key).2.1, accepts⟩ := by
  have silent : (if mode = .fetch then t.cache.fresh? accepts now key else none) = none := by
    by_cases asks : mode = .fetch
    · rw [if_pos asks, missed asks]
    · rw [if_neg asks]
  unfold start
  simp only [silent]
  rfl

/-- A start takes a fresh value, or asks. -/
theorem start_cases :
    (∃ v, t.cache.fresh? accepts now key = some v ∧
      t.start world now name mode accepts key = (t, ⟨some (.data v), []⟩)) ∨
    (mode = .fetch → t.cache.fresh? accepts now key = none) ∧
      t.start world now name mode accepts key =
        (t.joined name accepts key).pollCaller world now name
          ⟨key, (t.cache.joinOrStart key).2.1, accepts⟩ := by
  by_cases hit : ∃ v, mode = .fetch ∧ t.cache.fresh? accepts now key = some v
  · obtain ⟨v, asks, fresh⟩ := hit
    exact .inl ⟨v, fresh, start_hit world now name mode accepts key t v asks fresh⟩
  · have missed (asks : mode = .fetch) : t.cache.fresh? accepts now key = none := by
      rw [Option.eq_none_iff_forall_ne_some]
      exact fun v fresh => hit ⟨v, asks, fresh⟩
    exact .inr ⟨missed, start_joined world now name mode accepts key t missed⟩

theorem Distinct.joined {t : Traffic V} (distinct : t.Distinct) (name : String) (accepts : V → Bool)
    (key : Key) : (t.joined name accepts key).Distinct := by
  refine List.nodup_cons.mpr ⟨?_, distinct.drop name⟩
  simp [Traffic.drop]

theorem lookup_joined (other : String) : (t.joined name accepts key).callers.lookup other =
    if other = name then some ⟨key, (t.cache.joinOrStart key).2.1, accepts⟩ else t.callers.lookup other := by
  unfold joined
  rw [List.lookup_cons, lookup_drop]
  by_cases same : other = name
  · simp [same]
  · have differ : (other == name) = false := beq_eq_false_iff_ne.mpr same
    simp [differ, same]

end Start

/-! Whoever else calls does not notice. -/

section Others

variable (world : World V) (now : Nat) {name other : String} (apart : other ≠ name) (t : Traffic V)

include apart

theorem lookup_pollCaller (caller : Caller V) :
    (t.pollCaller world now name caller).1.callers.lookup other = t.callers.lookup other := by
  cases finished : (driven world now caller t).outcome with
  | none =>
    rw [(pollCaller_unfinished world now name caller t finished).1]
    rfl
  | some outcome =>
    rw [(pollCaller_finished world now name caller t outcome finished).1, lookup_drop, if_neg apart]
    rfl

theorem lookup_start (mode : FetchMode) (accepts : V → Bool) (key : Key) :
    (t.start world now name mode accepts key).1.callers.lookup other = t.callers.lookup other := by
  rcases start_cases world now name mode accepts key t with ⟨v, _, hit⟩ | ⟨_, asks⟩
  · rw [hit]
  · rw [asks, lookup_pollCaller world now apart, lookup_joined, if_neg apart]

end Others

end Traffic

namespace Poller
open Traffic

variable {V : Type}

/-- A poller that has not ticked waits for nothing and has nothing to show. -/
def Rested (p : Poller V) : Prop :=
  p.first = true → p.waiting = false ∧ p.unseen = false

theorem told_parts (polled : Polled V) (p : Poller V) :
    (p.told polled).key = p.key ∧ (p.told polled).first = p.first := by
  unfold told
  cases polled.state <;> exact ⟨rfl, rfl⟩

/-- To go on, a poller polls the request that it waits for, or starts. -/
theorem advance_parts {world : World V} {now : Nat} {p q : Poller V} {t next : Traffic V} {lines : List LogLine}
    (advanced : p.advance world now t = some (q, next, lines)) :
    q.key = p.key ∧ (p.Rested → q.Rested) ∧
      ((∃ caller, t.callers.lookup callerName = some caller ∧ next = (t.pollCaller world now callerName caller).1) ∨
        ∃ mode, next = (t.start world now callerName mode p.accepts p.key).1) := by
  unfold advance at advanced
  split at advanced
  · rename_i waiting
    unfold Traffic.poll at advanced
    cases found : t.callers.lookup callerName with
    | none => simp [found] at advanced
    | some caller =>
      simp only [found, Option.map_some] at advanced
      split at advanced
      · obtain ⟨rfl, rfl, -⟩ := Option.some.inj advanced
        obtain ⟨key, first⟩ := told_parts (t.pollCaller world now callerName caller).2 p
        refine ⟨key, fun rested fresh => ?_, .inl ⟨caller, rfl, rfl⟩⟩
        rw [first] at fresh
        exact absurd ((rested fresh).1.symm.trans waiting) Bool.false_ne_true
      · obtain ⟨rfl, rfl, -⟩ := Option.some.inj advanced
        exact ⟨rfl, id, .inl ⟨caller, rfl, rfl⟩⟩
  · simp only at advanced
    split at advanced
    · exact nomatch advanced
    · obtain ⟨rfl, rfl, -⟩ := Option.some.inj advanced
      obtain ⟨key, first⟩ := told_parts (t.start world now callerName _ p.accepts p.key).2
        { p with first := false, deadline := some (nextDeadline p.period (p.deadline.getD now) now) }
      refine ⟨key, fun _ fresh => ?_, .inr ⟨_, rfl⟩⟩
      rw [first] at fresh
      exact nomatch fresh

end Poller
end TradingDesk
