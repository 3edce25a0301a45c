import TradingDesk.Proofs.Cache.Callers

/-! What can happen in one moment, as long as no new answer comes. Requests that begin in the moment stay open, since
nobody can have answered them, so a slot settles at most once: by the request that it waited for before. -/

namespace TradingDesk

/-- Every number in use was given out. -/
structure Traffic.Numbered {V : Type} (t : Traffic V) : Prop where
  flights : ∀ key flight, (t.cache.slotAt key).flight = some flight → flight.id < t.cache.nextRequest
  callers : ∀ entry ∈ t.callers, entry.2.request < t.cache.nextRequest
  requests : ∀ entry ∈ t.requests, entry.1 < t.cache.nextRequest

namespace Traffic

variable {V : Type}

theorem Numbered.caller {t : Traffic V} (numbered : Numbered t) {name : String} {caller : Caller V}
    (found : t.callers.lookup name = some caller) : caller.request < t.cache.nextRequest := by
  obtain ⟨front, back, split, _⟩ := List.lookup_eq_some_iff.mp found
  refine numbered.callers (name, caller) ?_
  rw [split]
  exact List.mem_append_right front List.mem_cons_self

/-- What a moment that began with `first` as the next number can have done to a slot. -/
inductive Turn (first : Nat) (t : Traffic V) (before after : Slot V) : Prop where
  | kept (data : after.data = before.data) (generation : after.generation = before.generation)
    (flight : after.flight = before.flight ∨
      before.flight = none ∧ ∀ flight, after.flight = some flight → first ≤ flight.id)
  | settled (flight : Flight) (outcome : Outcome V) (under : before.flight = some flight)
    (finished : (t.request flight.id).outcome = some outcome)
    (data : after.data = outcome.toOption.or before.data) (generation : after.generation = before.generation)
    (fresh : ∀ flight, after.flight = some flight → first ≤ flight.id)

theorem Turn.later {first : Nat} {t next : Traffic V} {before after : Slot V} (turn : Turn first t before after)
    (outcomes : ∀ r outcome, (t.request r).outcome = some outcome → (next.request r).outcome = some outcome) :
    Turn first next before after := by
  cases turn with
  | kept data generation flight => exact .kept data generation flight
  | settled flight outcome under finished data generation fresh =>
    exact .settled flight outcome under (outcomes _ _ finished) data generation fresh

theorem flight_of_waits {s : Slot V} {id : Nat} (waits : s.waitsFor id = true) :
    ∃ flight, s.flight = some flight ∧ flight.id = id := by
  unfold Slot.waitsFor at waits
  cases under : s.flight with
  | none => simp [under] at waits
  | some flight =>
    simp only [under, Bool.and_eq_true, beq_iff_eq] at waits
    exact ⟨flight, rfl, waits.1⟩

/-- Only the request from before the moment can be finished. -/
theorem Turn.settle {first : Nat} {t : Traffic V} {before after : Slot V} (turn : Turn first t before after)
    {flight : Flight} {outcome : Outcome V} (under : after.flight = some flight)
    (finished : (t.request flight.id).outcome = some outcome)
    (unfinished : first ≤ flight.id → (t.request flight.id).outcome = none) (now : Nat) :
    Turn first t before (after.settled outcome now) := by
  have older : ¬first ≤ flight.id := by
    intro young
    rw [unfinished young] at finished
    exact nomatch finished
  cases turn with
  | kept data generation same =>
    rcases same with same | ⟨_, fresh⟩
    · refine .settled flight outcome (same ▸ under) finished ?_ ?_ ?_
      · rw [← data]
        cases outcome <;> rfl
      · rw [← generation]
        cases outcome <;> rfl
      · rw [Cache.flight_settled]
        exact nofun
    · exact absurd (fresh flight under) older
  | settled _ _ _ _ _ _ fresh => exact absurd (fresh flight under) older

theorem Turn.start {first : Nat} {t : Traffic V} {before after : Slot V} (turn : Turn first t before after)
    (idle : after.flight = none) {flight : Flight} (young : first ≤ flight.id) :
    Turn first t before { after with flight := some flight } := by
  have fresh : ∀ other, some flight = some other → first ≤ other.id := by
    rintro other ⟨rfl⟩
    exact young
  cases turn with
  | kept data generation same =>
    refine .kept data generation (.inr ⟨?_, fresh⟩)
    rcases same with same | ⟨free, _⟩
    · exact same.symm.trans idle
    · exact free
  | settled old outcome under finished data generation _ =>
    exact .settled old outcome under finished data generation fresh

theorem request_unknown {t : Traffic V} (numbered : Numbered t) {r : Nat} (high : t.cache.nextRequest ≤ r) :
    (t.request r).outcome = none := by
  have absent : t.requests.lookup r = none := by
    rw [List.lookup_eq_none_iff]
    intro entry member
    have below := numbered.requests entry member
    rw [bne_iff_ne]
    omega
  unfold request
  rw [absent]
  rfl

/-- Without an answer a request stays open. -/
theorem driven_open {world : World V} {now : Nat} {caller : Caller V} {t : Traffic V}
    (unfinished : (t.request caller.request).outcome = none)
    (unanswered : ∀ n since, world caller.request n since = none) : (driven world now caller t).outcome = none := by
  unfold driven
  rw [Attempts.drive, unfinished]
  simp only [unanswered]

/-- Nobody has answered a request that is yet to begin. -/
def Timely (world : World V) (t : Traffic V) : Prop :=
  ∀ r n since, t.cache.nextRequest ≤ r → world r n since = none

structure Moment (t next : Traffic V) : Prop where
  numbered : Numbered next
  number : t.cache.nextRequest ≤ next.cache.nextRequest
  outcomes : ∀ r outcome, (t.request r).outcome = some outcome → (next.request r).outcome = some outcome
  unfinished : ∀ r, t.cache.nextRequest ≤ r → (next.request r).outcome = none
  slots : ∀ key, Turn t.cache.nextRequest next (t.cache.slotAt key) (next.cache.slotAt key)

namespace Moment

variable {t next : Traffic V}

theorem refl (numbered : Numbered t) : Moment t t where
  numbered := numbered
  number := Nat.le_refl _
  outcomes := fun _ _ done => done
  unfinished := fun _ high => request_unknown numbered high
  slots := fun _ => .kept rfl rfl (.inl rfl)

theorem drop (moment : Moment t next) (name : String) : Moment t (next.drop name) where
  numbered :=
    ⟨moment.numbered.flights, fun entry member => moment.numbered.callers entry (List.mem_filter.mp member).1,
      moment.numbered.requests⟩
  number := moment.number
  outcomes := moment.outcomes
  unfinished := moment.unfinished
  slots := fun key => (moment.slots key).later fun _ _ done => done

theorem setRequest (moment : Moment t next) {world : World V} (timely : Timely world t) (now : Nat) (caller : Caller V)
    (known : caller.request < next.cache.nextRequest) :
    Moment t (next.setRequest caller.request (driven world now caller next)) := by
  have outcomes : ∀ r outcome, (next.request r).outcome = some outcome →
      ((next.setRequest caller.request (driven world now caller next)).request r).outcome = some outcome := by
    intro r outcome done
    rw [request_setRequest]
    split
    · rename_i same
      subst same
      rw [driven_finished world now caller next outcome done]
      exact done
    · exact done
  refine ⟨⟨moment.numbered.flights, moment.numbered.callers, ?_⟩, moment.number, ?_, ?_, ?_⟩
  · intro entry member
    rcases List.mem_cons.mp member with rfl | old
    · exact known
    · exact moment.numbered.requests entry (List.mem_filter.mp old).1
  · exact fun r outcome done => outcomes r outcome (moment.outcomes r outcome done)
  · intro r high
    rw [request_setRequest]
    split
    · rename_i same
      subst same
      exact driven_open (moment.unfinished _ high) fun n since => timely _ n since high
    · exact moment.unfinished r high
  · exact fun key => (moment.slots key).later outcomes

theorem settle (moment : Moment t next) (key : Key) (id : Nat) (outcome : Outcome V) (now : Nat)
    (finished : (next.request id).outcome = some outcome) :
    Moment t { next with cache := (next.cache.settle key id outcome now).1 } := by
  cases waits : (next.cache.slotAt key).waitsFor id with
  | false =>
    rw [Cache.settle_other key id outcome now next.cache waits]
    exact ⟨moment.numbered, moment.number, moment.outcomes, moment.unfinished, moment.slots⟩
  | true =>
    rw [Cache.settle_waiting key id outcome now next.cache waits]
    obtain ⟨flight, under, rfl⟩ := flight_of_waits waits
    refine ⟨⟨?_, moment.numbered.callers, moment.numbered.requests⟩, moment.number, moment.outcomes,
      moment.unfinished, ?_⟩
    · intro other flight flies
      rw [Cache.slotAt_setSlot] at flies
      split at flies
      · rw [Cache.flight_settled] at flies
        exact nomatch flies
      · exact moment.numbered.flights other flight flies
    · intro other
      rw [Cache.slotAt_setSlot]
      split
      · rename_i same
        subst same
        exact ((moment.slots other).settle under finished (moment.unfinished flight.id) now).later fun _ _ done => done
      · exact (moment.slots other).later fun _ _ done => done

theorem joined (moment : Moment t next) (name : String) (accepts : V → Bool) (key : Key) :
    Moment t (next.joined name accepts key) ∧
      (next.cache.joinOrStart key).2.1 < (next.joined name accepts key).cache.nextRequest := by
  unfold Traffic.joined
  cases under : (next.cache.slotAt key).flight with
  | some flight =>
    rw [Cache.joinOrStart_flight key next.cache flight under]
    have known := moment.numbered.flights key flight under
    refine ⟨⟨⟨moment.numbered.flights, ?_, moment.numbered.requests⟩, moment.number, moment.outcomes,
      moment.unfinished, ?_⟩, known⟩
    · intro entry member
      rcases List.mem_cons.mp member with rfl | old
      · exact known
      · exact moment.numbered.callers entry (List.mem_filter.mp old).1
    · exact fun other => (moment.slots other).later fun _ _ done => done
  | none =>
    rw [Cache.joinOrStart_start key next.cache under]
    have grows := Nat.lt_succ_self next.cache.nextRequest
    refine ⟨⟨⟨?_, ?_, ?_⟩, Nat.le_succ_of_le moment.number, moment.outcomes, moment.unfinished, ?_⟩, grows⟩
    · intro other flight flies
      change ((next.cache.setSlot key _).slotAt other).flight = some flight at flies
      rw [Cache.slotAt_setSlot] at flies
      split at flies
      · obtain rfl := Option.some.inj flies
        exact grows
      · exact Nat.lt_succ_of_lt (moment.numbered.flights other flight flies)
    · intro entry member
      rcases List.mem_cons.mp member with rfl | old
      · exact grows
      · exact Nat.lt_succ_of_lt (moment.numbered.callers entry (List.mem_filter.mp old).1)
    · exact fun entry member => Nat.lt_succ_of_lt (moment.numbered.requests entry member)
    · intro other
      change Turn _ _ _ ((next.cache.setSlot key _).slotAt other)
      rw [Cache.slotAt_setSlot]
      split
      · rename_i same
        subst same
        exact ((moment.slots other).start under moment.number).later fun _ _ done => done
      · exact (moment.slots other).later fun _ _ done => done

theorem pollCaller (moment : Moment t next) {world : World V} (timely : Timely world t) (now : Nat) (name : String)
    (caller : Caller V) (known : caller.request < next.cache.nextRequest) :
    Moment t (next.pollCaller world now name caller).1 := by
  have set := moment.setRequest timely now caller known
  cases finished : (driven world now caller next).outcome with
  | none =>
    rw [(pollCaller_unfinished world now name caller next finished).1]
    exact set
  | some outcome =>
    rw [(pollCaller_finished world now name caller next outcome finished).1]
    refine (set.settle caller.key caller.request outcome now ?_).drop name
    rw [request_setRequest, if_pos rfl]
    exact finished

theorem start (moment : Moment t next) {world : World V} (timely : Timely world t) (now : Nat) (name : String)
    (mode : FetchMode) (accepts : V → Bool) (key : Key) :
    Moment t (next.start world now name mode accepts key).1 := by
  rcases start_cases world now name mode accepts key next with ⟨v, _, hit⟩ | ⟨_, asks⟩
  · rw [hit]
    exact moment
  · rw [asks]
    obtain ⟨joins, known⟩ := moment.joined name accepts key
    exact joins.pollCaller timely now name _ known

end Moment

/-! What a call asks for. -/

/-- At most one request has begun, and that is for the key. -/
def Begins (key : Key) (t next : Traffic V) : Prop :=
  ∀ other flight, (next.cache.slotAt other).flight = some flight →
    (t.cache.slotAt other).flight = some flight ∨
      other = key ∧ flight.id = t.cache.nextRequest ∧ t.cache.nextRequest < next.cache.nextRequest

section

variable (world : World V) (now : Nat) (name : String)

theorem flights_pollCaller (caller : Caller V) (t : Traffic V) :
    (t.pollCaller world now name caller).1.cache.nextRequest = t.cache.nextRequest ∧
      ∀ key flight, ((t.pollCaller world now name caller).1.cache.slotAt key).flight = some flight →
        (t.cache.slotAt key).flight = some flight := by
  cases finished : (driven world now caller t).outcome with
  | none =>
    rw [(pollCaller_unfinished world now name caller t finished).1]
    exact ⟨rfl, fun _ _ flies => flies⟩
  | some outcome =>
    rw [(pollCaller_finished world now name caller t outcome finished).1]
    refine ⟨Cache.nextRequest_settle caller.key caller.request outcome now t.cache, fun key flight flies => ?_⟩
    change ((t.cache.settle caller.key caller.request outcome now).1.slotAt key).flight = some flight at flies
    by_cases same : key = caller.key
    · subst same
      rw [Cache.slotAt_settle] at flies
      split at flies
      · rw [Cache.flight_settled] at flies
        exact nomatch flies
      · exact flies
    · rw [Cache.slotAt_settle_other caller.key key caller.request outcome now t.cache same] at flies
      exact flies

theorem begins_pollCaller (key : Key) (caller : Caller V) (t : Traffic V) :
    Begins key t (t.pollCaller world now name caller).1 :=
  fun other flight flies => .inl ((flights_pollCaller world now name caller t).2 other flight flies)

theorem begins_start (mode : FetchMode) (accepts : V → Bool) (key : Key) (t : Traffic V) :
    Begins key t (t.start world now name mode accepts key).1 := by
  intro other flight flies
  rcases start_cases world now name mode accepts key t with ⟨v, _, hit⟩ | ⟨_, asks⟩
  · rw [hit] at flies
    exact .inl flies
  · rw [asks] at flies ⊢
    obtain ⟨number, flights⟩ := flights_pollCaller world now name
      ⟨key, (t.cache.joinOrStart key).2.1, accepts⟩ (t.joined name accepts key)
    have joins := flights other flight flies
    rw [number]
    unfold Traffic.joined at joins ⊢
    cases under : (t.cache.slotAt key).flight with
    | some old =>
      rw [Cache.joinOrStart_flight key t.cache old under] at joins
      exact .inl joins
    | none =>
      rw [Cache.joinOrStart_start key t.cache under] at joins ⊢
      change ((t.cache.setSlot key _).slotAt other).flight = some flight at joins
      rw [Cache.slotAt_setSlot] at joins
      split at joins
      · rename_i same
        obtain rfl := Option.some.inj joins
        exact .inr ⟨same, rfl, Nat.lt_succ_self t.cache.nextRequest⟩
      · exact .inl joins

end

/-- A call for a key. What it does is a moment, whenever the moment began. -/
structure Call (world : World V) (key : Key) (t next : Traffic V) : Prop where
  moment : ∀ base : Traffic V, base.Moment t → Timely world base → base.Moment next
  begins : Begins key t next

theorem call_pollCaller (world : World V) (now : Nat) (key : Key) {name : String} {caller : Caller V} {t : Traffic V}
    (found : t.callers.lookup name = some caller) : Call world key t (t.pollCaller world now name caller).1 where
  moment := fun _ moment timely => moment.pollCaller timely now name caller (moment.numbered.caller found)
  begins := begins_pollCaller world now name key caller t

theorem call_start (world : World V) (now : Nat) (name : String) (mode : FetchMode) (accepts : V → Bool) (key : Key)
    (t : Traffic V) : Call world key t (t.start world now name mode accepts key).1 where
  moment := fun _ moment timely => moment.start timely now name mode accepts key
  begins := begins_start world now name mode accepts key t

end Traffic
end TradingDesk
