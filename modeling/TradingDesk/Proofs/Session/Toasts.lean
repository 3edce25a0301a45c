import TradingDesk.Session.Basic

/-! The toasts of a session. They stand in the queue in the order of their coming, so those that have had their time
stand before those that can still be seen. A queue that was pruned is therefore the end of one that was not, and lacks
nothing that is shown, now or later: what falls out of the longer queue first is what the shorter one has lost
already. -/

namespace TradingDesk

/-- What is asked of the toasts of a session, and when. -/
inductive ToastCall where
  | toast (now : Nat) (level : ToastLevel) (message : String)
  | dismiss (id : Nat)
  | prune (now : Nat)
  | look (now : Nat)

namespace ToastCall

def time? : ToastCall → Option Nat
  | toast now _ _ | prune now | look now => some now
  | dismiss _ => none

def isPrune : ToastCall → Bool
  | prune _ => true
  | _ => false

def make : ToastCall → Session → Session
  | toast now level message, s => s.toast now level message
  | dismiss id, s => { s with toasts := (s.toasts.dismiss id).2 }
  | prune now, s => { s with toasts := (s.toasts.prune now).2 }
  | look _, s => s

/-- What a look shows. -/
def shown? (s : Session) : ToastCall → Option (List Toast)
  | look now => some (s.toasts.visible now)
  | _ => none

/-- No call is earlier than one before it. -/
def Timely (calls : List ToastCall) : Prop :=
  (calls.filterMap time?).Pairwise (· ≤ ·)

end ToastCall

namespace Session

/-- A session when it begins. -/
inductive Begun (timeToLive limit : Nat) : Session → Prop where
  | new : Begun timeToLive limit (.new timeToLive limit)
  | load (p : Preferences) : Begun timeToLive limit (.load p timeToLive limit)

def called (calls : List ToastCall) (s : Session) : Session :=
  calls.foldl (fun s c => c.make s) s

/-- What all the looks show, one after the other. -/
def looks : List ToastCall → Session → List (List Toast)
  | [], _ => []
  | c :: rest, s => (c.shown? s).toList ++ looks rest (c.make s)

end Session

namespace Toasts

/-- Toasts that came one after the other, the last of them not after `now`. -/
structure Queued (now : Nat) (t : Toasts) : Prop where
  ids : t.queue.Pairwise (·.id < ·.id)
  counted : ∀ x ∈ t.queue, x.id < t.nextId
  times : t.queue.Pairwise (·.createdAt ≤ ·.createdAt)
  past : ∀ x ∈ t.queue, x.createdAt ≤ now
  room : 0 < t.limit
  capped : t.queue.length ≤ t.limit

theorem queued_new (timeToLive limit : Nat) : (new timeToLive limit).Queued 0 where
  ids := .nil
  counted := nofun
  times := .nil
  past := nofun
  room := Nat.le_max_left 1 limit
  capped := Nat.zero_le _

/-- The first queue is the second without some toasts that had their time. -/
structure Pruned (now : Nat) (t u : Toasts) : Prop where
  queue : ∃ expired, u.queue = expired ++ t.queue ∧ ∀ x ∈ expired, isVisible u.timeToLive now x = false
  timeToLive : t.timeToLive = u.timeToLive
  limit : t.limit = u.limit
  nextId : t.nextId = u.nextId

theorem isVisible_younger {timeToLive now : Nat} {x y : Toast} (younger : x.createdAt ≤ y.createdAt)
    (visible : isVisible timeToLive now x = true) : isVisible timeToLive now y = true := by
  unfold isVisible at *
  rw [decide_eq_true_iff] at *
  omega

theorem isVisible_later {timeToLive now moment : Nat} (later : now ≤ moment) {x : Toast}
    (expired : isVisible timeToLive now x = false) : isVisible timeToLive moment x = false := by
  unfold isVisible at *
  rw [decide_eq_false_iff_not] at *
  omega

/-- Toasts that had their time stand before the others, whenever one looks. -/
theorem expired_first (timeToLive now : Nat) {queue : List Toast} (times : queue.Pairwise (·.createdAt ≤ ·.createdAt)) :
    ∃ expired, queue = expired ++ queue.filter (isVisible timeToLive now) ∧
      ∀ x ∈ expired, isVisible timeToLive now x = false := by
  induction queue with
  | nil => exact ⟨[], rfl, nofun⟩
  | cons x rest ih =>
    obtain ⟨younger, later⟩ := List.pairwise_cons.mp times
    cases visible : isVisible timeToLive now x with
    | true =>
      have all : ∀ y ∈ x :: rest, isVisible timeToLive now y = true :=
        List.forall_mem_cons.mpr ⟨visible, fun y member => isVisible_younger (younger y member) visible⟩
      exact ⟨[], (List.filter_eq_self.mpr all).symm, nofun⟩
    | false =>
      obtain ⟨expired, split, gone⟩ := ih later
      refine ⟨x :: expired, ?_, List.forall_mem_cons.mpr ⟨visible, gone⟩⟩
      rw [List.filter_cons_of_neg (Bool.not_eq_true _ ▸ visible), List.cons_append, ← split]

/-- What was cut off before makes no difference. -/
theorem newest_newest (limit : Nat) (queue more : List Toast) :
    newest limit (newest limit queue ++ more) = newest limit (queue ++ more) := by
  unfold newest
  rw [← List.drop_append_of_le_length (Nat.sub_le _ _), List.drop_drop, List.length_drop, List.length_append]
  congr 1
  omega

/-- A push takes the oldest toast out of a full queue, and none out of any other. -/
theorem newest_push {limit : Nat} (room : 0 < limit) {queue : List Toast} (capped : queue.length ≤ limit) (x : Toast) :
    newest limit (queue ++ [x]) = (if queue.length < limit then queue else queue.tail) ++ [x] := by
  unfold newest
  rw [List.length_append, List.length_singleton]
  split
  · rename_i spare
    rw [Nat.sub_eq_zero_of_le spare, List.drop_zero]
  · rename_i full
    obtain rfl := Nat.le_antisymm capped (Nat.not_lt.mp full)
    rw [Nat.add_sub_cancel_left, List.drop_one, List.tail_append_of_ne_nil (List.ne_nil_of_length_pos room)]

section

variable {now moment : Nat} {t u : Toasts}

theorem Queued.later (queued : t.Queued now) (later : now ≤ moment) : t.Queued moment :=
  { queued with past := fun x member => Nat.le_trans (queued.past x member) later }

theorem Queued.sublist (queued : t.Queued now) {queue : List Toast} (fewer : queue.Sublist t.queue) :
    Queued now { t with queue } where
  ids := queued.ids.sublist fewer
  counted x member := queued.counted x (fewer.subset member)
  times := queued.times.sublist fewer
  past x member := queued.past x (fewer.subset member)
  room := queued.room
  capped := Nat.le_trans fewer.length_le queued.capped

theorem queue_push (queued : t.Queued now) (level : ToastLevel) (message : String) :
    (t.push moment level message).queue =
      (if t.queue.length < t.limit then t.queue else t.queue.tail) ++ [⟨t.nextId, level, message, moment⟩] :=
  newest_push queued.room queued.capped _

theorem Queued.push (queued : t.Queued now) (later : now ≤ moment) (level : ToastLevel) (message : String) :
    (t.push moment level message).Queued moment := by
  have pushed : (t.push moment level message).queue = _ := queue_push queued level message
  -- What stays is a part of the queue, and there is room for one more behind it.
  obtain ⟨stays, split, fewer, room⟩ : ∃ stays, (t.push moment level message).queue =
      stays ++ [⟨t.nextId, level, message, moment⟩] ∧ stays.Sublist t.queue ∧ stays.length < t.limit := by
    refine ⟨_, pushed, ?_⟩
    split
    · rename_i spare
      exact ⟨.refl _, spare⟩
    · have capped := queued.capped
      have room := queued.room
      refine ⟨List.tail_sublist _, ?_⟩
      rw [List.length_tail]
      omega
  have kept := queued.sublist fewer
  refine ⟨?_, ?_, ?_, ?_, queued.room, ?_⟩
  · rw [split, List.pairwise_append]
    exact ⟨kept.ids, List.pairwise_singleton _ _,
      fun x member y last => List.mem_singleton.mp last ▸ kept.counted x member⟩
  · rw [split]
    intro x member
    rcases List.mem_append.mp member with inside | last
    · exact Nat.lt_succ_of_lt (kept.counted x inside)
    · exact List.mem_singleton.mp last ▸ Nat.lt_succ_self t.nextId
  · rw [split, List.pairwise_append]
    exact ⟨kept.times, List.pairwise_singleton _ _,
      fun x member y last => List.mem_singleton.mp last ▸ Nat.le_trans (kept.past x member) later⟩
  · rw [split]
    intro x member
    rcases List.mem_append.mp member with inside | last
    · exact Nat.le_trans (kept.past x inside) later
    · exact List.mem_singleton.mp last ▸ Nat.le_refl moment
  · rw [split, List.length_append]
    exact room

/-- A toast that could still be seen falls out only of a full queue in which all can be seen, and is its oldest. -/
theorem Queued.evicts (queued : t.Queued now) (level : ToastLevel) (message : String) {x : Toast}
    (visible : x ∈ t.visible moment) (gone : x ∉ (t.push moment level message).queue) :
    t.queue.length = t.limit ∧ t.visible moment = t.queue ∧ ∃ rest, t.queue = x :: rest ∧
      (t.push moment level message).queue = rest ++ [⟨t.nextId, level, message, moment⟩] := by
  obtain ⟨member, young⟩ := List.mem_filter.mp visible
  rw [queue_push queued, List.mem_append, not_or] at gone
  rw [queue_push queued]
  by_cases spare : t.queue.length < t.limit
  · rw [if_pos spare] at gone
    exact absurd member gone.1
  · rw [if_neg spare] at gone ⊢
    refine ⟨Nat.le_antisymm queued.capped (Nat.not_lt.mp spare), ?_⟩
    obtain ⟨expired, split, old⟩ := expired_first t.timeToLive moment queued.times
    cases whole : t.queue with
    | nil => exact absurd (whole ▸ member) List.not_mem_nil
    | cons y rest =>
      rw [whole] at member gone
      obtain rfl : x = y := (List.mem_cons.mp member).resolve_right gone.1
      refine ⟨?_, rest, rfl, rfl⟩
      cases expired with
      | nil => exact split.symm.trans whole
      | cons z others =>
        obtain rfl : x = z := (List.cons.inj (whole.symm.trans split)).1
        exact absurd young (Bool.eq_false_iff.mp (old x List.mem_cons_self))

theorem Pruned.refl (now : Nat) (t : Toasts) : Pruned now t t :=
  ⟨⟨[], rfl, nofun⟩, rfl, rfl, rfl⟩

theorem Pruned.later (pruned : Pruned now t u) (later : now ≤ moment) : Pruned moment t u := by
  obtain ⟨expired, split, old⟩ := pruned.queue
  exact { pruned with queue := ⟨expired, split, fun x member => isVisible_later later (old x member)⟩ }

theorem Pruned.visible (pruned : Pruned now t u) : t.visible now = u.visible now := by
  obtain ⟨expired, split, old⟩ := pruned.queue
  have nothing : expired.filter (isVisible u.timeToLive now) = [] :=
    List.filter_eq_nil_iff.mpr fun x member => Bool.eq_false_iff.mp (old x member)
  unfold Toasts.visible
  rw [split, List.filter_append, nothing, List.nil_append, pruned.timeToLive]

theorem Pruned.prune (pruned : Pruned now t u) (queued : t.Queued now) : Pruned now (t.prune now).2 u := by
  obtain ⟨expired, split, old⟩ := pruned.queue
  obtain ⟨more, rest, also⟩ := expired_first t.timeToLive now queued.times
  refine { pruned with queue := ⟨expired ++ more, ?_, ?_⟩ }
  · rw [split, List.append_assoc]
    exact congrArg (expired ++ ·) rest
  · rw [← pruned.timeToLive] at old ⊢
    exact List.forall_mem_append.mpr ⟨old, also⟩

theorem Pruned.dismiss (pruned : Pruned now t u) (id : Nat) : Pruned now (t.dismiss id).2 (u.dismiss id).2 := by
  obtain ⟨expired, split, old⟩ := pruned.queue
  refine { pruned with queue := ⟨expired.filter fun x => x.id ≠ id, ?_, ?_⟩ }
  · exact (congrArg (List.filter _) split).trans (List.filter_append _ _)
  · exact fun x member => old x (List.mem_filter.mp member).1

/-- Where the longer queue is full, what falls out of it has been lost to the shorter one, if anything has. -/
theorem Pruned.push (pruned : Pruned now t u) (queued : t.Queued now) (full : u.Queued now) (moment : Nat)
    (level : ToastLevel) (message : String) :
    Pruned now (t.push moment level message) (u.push moment level message) := by
  obtain ⟨expired, split, old⟩ := pruned.queue
  refine ⟨?_, pruned.timeToLive, pruned.limit, congrArg (· + 1) pruned.nextId⟩
  rw [queue_push queued, queue_push full, pruned.limit, pruned.nextId, split, List.length_append]
  cases expired with
  | nil => exact ⟨[], by simp, nofun⟩
  | cons x rest =>
    have capped := full.capped
    rw [split, List.length_append] at capped
    have shorter : t.queue.length < u.limit := Nat.lt_of_lt_of_le (Nat.lt_add_of_pos_left (Nat.succ_pos _)) capped
    rw [if_pos shorter]
    split
    · exact ⟨x :: rest, List.append_assoc _ _ _, old⟩
    · exact ⟨rest, List.append_assoc _ _ _, (List.forall_mem_cons.mp old).2⟩

end
end Toasts

namespace ToastCall

/-- The latest moment there was when a call has been made. -/
def clock (now : Nat) (c : ToastCall) : Nat :=
  c.time?.getD now

/-- Calls that are not earlier than `now`, and none of them than one before it. -/
def From (now : Nat) (calls : List ToastCall) : Prop :=
  Timely calls ∧ ∀ moment ∈ calls.filterMap time?, now ≤ moment

theorem from_zero {calls : List ToastCall} (timely : Timely calls) : From 0 calls :=
  ⟨timely, fun moment _ => Nat.zero_le moment⟩

theorem from_cons {now : Nat} {c : ToastCall} {rest : List ToastCall} (timely : From now (c :: rest)) :
    now ≤ c.clock now ∧ From (c.clock now) rest := by
  obtain ⟨ordered, future⟩ := timely
  unfold Timely at ordered
  unfold From Timely clock
  cases timed : c.time? with
  | none =>
    rw [List.filterMap_cons_none timed] at ordered future
    exact ⟨Nat.le_refl now, ordered, future⟩
  | some moment =>
    rw [List.filterMap_cons_some timed] at ordered future
    obtain ⟨first, later⟩ := List.pairwise_cons.mp ordered
    exact ⟨future moment List.mem_cons_self, later, first⟩

variable {now : Nat} {s u : Session}

theorem make_settings (c : ToastCall) (s : Session) :
    (c.make s).toasts.timeToLive = s.toasts.timeToLive ∧ (c.make s).toasts.limit = s.toasts.limit := by
  cases c <;> exact ⟨rfl, rfl⟩

theorem queued_make (c : ToastCall) (later : now ≤ c.clock now) (queued : s.toasts.Queued now) :
    (c.make s).toasts.Queued (c.clock now) := by
  cases c with
  | toast moment level message => exact queued.push later level message
  | dismiss id => exact queued.sublist List.filter_sublist
  | prune moment => exact (queued.later later).sublist List.filter_sublist
  | look moment => exact queued.later later

theorem pruned_make (c : ToastCall) (later : now ≤ c.clock now) (queued : s.toasts.Queued now)
    (full : u.toasts.Queued now) (pruned : Toasts.Pruned now s.toasts u.toasts) :
    Toasts.Pruned (c.clock now) (c.make s).toasts (c.make u).toasts ∧ c.shown? s = c.shown? u := by
  cases c with
  | toast moment level message => exact ⟨(pruned.push queued full moment level message).later later, rfl⟩
  | dismiss id => exact ⟨pruned.dismiss id, rfl⟩
  | prune moment =>
    have same := (pruned.later later).visible
    exact ⟨{ pruned with queue := ⟨[], same.symm, nofun⟩ }, rfl⟩
  | look moment => exact ⟨pruned.later later, congrArg some (pruned.later later).visible⟩

end ToastCall

namespace Session
open ToastCall

/-- A pruned session shows the same as one that is never pruned. -/
theorem looks_unpruned (calls : List ToastCall) {now : Nat} {s u : Session} (timely : From now calls)
    (queued : s.toasts.Queued now) (full : u.toasts.Queued now) (pruned : Toasts.Pruned now s.toasts u.toasts) :
    looks calls s = looks (calls.filter fun c => !c.isPrune) u := by
  induction calls generalizing now s u with
  | nil => rfl
  | cons c rest ih =>
    obtain ⟨later, next⟩ := from_cons timely
    have made := queued_make c later queued
    cases skipped : c.isPrune with
    | true =>
      obtain ⟨moment, rfl⟩ : ∃ moment, c = .prune moment := by
        cases c with
        | prune moment => exact ⟨moment, rfl⟩
        | _ => cases skipped
      rw [List.filter_cons_of_neg (by simp [isPrune])]
      exact ih next made (full.later later) ((pruned.later later).prune (queued.later later))
    | false =>
      obtain ⟨still, shown⟩ := pruned_make c later queued full pruned
      rw [List.filter_cons_of_pos (by simp [skipped]), looks, looks, shown]
      exact congrArg (_ ++ ·) (ih next made (queued_make c later full) still)

theorem Begun.toasts {timeToLive limit : Nat} {s : Session} (begun : s.Begun timeToLive limit) :
    s.toasts = Toasts.new timeToLive limit := by
  cases begun <;> rfl

theorem called_settings (calls : List ToastCall) (s : Session) :
    (s.called calls).toasts.timeToLive = s.toasts.timeToLive ∧ (s.called calls).toasts.limit = s.toasts.limit := by
  induction calls generalizing s with
  | nil => exact ⟨rfl, rfl⟩
  | cons c rest ih =>
    obtain ⟨timeToLive, limit⟩ := ih (c.make s)
    obtain ⟨same, also⟩ := make_settings c s
    exact ⟨timeToLive.trans same, limit.trans also⟩

theorem queued_called {calls : List ToastCall} {now : Nat} {s : Session} (timely : From now calls)
    (queued : s.toasts.Queued now) : ∃ moment, (s.called calls).toasts.Queued moment := by
  induction calls generalizing now s with
  | nil => exact ⟨now, queued⟩
  | cons c rest ih =>
    obtain ⟨later, next⟩ := from_cons timely
    exact ih next (queued_make c later queued)

/-- Toasts stand in the queue in the order of their numbers and never too many; those that had their time come first.
So a toast that can be seen falls out only as the oldest of a full queue in which all can be seen, and what the looks
show is the same whenever the queue is pruned in between, and if it never is. -/
theorem toasts_seen {timeToLive limit : Nat} {s : Session} (begun : s.Begun timeToLive limit)
    {calls : List ToastCall} (timely : Timely calls) :
    let t := (s.called calls).toasts
    t.queue.Pairwise (·.id < ·.id) ∧ t.queue.length ≤ max 1 limit ∧
    (∀ now, ∃ expired, t.queue = expired ++ t.visible now ∧ ∀ x ∈ expired, timeToLive ≤ now - x.createdAt) ∧
    (∀ now level message, ∀ x ∈ t.visible now, x ∉ (t.push now level message).queue →
      t.queue.length = max 1 limit ∧ t.visible now = t.queue ∧ ∃ rest, t.queue = x :: rest ∧
        (t.push now level message).queue = rest ++ [⟨t.nextId, level, message, now⟩]) ∧
    ∀ others, Timely others → (others.filter fun c => !c.isPrune) = (calls.filter fun c => !c.isPrune) →
      looks others s = looks calls s := by
  have start : s.toasts.Queued 0 := begun.toasts ▸ Toasts.queued_new timeToLive limit
  obtain ⟨moment, queued⟩ := queued_called (from_zero timely) start
  obtain ⟨sameTime, sameLimit⟩ := called_settings calls s
  rw [begun.toasts] at sameTime sameLimit
  have limited : (s.called calls).toasts.limit = max 1 limit := sameLimit
  have lasting : (s.called calls).toasts.timeToLive = timeToLive := sameTime
  refine ⟨queued.ids, limited ▸ queued.capped, fun now => ?_, fun now level message x visible gone => ?_,
    fun others also same => ?_⟩
  · obtain ⟨expired, split, old⟩ := Toasts.expired_first (s.called calls).toasts.timeToLive now queued.times
    refine ⟨expired, split, fun x member => ?_⟩
    have gone := old x member
    rw [lasting] at gone
    exact Nat.not_lt.mp (of_decide_eq_false gone)
  · obtain ⟨full, all, oldest⟩ := queued.evicts level message visible gone
    exact ⟨full.trans limited, all, oldest⟩
  · rw [looks_unpruned others (from_zero also) start start (.refl 0 _),
      looks_unpruned calls (from_zero timely) start start (.refl 0 _), same]

/-- A queue of two: the third toast pushes out one that had its time, unless that was pruned before. -/
theorem toasts_seen_pruned :
    let first : List ToastCall := [.toast 0 .info "a", .toast 1 .info "b"]
    let last : List ToastCall := [.toast 4 .info "c", .look 4]
    Timely (first ++ last) ∧ Timely (first ++ [.prune 4] ++ last) ∧
    looks (first ++ [.prune 4] ++ last) (new 4 2) = looks (first ++ last) (new 4 2) ∧
    looks (first ++ last) (new 4 2) = [[⟨2, .info, "b", 1⟩, ⟨3, .info, "c", 4⟩]] := by
  intro first last
  have timely : Timely (first ++ last) := by unfold Timely; decide
  have also : Timely (first ++ [.prune 4] ++ last) := by unfold Timely; decide
  exact ⟨timely, also, (toasts_seen .new timely).2.2.2.2 _ also rfl, rfl⟩

end Session
end TradingDesk
