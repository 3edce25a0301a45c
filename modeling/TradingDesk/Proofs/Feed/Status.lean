import TradingDesk.Proofs.Feed.Delay
import TradingDesk.Proofs.Feed.Stream

/-! The status of the feed after any history of its sockets. It tells the last event that is of interest, and how many
drops there were since text last came. -/

namespace TradingDesk

/-- What happens to a socket of the feed. -/
inductive FeedEvent where
  | opened
  | frame (f : Frame)
  | dropped (e : Ending)
  deriving DecidableEq

namespace FeedEvent

def isText : FeedEvent → Bool
  | frame f => f.text?.isSome
  | opened | dropped _ => false

def isDrop : FeedEvent → Bool
  | dropped _ => true
  | opened | frame _ => false

/-- Frames without text are of no interest. -/
def tells : FeedEvent → Bool
  | frame f => f.text?.isSome
  | opened | dropped _ => true

end FeedEvent

/-- All that happens on one connection. -/
def Contact.events (c : Contact) : List FeedEvent :=
  match c.ending with
  | .refused => [.dropped .refused]
  | _ => .opened :: c.heard.map .frame ++ [.dropped c.closing]

namespace Feed

def happen (o : FeedOptions) (f : Feed) : FeedEvent → Feed
  | .opened => f.opened
  | .frame frame => f.receive frame
  | .dropped ending => (f.drop o ending).1

def since (o : FeedOptions) (history : List FeedEvent) : Feed :=
  history.foldl (happen o) (new o)

/-- The last event that is of interest. -/
def lastTold? (history : List FeedEvent) : Option FeedEvent :=
  (history.filter FeedEvent.tells).getLast?

/-- The drops since text last came. -/
def dropsSinceText (history : List FeedEvent) : Nat :=
  (history.reverse.takeWhile fun e => !e.isText).countP FeedEvent.isDrop

theorem since_concat (o : FeedOptions) (history : List FeedEvent) (e : FeedEvent) :
    since o (history ++ [e]) = happen o (since o history) e := by
  unfold since
  rw [List.foldl_append]
  rfl

theorem since_append (o : FeedOptions) (history later : List FeedEvent) :
    since o (history ++ later) = later.foldl (happen o) (since o history) :=
  List.foldl_append

theorem lastTold?_concat (history : List FeedEvent) (e : FeedEvent) :
    lastTold? (history ++ [e]) = if e.tells then some e else lastTold? history := by
  unfold lastTold?
  rw [List.filter_append]
  cases told : e.tells <;> simp [told]

theorem dropsSinceText_concat (history : List FeedEvent) (e : FeedEvent) :
    dropsSinceText (history ++ [e]) =
      if e.isText then 0 else dropsSinceText history + if e.isDrop then 1 else 0 := by
  unfold dropsSinceText
  rw [List.reverse_concat, List.takeWhile_cons]
  cases text : e.isText with
  | true => rfl
  | false =>
    simp only [Bool.not_false, if_true, Bool.false_eq_true, if_false]
    exact List.countP_cons

/-- The status says what came last and counts the drops. -/
structure Told (history : List FeedEvent) (c : Connection) : Prop where
  connected : c.isConnected = true ↔ ∃ e, lastTold? history = some e ∧ (e = .opened ∨ e.isText = true)
  reconnecting : c.isReconnecting = true ↔ ∃ ending, lastTold? history = some (.dropped ending)
  attempt : c.attempt.toNat = min (dropsSinceText history) (2 ^ 32 - 1)

/-- Once a connection has brought text its status stays. -/
def Received (f : Feed) : Prop :=
  f.received = true → f.connection = .connected

theorem receive_text_status {f : Feed} (received : Received f) (content : String) :
    (f.receive (.text content)).connection = .connected := by
  have heard : f.receive (.text content) = f.told [content] := hear_told [.text content] f
  rw [heard]
  unfold told
  cases brought : f.received with
  | true => exact received brought
  | false => rfl

theorem received_happen (o : FeedOptions) {f : Feed} (received : Received f) (e : FeedEvent) :
    Received (happen o f e) := by
  cases e with
  | opened => exact nofun
  | dropped ending => exact nofun
  | frame frame =>
    cases spoken : frame.text? with
    | none =>
      rw [show happen o f (.frame frame) = f from receive_silent frame f spoken]
      exact received
    | some content =>
      obtain rfl : frame = .text content := by cases frame <;> simp_all [Frame.text?]
      exact fun _ => receive_text_status received content

theorem told_happen (o : FeedOptions) {history : List FeedEvent} {f : Feed} (told : Told history f.connection)
    (received : Received f) (e : FeedEvent) : Told (history ++ [e]) (happen o f e).connection := by
  obtain ⟨connected, reconnecting, attempt⟩ := told
  cases e with
  | opened =>
    refine ⟨?_, ?_, ?_⟩ <;> simp [lastTold?_concat, dropsSinceText_concat, FeedEvent.tells, FeedEvent.isText,
      FeedEvent.isDrop, happen, opened, Connection.opened, attempt]
  | dropped ending =>
    refine ⟨?_, ?_, ?_⟩
    · simp [lastTold?_concat, FeedEvent.tells, FeedEvent.isText, happen, drop, Connection.dropped]
    · simp [lastTold?_concat, FeedEvent.tells, happen, drop, Connection.dropped]
    · change f.connection.dropped.attempt.toNat = _
      rw [dropped_attempt, dropsSinceText_concat, attempt]
      simp only [FeedEvent.isText, FeedEvent.isDrop, Bool.false_eq_true, if_false, if_true]
      omega
  | frame frame =>
    cases spoken : frame.text? with
    | none =>
      have last : lastTold? (history ++ [.frame frame]) = lastTold? history := by
        simp [lastTold?_concat, FeedEvent.tells, spoken]
      have drops : dropsSinceText (history ++ [.frame frame]) = dropsSinceText history := by
        simp [dropsSinceText_concat, FeedEvent.isText, FeedEvent.isDrop, spoken]
      rw [show happen o f (.frame frame) = f from receive_silent frame f spoken]
      exact ⟨last ▸ connected, last ▸ reconnecting, drops ▸ attempt⟩
    | some content =>
      obtain rfl : frame = .text content := by cases frame <;> simp_all [Frame.text?]
      rw [show (happen o f (.frame (.text content))).connection = _ from receive_text_status received content]
      refine ⟨?_, ?_, ?_⟩ <;> simp [lastTold?_concat, dropsSinceText_concat, FeedEvent.tells, FeedEvent.isText,
        Frame.text?, Connection.connected]

theorem told_since (o : FeedOptions) (history : List FeedEvent) :
    Told history (since o history).connection ∧ Received (since o history) := by
  induction history using List.reverseRecOn with
  | nil =>
    refine ⟨⟨?_, ?_, rfl⟩, nofun⟩ <;> simp [since, new, Connection.initial, lastTold?]
  | append_singleton history e ih =>
    rw [since_concat]
    exact ⟨told_happen o ih.1 ih.2 e, received_happen o ih.2 e⟩

/-! The connections of a run make such a history. -/

theorem hear_since (o : FeedOptions) (frames : List Frame) (f : Feed) :
    f.hear frames = (frames.map FeedEvent.frame).foldl (happen o) f := by
  rw [List.foldl_map]
  rfl

theorem contact_since (o : FeedOptions) (c : Contact) (f : Feed) :
    (f.contact o c).1 = c.events.foldl (happen o) f := by
  have made : ((f.opened.hear c.heard).drop o c.closing).1 =
      (FeedEvent.opened :: c.heard.map .frame ++ [FeedEvent.dropped c.closing]).foldl (happen o) f := by
    rw [List.cons_append, List.foldl_cons, List.foldl_append, ← hear_since]
    rfl
  unfold contact Contact.events
  cases c.ending with
  | refused => rfl
  | closed => exact made
  | broken => exact made

theorem run_since (o : FeedOptions) (contacts : List Contact) (now : Nat) (f : Feed) :
    (run o contacts now f).2 = (contacts.flatMap Contact.events).foldl (happen o) f := by
  induction contacts generalizing now f with
  | nil => rfl
  | cons c rest ih =>
    rw [List.flatMap_cons, List.foldl_append, ← contact_since]
    exact ih _ _

/-- In the middle of a connection. -/
def eventsUntil (contacts : List Contact) (c : Contact) (n : Nat) : List FeedEvent :=
  contacts.flatMap Contact.events ++ .opened :: (c.heard.take n).map .frame

theorem midway_since (o : FeedOptions) (contacts : List Contact) (c : Contact) (n : Nat) :
    midway o contacts c n = since o (eventsUntil contacts c n) := by
  unfold midway eventsUntil
  rw [run_since, since_append, List.foldl_cons, ← hear_since]
  rfl

/-- After any history the status is that of the last opening, text or drop, with the drops since text last came. A mere
opening leaves the count, and frames without text leave the whole status. It is so at every moment of a run. -/
theorem status_told (o : FeedOptions) (history : List FeedEvent) :
    let status := (since o history).connection
    Told history status ∧ ¬(status.isConnected = true ∧ status.isReconnecting = true) ∧
    (since o (history ++ [.opened])).connection.attempt = status.attempt ∧
    (∀ frame : Frame, frame.text? = none → (since o (history ++ [.frame frame])).connection = status) ∧
    (∀ contacts now, (run o contacts now (new o)).2 = since o (contacts.flatMap Contact.events)) ∧
    ∀ contacts c n, midway o contacts c n = since o (eventsUntil contacts c n) := by
  have told := (told_since o history).1
  refine ⟨told, ?_, ?_, fun frame silent => ?_, fun contacts now => run_since o contacts now _, midway_since o⟩
  · rintro ⟨connected, reconnecting⟩
    obtain ⟨e, last, opens⟩ := told.connected.mp connected
    obtain ⟨ending, dropped⟩ := told.reconnecting.mp reconnecting
    obtain rfl := Option.some.inj (last.symm.trans dropped)
    rcases opens with opens | text
    · exact nomatch opens
    · exact nomatch text
  · rw [since_concat]
    rfl
  · rw [since_concat]
    exact congrArg connection (receive_silent frame _ silent)

end Feed
end TradingDesk
