import TradingDesk.Feed.Link

/-! What a connection brings: the texts on it that are read before it ends. The messages in them make the stream
and the events, that there is any makes the status and the next delay; nothing else does. -/

namespace TradingDesk

def Frame.text? : Frame → Option String
  | .text content => some content
  | _ => none

/-- The texts that are read. A connection that is never made brings none. -/
def Contact.texts (c : Contact) : List String :=
  match c.ending with
  | .refused => []
  | _ => c.heard.filterMap Frame.text?

namespace FeedMessage

/-- The message in a text; a malformed one is none, and neither is one of an unknown type. -/
def inText? (text : String) : Option FeedMessage :=
  match ofText text with
  | .ok m => m
  | .error _ => none

def tickerIn? (text : String) : Option Ticker :=
  match inText? text with
  | some (.ticker t) => some t
  | _ => none

def eventIn? (text : String) : Option SystemEvent :=
  match inText? text with
  | some (.system e) => some e
  | _ => none

end FeedMessage

namespace Feed

def tickers (texts : List String) : List Ticker :=
  texts.filterMap FeedMessage.tickerIn?

def systemEvents (texts : List String) : List SystemEvent :=
  texts.filterMap FeedMessage.eventIn?

def hear (frames : List Frame) (f : Feed) : Feed :=
  frames.foldl (fun f frame => f.receive frame) f

/-- The feed once these texts have come. -/
def told (texts : List String) (f : Feed) : Feed :=
  { f with
    connection := if f.received || texts.isEmpty then f.connection else .connected
    received := f.received || !texts.isEmpty
    stream := (tickers texts).foldl (fun stream t => stream.apply t) f.stream
    events := f.events ++ systemEvents texts }

@[simp] theorem told_nothing (f : Feed) : f.told [] = f := by
  simp [told, tickers, systemEvents]

theorem receive_silent (frame : Frame) (f : Feed) (silent : frame.text? = none) : f.receive frame = f := by
  cases frame with
  | text content => simp [Frame.text?] at silent
  | ping => rfl
  | pong => rfl
  | binary => rfl
  | close => rfl

/-- The feed with its status after a text. -/
private def noted (f : Feed) : Feed :=
  { f with connection := if f.received then f.connection else .connected, received := true }

private theorem receive_text (content : String) (f : Feed) :
    f.receive (.text content) = (FeedMessage.inText? content).elim f.noted fun m => f.noted.take m := by
  have first : (if f.received then f else { f with connection := .connected, received := true }) = f.noted := by
    unfold noted
    cases seen : f.received with
    | true => simp [← seen]
    | false => rfl
  unfold receive FeedMessage.inText?
  simp only [first]
  cases FeedMessage.ofText content with
  | error e => rfl
  | ok m => cases m <;> rfl

theorem told_receive (content : String) (rest : List String) (f : Feed) :
    (f.receive (.text content)).told rest = f.told (content :: rest) := by
  rw [receive_text]
  unfold told noted tickers systemEvents
  cases found : FeedMessage.inText? content with
  | none => simp [FeedMessage.tickerIn?, FeedMessage.eventIn?, found]
  | some m => cases m <;> simp [take, FeedMessage.tickerIn?, FeedMessage.eventIn?, found]

theorem hear_told (frames : List Frame) (f : Feed) : f.hear frames = f.told (frames.filterMap Frame.text?) := by
  induction frames generalizing f with
  | nil => exact (told_nothing f).symm
  | cons frame rest ih =>
    cases spoken : frame.text? with
    | none =>
      have silent : f.hear (frame :: rest) = f.hear rest := by
        change (f.receive frame).hear rest = _
        rw [receive_silent frame f spoken]
      rw [silent, ih, List.filterMap_cons_none spoken]
    | some content =>
      obtain rfl : frame = .text content := by
        cases frame <;> simp_all [Frame.text?]
      calc f.hear (.text content :: rest)
          = (f.receive (.text content)).told (rest.filterMap Frame.text?) := ih _
        _ = f.told ((Frame.text content :: rest).filterMap Frame.text?) := told_receive content _ f

/-- The delay after a connection begins anew when it brought text and was closed in order. -/
def pause (o : FeedOptions) (c : Contact) (f : Feed) : Nat :=
  if c.closing = .closed ∧ c.texts ≠ [] then o.initialDelay else f.delay

theorem contact_made (o : FeedOptions) (c : Contact) (f : Feed) (made : c.ending ≠ .refused) :
    f.contact o c = (f.opened.told c.texts).drop o c.closing := by
  have heard : c.texts = c.heard.filterMap Frame.text? := by
    unfold Contact.texts
    split
    · contradiction
    · rfl
  rw [heard, ← hear_told]
  unfold contact
  split
  · contradiction
  · rfl

theorem contact_texts (o : FeedOptions) (c : Contact) (f : Feed) :
    f.contact o c =
      ({ connection := (if c.texts = [] then f.connection else .connected).dropped
         delay := min (2 * f.pause o c) o.maxDelay
         received := false
         stream := (tickers c.texts).foldl (fun stream t => stream.apply t) f.stream
         events := f.events ++ systemEvents c.texts },
        f.pause o c) := by
  by_cases made : c.ending = .refused
  · have nothing : c.texts = [] := by
      rw [Contact.texts, made]
    simp [contact, made, drop, pause, nothing, tickers, systemEvents]
  · rw [contact_made o c f made]
    cases spoken : c.texts with
    | nil =>
      rw [told_nothing]
      simp [drop, opened, pause, spoken, tickers, systemEvents]
      rfl
    | cons first rest => simp [drop, opened, told, pause, spoken]

/-! Many connections, one after the other. -/

/-- The feed after whole connections. -/
def after (o : FeedOptions) (contacts : List Contact) : Feed :=
  contacts.foldl (fun f c => (f.contact o c).1) (new o)

theorem after_concat (o : FeedOptions) (contacts : List Contact) (c : Contact) :
    after o (contacts ++ [c]) = ((after o contacts).contact o c).1 := by
  unfold after
  rw [List.foldl_append]
  rfl

theorem run_head (o : FeedOptions) (contacts : List Contact) (now : Nat) (f : Feed) :
    (run o contacts now f).1[0]? = some (f.connection, now) := by
  cases contacts <;> rfl

/-- Between two connections is the pause after the first of them. -/
theorem run_moment (o : FeedOptions) (contacts : List Contact) (now : Nat) (f : Feed) (i : Nat) (c : Contact)
    (here : contacts[i]? = some c) :
    let g := (contacts.take i).foldl (fun f c => (f.contact o c).1) f
    ∃ since, (run o contacts now f).1[i]? = some (g.connection, since) ∧
      (run o contacts now f).1[i + 1]? = some ((g.contact o c).1.connection, since + (g.contact o c).2) := by
  induction contacts generalizing now f i with
  | nil => simp at here
  | cons head rest ih =>
    cases i with
    | zero =>
      obtain rfl : head = c := Option.some.inj here
      exact ⟨now, rfl, run_head o rest _ _⟩
    | succ i => exact ih _ _ i here

end Feed
end TradingDesk
