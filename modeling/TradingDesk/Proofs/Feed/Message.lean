import TradingDesk.Feed.Message
import TradingDesk.Proofs.Json.Agreement
import TradingDesk.Proofs.Payload.Spelling

/-! What a text frame is taken for: its type tells which record the data are read as. Data that are set aside until the
type is known are read as they are by themselves, except for the side of an order, which has one more form there. -/

namespace TradingDesk
open Json Json.Record Json.Decoder

theorem HaltStatus.reads (s : HaltStatus) : record.Reads s s.toJson [("halt_reason", .text "")] :=
  ⟨_, rfl, Spells.pure HaltStatus.mk
    |>.seq (.required (takes_bool s.isHalted))
    |>.seq (.default (takes_text s.haltReason) (takes_text ""))⟩

theorem RiskAlert.reads (a : RiskAlert) : record.Reads a a.toJson [("severity", .text "")] :=
  ⟨_, rfl, Spells.pure RiskAlert.mk
    |>.seq (.default (takes_text a.severity) (takes_text ""))
    |>.seq (.required (takes_text a.message))⟩

namespace FeedMessage

/-- The kinds of messages that are of interest. -/
inductive Kind where
  | ticker
  | haltStatus
  | orderUpdate
  | riskAlert

namespace Kind

def type : Kind → String
  | .ticker => "ticker"
  | .haltStatus => "halt_status"
  | .orderUpdate => "order_update"
  | .riskAlert => "risk_alert"

abbrev Payload : Kind → Type
  | .ticker => Ticker
  | .haltStatus => HaltStatus
  | .orderUpdate => Order
  | .riskAlert => RiskAlert

def record : (k : Kind) → Record k.Payload
  | .ticker => Ticker.record
  | .haltStatus => HaltStatus.record
  | .orderUpdate => Order.record
  | .riskAlert => RiskAlert.record

def decoder : (k : Kind) → Decoder k.Payload
  | .ticker => Ticker.decoder
  | .haltStatus => HaltStatus.decoder
  | .orderUpdate => Order.decoder
  | .riskAlert => RiskAlert.decoder

def message : (k : Kind) → k.Payload → FeedMessage
  | .ticker, t => .ticker t
  | .haltStatus, s => .system (.halt s)
  | .orderUpdate, o => .system (.orderUpdate o)
  | .riskAlert, a => .system (.riskAlert a)

/-- A field of an order, with the side by its bare name. -/
def plainField (key : String) (v : Json) : Json :=
  if key = "side" then v.bareName else v

/-- The data with the side of an order by its bare name; other data as they are. -/
def plain : Kind → Json → Json
  | .orderUpdate, data => changed Order.record.keys plainField data
  | .ticker, data | .haltStatus, data | .riskAlert, data => data

/-- A message of this kind with these data. -/
def framed (k : Kind) (data : Json) : Json :=
  .object [("data", data), ("type", .text k.type)]

theorem lookup_type (k : Kind) : kinds.lookup k.type = some fun p n => (k.decoder p n).map k.message := by
  cases k <;> rfl

/-- The types of interest are those of the kinds. -/
theorem mem_knownTypes (type : String) : type ∈ knownTypes ↔ ∃ k : Kind, k.type = type := by
  constructor
  · intro known
    unfold knownTypes at known
    simp only [List.mem_cons, List.not_mem_nil, or_false] at known
    rcases known with rfl | rfl | rfl | rfl
    exacts [⟨.ticker, rfl⟩, ⟨.haltStatus, rfl⟩, ⟨.orderUpdate, rfl⟩, ⟨.riskAlert, rfl⟩]
  · rintro ⟨k, rfl⟩
    cases k <;> decide

theorem message_surjective (m : FeedMessage) : ∃ (k : Kind) (p : k.Payload), k.message p = m := by
  match m with
  | .ticker t => exact ⟨.ticker, t, rfl⟩
  | .system (.halt s) => exact ⟨.haltStatus, s, rfl⟩
  | .system (.orderUpdate o) => exact ⟨.orderUpdate, o, rfl⟩
  | .system (.riskAlert a) => exact ⟨.riskAlert, a, rfl⟩

/-! The fields of the payloads, and how they are read from data that were set aside. -/

theorem ticker_aside : Ticker.record.Each (Aside fun _ v => v) :=
  Each.pure Ticker.mk
    |>.seq (.field fun _ _ _ => rfl)
    |>.seq (.field fun _ _ _ => rfl)
    |>.seq (.field fun _ _ _ => rfl)
    |>.seq (.field fun _ _ _ => rfl)
    |>.seq (.field fun _ _ _ => rfl)
    |>.seq (.field fun _ _ _ => rfl)
    |>.seq (.field fun _ _ _ => rfl)

theorem haltStatus_aside : HaltStatus.record.Each (Aside fun _ v => v) :=
  Each.pure HaltStatus.mk
    |>.seq (.field fun _ _ _ => rfl)
    |>.seq (.field fun _ _ _ => rfl)

theorem riskAlert_aside : RiskAlert.record.Each (Aside fun _ v => v) :=
  Each.pure RiskAlert.mk
    |>.seq (.field fun _ _ _ => rfl)
    |>.seq (.field fun _ _ _ => rfl)

theorem order_aside : Order.record.Each (Aside plainField) :=
  Each.pure Order.mk
    |>.seq (.field fun _ _ _ => rfl)
    |>.seq (.field fun _ _ _ => rfl)
    |>.seq (.field fun _ _ _ => rfl)
    |>.seq (.field fun _ _ _ => rfl)
    |>.seq (.field (choice_aside Side.choices))
    |>.seq (.field fun _ _ _ => rfl)
    |>.seq (.field fun _ _ _ => rfl)
    |>.seq (.field fun _ _ _ => rfl)
    |>.seq (.field fun _ _ _ => rfl)
    |>.seq (.field fun _ _ _ => rfl)
    |>.seq (.field fun _ _ _ => rfl)
    |>.seq (.field fun _ _ _ => rfl)
    |>.seq (.field fun _ _ _ => rfl)

theorem aside_iff (k : Kind) (data : Json) (p : k.Payload) :
    k.decoder.ofAside data = .ok p ↔ k.decoder.ofValue (k.plain data) = .ok p := by
  cases k with
  | ticker => exact ofAside_same "TickerSnapshot" ticker_aside data p
  | haltStatus => exact ofAside_same "HaltStatus" haltStatus_aside data p
  | orderUpdate => exact ofAside_iff "Order" order_aside data p
  | riskAlert => exact ofAside_same "RiskAlert" riskAlert_aside data p

theorem aside_agreeing (k : Kind) {d e : Json} (first : d.Ordered) (second : e.Ordered)
    (agree : d.Agree k.record.keys e) : k.decoder.ofAside d = k.decoder.ofAside e := by
  cases k with
  | ticker => exact decoder_agreeing "TickerSnapshot" ticker_aside first second agree (by decide)
  | haltStatus => exact decoder_agreeing "HaltStatus" haltStatus_aside first second agree (by decide)
  | orderUpdate => exact decoder_agreeing "Order" order_aside first second agree (by decide)
  | riskAlert => exact decoder_agreeing "RiskAlert" riskAlert_aside first second agree (by decide)

theorem takes_data (k : Kind) (p : k.Payload) : k.decoder.Takes (k.message p).data.inOrder p := by
  cases k with
  | ticker => exact (Ticker.reads p).takes_inOrder "TickerSnapshot" (by decide) rfl (by simp [Json.inOrder])
  | haltStatus => exact (HaltStatus.reads p).takes_inOrder "HaltStatus" (by decide) rfl (by simp [Json.inOrder])
  | orderUpdate =>
    exact (Order.reads p).takes_inOrder "Order" (by decide) rfl (by simp [Json.inOrder, Side.toJson])
  | riskAlert => exact (RiskAlert.reads p).takes_inOrder "RiskAlert" (by decide) rfl (by simp [Json.inOrder])

theorem framed_inOrder (k : Kind) (data : Json) : (k.framed data).inOrder = k.framed data.inOrder :=
  rfl

theorem toJson_message (k : Kind) (p : k.Payload) : (k.message p).toJson = k.framed (k.message p).data := by
  cases k <;> rfl

end Kind

theorem typeOf_iff (v : Json) (k : Kind) : typeOf v = k.type ↔ v.member? "type" = some (.text k.type) := by
  have named : k.type ≠ "" := by cases k <;> decide
  unfold typeOf
  cases v.member? "type" with
  | none => simp [named.symm]
  | some name => cases name <;> simp [Json.text?, named.symm]

theorem ofJson_other {v : Json} (other : ∀ k : Kind, v.member? "type" ≠ some (.text k.type)) : ofJson v = .ok none := by
  refine if_neg fun known => ?_
  obtain ⟨k, same⟩ := (Kind.mem_knownTypes _).mp known
  exact other k ((typeOf_iff v k).mp same.symm)

theorem ofJson_known {v : Json} {k : Kind} (typed : v.member? "type" = some (.text k.type)) :
    ofJson v = (v.member? "data").elim (.error (.missing "data")) fun data =>
      (k.decoder.ofAside data).map fun p => some (k.message p) := by
  have same := (typeOf_iff v k).mpr typed
  have known : typeOf v ∈ knownTypes := (Kind.mem_knownTypes _).mpr ⟨k, same.symm⟩
  unfold ofJson ofData choose
  rw [if_pos known, same, k.lookup_type]
  cases v.member? "data" with
  | none => rfl
  | some data =>
    change ((k.decoder.ofAside data).map k.message).map some = (k.decoder.ofAside data).map fun p => some (k.message p)
    cases k.decoder.ofAside data <;> rfl

theorem known_iff {v : Json} {k : Kind} (typed : v.member? "type" = some (.text k.type)) (m : FeedMessage) :
    ofJson v = .ok (some m) ↔
      ∃ data p, v.member? "data" = some data ∧ k.decoder.ofAside data = .ok p ∧ k.message p = m := by
  rw [ofJson_known typed]
  cases v.member? "data" with
  | none => exact ⟨nofun, fun ⟨_, _, there, _⟩ => absurd there nofun⟩
  | some data =>
    cases read : k.decoder.ofAside data with
    | error e => simp [read, Except.map]
    | ok p => simp [read, Except.map]

theorem known_some {v : Json} {k : Kind} (typed : v.member? "type" = some (.text k.type)) : ofJson v ≠ .ok none := by
  rw [ofJson_known typed]
  cases v.member? "data" with
  | none => exact nofun
  | some data => cases read : k.decoder.ofAside data <;> simp [read, Except.map]

/-- A message is made of a value of its type with data that are read as its payload. -/
theorem ofJson_iff (v : Json) (m : FeedMessage) : ofJson v = .ok (some m) ↔
    ∃ (k : Kind) (data : Json) (p : k.Payload), v.member? "type" = some (.text k.type) ∧
      v.member? "data" = some data ∧ k.decoder.ofAside data = .ok p ∧ k.message p = m := by
  constructor
  · intro made
    by_cases known : ∃ k : Kind, v.member? "type" = some (.text k.type)
    · obtain ⟨k, typed⟩ := known
      obtain ⟨data, p, carried⟩ := (known_iff typed m).mp made
      exact ⟨k, data, p, typed, carried⟩
    · rw [ofJson_other (not_exists.mp known)] at made
      exact absurd made nofun
  · rintro ⟨k, data, p, typed, carried⟩
    exact (known_iff typed m).mpr ⟨data, p, carried⟩

/-- Values of which the same is made: they agree on their types and data, or their data agree on the keys of the
payload. -/
inductive Alike : Json → Json → Prop where
  | whole {v w : Json} (agree : v.Agree ["type", "data"] w) : Alike v w
  | data (k : Kind) {d e : Json} (agree : d.Agree k.record.keys e) : Alike (k.framed d) (k.framed e)
  | trans {u v w : Json} (first : Alike u v) (second : Alike v w) : Alike u w

theorem ofJson_alike {v w : Json} (alike : Alike v w) : ofJson v.inOrder = ofJson w.inOrder := by
  induction alike with
  | whole agree =>
    obtain ⟨members, others, first, second, -, -, same⟩ := agree.inOrder
    have type : member? "type" (.object members) = member? "type" (.object others) := same "type" (by decide)
    have data : member? "data" (.object members) = member? "data" (.object others) := same "data" (by decide)
    rw [first, second]
    unfold ofJson ofData typeOf
    rw [type, data]
  | data k agree =>
    rw [k.framed_inOrder, k.framed_inOrder, ofJson_known (k := k) rfl, ofJson_known (k := k) rfl]
    have same := k.aside_agreeing (ordered_inOrder _) (ordered_inOrder _) agree.inOrder
    exact congrArg (Except.map _) same
  | trans _ _ ih also => exact ih.trans also

theorem ofJson_written (m : FeedMessage) : ofJson m.toJson.inOrder = .ok (some m) := by
  obtain ⟨k, p, rfl⟩ := Kind.message_surjective m
  rw [k.toJson_message, k.framed_inOrder]
  refine (known_iff (k := k) rfl _).mpr ⟨_, p, rfl, ?_, rfl⟩
  exact k.takes_data p ⟨.setAside, maxDepth⟩ (by decide)

theorem ofText_parsed {text : String} {v : Json} (parsed : Json.parse text = .ok v) : ofText text = ofJson v := by
  unfold ofText
  rw [parsed]
  rfl

/-- A text that is no JSON is refused, and one of a type that is of no interest is passed over whatever else is in it.
Of one that is of interest a message of its kind is made exactly when its data are read as the payload, where an order
may also have the name of its side as the only key of an object with an empty object behind it; else it is refused. The
order of the keys does not count, nor do members that the message or its payload does not name, and each message is
read from all that is like what it is written as. -/
theorem text_understood (text : String) :
    (∀ e, Json.parse text = .error e → ofText text = .error e) ∧
    (∀ v, Json.parse text = .ok v → v.inOrder = v ∧
      ((∀ k : Kind, v.member? "type" ≠ some (.text k.type)) → ofText text = .ok none) ∧
      ∀ k : Kind, v.member? "type" = some (.text k.type) →
        (∀ m, ofText text = .ok (some m) ↔ ∃ data p, v.member? "data" = some data ∧
          k.decoder.ofValue (k.plain data) = .ok p ∧ k.message p = m) ∧
        ((¬∃ data p, v.member? "data" = some data ∧ k.decoder.ofValue (k.plain data) = .ok p) →
          ∃ e, ofText text = .error e)) ∧
    (∀ other v w, Alike v w → Json.parse text = .ok v.inOrder → Json.parse other = .ok w.inOrder →
      ofText text = ofText other) ∧
    ∀ m, ofJson m.toJson.inOrder = .ok (some m) ∧
      ∀ v, Alike v m.toJson → Json.parse text = .ok v.inOrder → ofText text = .ok (some m) := by
  refine ⟨fun e failed => ?_, fun v parsed => ⟨?_, fun other => ?_, fun k typed => ?_⟩, ?_, ?_⟩
  · unfold ofText
    rw [failed]
    rfl
  · exact (parse_ordered parsed).inOrder_same
  · rw [ofText_parsed parsed, ofJson_other other]
  · rw [ofText_parsed parsed]
    refine ⟨fun m => ?_, fun none => ?_⟩
    · simp only [known_iff typed, k.aside_iff]
    cases made : ofJson v with
    | error e => exact ⟨e, rfl⟩
    | ok message =>
      cases message with
      | none => exact absurd made (known_some typed)
      | some m =>
        obtain ⟨data, p, there, taken, -⟩ := (known_iff typed m).mp made
        exact absurd ⟨data, p, there, (k.aside_iff data p).mp taken⟩ none
  · intro other v w alike parsed also
    rw [ofText_parsed parsed, ofText_parsed also, ofJson_alike alike]
  · intro m
    refine ⟨ofJson_written m, fun v alike parsed => ?_⟩
    rw [ofText_parsed parsed, ofJson_alike alike, ofJson_written]

/-- An order with an object for its side. -/
def bareSide : String :=
  "\x7b\"type\":\"order_update\",\"data\":" ++
    "\x7b\"id\":1,\"symbol\":\"A\",\"side\":\x7b\"buy\":\x7b\x7d\x7d,\"amount\":1\x7d\x7d"

/-- By themselves these data are refused, yet a message is made of them. -/
theorem bareSide_taken :
    ((Json.parse bareSide).toOption.bind (member? "data")).map Order.decoder.ofValue =
        some (.error (.wrongType .object "unit")) ∧
      (ofText bareSide).toOption.join.map type = some "order_update" := by
  decide +kernel

end FeedMessage
end TradingDesk
