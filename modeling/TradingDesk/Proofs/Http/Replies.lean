import Mathlib.Data.List.Basic
import TradingDesk.Api.Endpoints
import TradingDesk.Proofs.Text.Blank

/-! What the reply to a call is taken for: a payload, one that cannot be read, or a failing status with the text that its
body tells. -/

namespace TradingDesk

/-- The endpoints, and what each of them reads from the body of a successful reply. A deletion reads nothing. -/
inductive Endpoint.Reads : {α : Type} → Endpoint α → (String → Except Json.Error α) → Prop where
  | portfolios : Reads portfolios (Json.Decoder.list Portfolio.decoder).ofText
  | portfolio (id : Int64) : Reads (portfolio id) Portfolio.decoder.ofText
  | createPortfolio (p : NewPortfolio) : Reads (createPortfolio p) Portfolio.decoder.ofText
  | deletePortfolio (id : Int64) : Reads (deletePortfolio id) fun _ => .ok ()
  | tickers (symbols : List String) : Reads (tickers symbols) (Json.Decoder.list Ticker.decoder).ofText
  | bars (symbol timeframe : String) (limit : Nat) :
    Reads (bars symbol timeframe limit) (Json.Decoder.list Bar.decoder).ofText
  | headline (c : Option AssetClass) : Reads (headline c) Headline.decoder.ofText
  | exchanges : Reads exchanges (Json.Decoder.list Exchange.decoder).ofText
  | riskStatus (id : Int64) : Reads (riskStatus id) RiskStatus.decoder.ofText
  | riskLimits (id : Int64) : Reads (riskLimits id) RiskLimits.decoder.ofText
  | updateLimits (id : Int64) (u : LimitsUpdate) : Reads (updateLimits id u) RiskLimits.decoder.ofText
  | valueAtRisk (id : Int64) (method : String) : Reads (valueAtRisk id method) ValueAtRisk.decoder.ofText
  | heatCheck (id : Int64) : Reads (heatCheck id) HeatCheck.decoder.ofText
  | positionSize (id : Int64) (q : SizeQuestion) : Reads (positionSize id q) SizeAnswer.decoder.ofText
  | checkTrade (id : Int64) (q : TradeQuestion) : Reads (checkTrade id q) TradeAnswer.decoder.ofText
  | resetDaily (id : Int64) : Reads (resetDaily id) RiskStatus.decoder.ofText
  | workflows (c : Option AssetClass) : Reads (workflows c) (Json.Decoder.list Workflow.decoder).ofText
  | workflow (id : String) : Reads (workflow id) WorkflowDetail.decoder.ofText
  | stepKinds : Reads stepKinds (Json.Decoder.list StepKind.decoder).ofText
  | trigger (id : String) : Reads (trigger id) Triggered.decoder.ofText
  | enable (id : String) : Reads (enable id) StatusAnswer.decoder.ofText
  | disable (id : String) : Reads (disable id) StatusAnswer.decoder.ofText
  | runs (id : String) (limit : Option Nat) : Reads (runs id limit) (Json.Decoder.list WorkflowRun.decoder).ofText
  | run (id : String) : Reads (run id) RunDetail.decoder.ofText
  | cancelRun (id : String) : Reads (cancelRun id) StatusAnswer.decoder.ofText
  | orders : Reads orders (Json.Decoder.list Order.decoder).ofText
  | order (id : Int64) : Reads (order id) Order.decoder.ofText
  | createOrder (o : NewOrder) : Reads (createOrder o) Order.decoder.ofText

namespace Reply

/-! The text of a failing status. -/

/-- The members of a body that may tell what is wrong, the preferred one first. -/
def detailKeys : List String := ["detail", "error", "message"]

/-- The body tells this text: no member before the one that holds it has a text that counts. -/
def Tells (counts : String → Bool) (body text : String) : Prop :=
  ∃ v, Json.parse body = .ok v ∧ ∃ before key after, detailKeys = before ++ key :: after ∧
    v.member? key = some (.text text) ∧ counts text = true ∧
    ∀ earlier ∈ before, ∀ other, v.member? earlier = some (.text other) → counts other = false

/-- What a failing reply is reported as: the text that its body tells, else a body of up to 200 bytes, else the phrase of
its status. -/
inductive Reported (counts : String → Bool) (r : Reply) : String → Prop where
  | told {text : String} (tells : Tells counts r.body text) : Reported counts r text
  | plain (silent : ∀ text, ¬Tells counts r.body text) (written : Text.trim r.body ≠ "")
    (short : (Text.trim r.body).utf8ByteSize ≤ 200) : Reported counts r (Text.trim r.body)
  | phrase (silent : ∀ text, ¬Tells counts r.body text)
    (unfit : Text.trim r.body = "" ∨ 200 < (Text.trim r.body).utf8ByteSize) :
    Reported counts r ((reasons.lookup r.status).getD "request failed")

/-- There is something to see in the text. -/
def isVisible (text : String) : Bool :=
  !Text.isBlankText text

def told? (counts : String → Bool) (body : String) : Option String :=
  (Json.parse body).toOption.bind fun v =>
    detailKeys.findSome? fun key => ((v.member? key).bind Json.text?).filter counts

private theorem member_text_iff (v : Json) (key text : String) :
    (v.member? key).bind Json.text? = some text ↔ v.member? key = some (.text text) := by
  rw [Option.bind_eq_some_iff]
  constructor
  · rintro ⟨w, found, shows⟩
    cases w <;> simp_all [Json.text?]
  · intro found
    exact ⟨_, found, rfl⟩

private theorem parsed_iff (body : String) (v : Json) : (Json.parse body).toOption = some v ↔ Json.parse body = .ok v := by
  cases Json.parse body <;> simp [Except.toOption]

theorem told?_iff (counts : String → Bool) (body text : String) : told? counts body = some text ↔ Tells counts body text := by
  unfold told? Tells
  rw [Option.bind_eq_some_iff]
  simp only [List.findSome?_eq_some_iff, Option.filter_eq_some_iff, Option.filter_eq_none_iff, member_text_iff, and_assoc,
    parsed_iff, Bool.not_eq_true]

theorem told?_none_iff (counts : String → Bool) (body : String) :
    told? counts body = none ↔ ∀ text, ¬Tells counts body text := by
  simp only [Option.eq_none_iff_forall_ne_some, ne_eq, told?_iff]

private theorem filter_any {α : Type} (a : Option α) : a.filter (fun _ => true) = a := by
  cases a <;> rfl

private theorem findSome?_counted {α : Type} (counts : String → Bool) (f : α → Option String) (l : List α)
    (first : ∀ text, l.findSome? f = some text → counts text = true) :
    l.findSome? (fun a => (f a).filter counts) = l.findSome? f := by
  induction l with
  | nil => rfl
  | cons a rest ih =>
    rw [List.findSome?_cons] at first
    rw [List.findSome?_cons, List.findSome?_cons]
    cases found : f a with
    | none =>
      rw [found] at first
      exact ih first
    | some text =>
      rw [found] at first
      rw [Option.filter_some_pos (first text rfl)]

/-- When the first text counts, it is the first one that counts. -/
theorem told?_counted (counts : String → Bool) (body : String)
    (first : ∀ text, told? (fun _ => true) body = some text → counts text = true) :
    told? counts body = told? (fun _ => true) body := by
  unfold told? at first ⊢
  generalize (Json.parse body).toOption = parsed at first ⊢
  cases parsed with
  | none => rfl
  | some v =>
    simp only [Option.bind_some, filter_any] at first ⊢
    exact findSome?_counted counts _ detailKeys first

def plain? (body : String) : Option String :=
  if Text.trim body ≠ "" ∧ (Text.trim body).utf8ByteSize ≤ 200 then some (Text.trim body) else none

def phrase (status : Nat) : String :=
  (reasons.lookup status).getD "request failed"

/-- The text of the report. -/
def report (counts : String → Bool) (r : Reply) : String :=
  ((told? counts r.body).or (plain? r.body)).getD (phrase r.status)

theorem reported_iff (counts : String → Bool) (r : Reply) (text : String) :
    Reported counts r text ↔ text = report counts r := by
  constructor
  · intro reported
    unfold report plain?
    cases reported with
    | told tells => rw [(told?_iff _ _ _).mpr tells, Option.some_or, Option.getD_some]
    | plain silent written short =>
      rw [(told?_none_iff _ _).mpr silent, Option.none_or, if_pos ⟨written, short⟩, Option.getD_some]
    | phrase silent unfit =>
      rw [(told?_none_iff _ _).mpr silent, Option.none_or, if_neg, Option.getD_none]
      · rfl
      · rintro ⟨written, short⟩
        exact unfit.elim written (Nat.not_lt.mpr short)
  · rintro rfl
    unfold report
    cases told : told? counts r.body with
    | some text => exact .told ((told?_iff _ _ _).mp told)
    | none =>
      have silent := (told?_none_iff _ _).mp told
      rw [Option.none_or]
      unfold plain?
      split
      · rename_i fit
        exact .plain silent fit.1 fit.2
      · rename_i unfit
        exact .phrase silent (by rwa [not_and_or, not_not, not_le] at unfit)

theorem failure_eq {r : Reply} (whole : r.cut = false) : r.failure = .status r.status (report (fun _ => true) r) := by
  have alike : detail? r.body = (told? (fun _ => true) r.body).or (plain? r.body) := by
    unfold detail? told? plain? detailKeys
    simp only [filter_any, Bool.and_eq_true, bne_iff_ne, ne_eq, decide_eq_true_eq]
    rfl
  unfold failure report
  rw [whole, if_neg Bool.false_ne_true, alike]
  rfl

theorem isVisible_phrase (status : Nat) : isVisible (phrase status) = true := by
  unfold phrase
  cases found : reasons.lookup status with
  | none => decide
  | some text =>
    have all : ∀ entry ∈ reasons, isVisible entry.2 = true := by decide +kernel
    obtain ⟨before, after, split, -⟩ := List.lookup_eq_some_iff.mp found
    exact all (status, text) (by simp [split])

theorem isVisible_plain {body text : String} (plain : plain? body = some text) : isVisible text = true := by
  unfold plain? at plain
  obtain ⟨⟨written, -⟩, same⟩ := Option.ite_none_right_eq_some.mp plain
  obtain rfl := Option.some.inj same
  rw [Ne, Text.trim_empty_iff, ← Text.isBlankText_trim, Bool.not_eq_true] at written
  rw [isVisible, written]
  rfl

/-- A report of texts with something to see is never blank. -/
theorem visible_report (r : Reply) : isVisible (report isVisible r) = true := by
  unfold report
  cases told : told? isVisible r.body with
  | some text =>
    obtain ⟨v, -, before, key, after, -, -, counts, -⟩ := (told?_iff _ _ _).mp told
    exact counts
  | none =>
    rw [Option.none_or]
    cases plain : plain? r.body with
    | some text => exact isVisible_plain plain
    | none => exact isVisible_phrase r.status

/-- Whether a text counts that shows nothing makes a difference exactly when the body tells one. -/
theorem report_visible_iff (r : Reply) : report (fun _ => true) r = report isVisible r ↔
    ∀ text, Tells (fun _ => true) r.body text → isVisible text = true := by
  constructor
  · intro same text tells
    have first : report (fun _ => true) r = text := by
      unfold report
      rw [(told?_iff _ _ _).mpr tells, Option.some_or, Option.getD_some]
    rw [← first, same]
    exact visible_report r
  · intro visible
    unfold report
    rw [told?_counted isVisible r.body fun text first => visible text ((told?_iff _ _ _).mp first)]

theorem isSuccess_iff (r : Reply) : r.isSuccess = true ↔ 200 ≤ r.status ∧ r.status < 300 := by
  simp [isSuccess]

/-- How a whole reply is taken by an endpoint that reads payloads in this way. -/
structure Taken {α : Type} (read : String → Except Json.Error α) (r : Reply) (result : Except Failure α) : Prop where
  ok : ∀ a, result = .ok a ↔ (200 ≤ r.status ∧ r.status < 300) ∧ read r.body = .ok a
  payload : ∀ text, result = .error (.payload text) ↔
    (200 ≤ r.status ∧ r.status < 300) ∧ ∃ wrong, read r.body = .error wrong ∧ text = wrong.message
  status : ∀ code text, result = .error (.status code text) ↔
    ¬(200 ≤ r.status ∧ r.status < 300) ∧ code = r.status ∧ Reported (fun _ => true) r text
  network : ∀ text, result ≠ .error (.network text)

theorem taken_failing {α : Type} (read : String → Except Json.Error α) {r : Reply} (whole : r.cut = false)
    (failing : r.isSuccess = false) : Taken read r (.error r.failure) := by
  rw [← Bool.not_eq_true, isSuccess_iff] at failing
  rw [failure_eq whole]
  refine ⟨fun a => ?_, fun text => ?_, fun code text => ?_, nofun⟩
  · simp [failing]
  · simp [failing]
  · simp only [failing, not_false_eq_true, true_and, reported_iff, Except.error.injEq, Failure.status.injEq, @eq_comm _ r.status,
      @eq_comm _ text]

theorem taken_successful {α : Type} (read : String → Except Json.Error α) {r : Reply} (good : r.isSuccess = true) :
    Taken read r ((read r.body).mapError fun wrong => .payload wrong.message) := by
  rw [isSuccess_iff] at good
  cases came : read r.body with
  | ok a =>
    refine ⟨fun other => ?_, fun text => ?_, fun code text => ?_, nofun⟩
    · simp [Except.mapError, good, came]
    · simp [Except.mapError, came]
    · simp [Except.mapError, good]
  | error wrong =>
    refine ⟨fun other => ?_, fun text => ?_, fun code text => ?_, nofun⟩
    · simp [Except.mapError, came]
    · simp [Except.mapError, good, came, eq_comm]
    · simp [Except.mapError, good]

theorem taken_decode {α : Type} (d : Json.Decoder α) {r : Reply} (whole : r.cut = false) :
    Taken d.ofText r (r.decode d) := by
  cases good : r.isSuccess with
  | false =>
    unfold decode
    rw [good]
    exact taken_failing d.ofText whole good
  | true =>
    have same : r.decode d = (d.ofText r.body).mapError fun wrong => .payload wrong.message := by
      unfold decode
      rw [good, whole]
      cases d.ofText r.body <;> rfl
    exact same ▸ taken_successful d.ofText good

theorem taken_confirm {r : Reply} (whole : r.cut = false) : Taken (fun _ => .ok ()) r r.confirm := by
  unfold confirm
  cases good : r.isSuccess with
  | false => exact taken_failing _ whole good
  | true => exact taken_successful (fun _ => .ok ()) good

end Reply

theorem Endpoint.Reads.taken {α : Type} {e : Endpoint α} {read : String → Except Json.Error α} (reads : e.Reads read)
    {r : Reply} (whole : r.cut = false) : r.Taken read (e.read r) := by
  cases reads with
  | deletePortfolio id => exact Reply.taken_confirm whole
  | _ => exact Reply.taken_decode _ whole

namespace Client

theorem call_final {α : Type} {e : Endpoint α} {c : Client} {b : Backend} {past : List Request} {q : Request} {r : Reply}
    (made : c.request e = .ok q) (came : b past q = some r) (final : r.redirected? q = none) :
    c.call b past e = (past ++ [q], e.read r) := by
  unfold call
  simp only [made]
  unfold Backend.exchange Backend.follow
  simp only [came, final]
  rfl

/-- A reply that is whole and no redirection gives what its endpoint reads, a payload error when that cannot be read, and
with a failing status a status error. Its text shows something, unless the body tells one that does not: then, and only
then, it is not the first text in which there is something to see. -/
theorem reply_taken {α : Type} {e : Endpoint α} {read : String → Except Json.Error α} (reads : e.Reads read) (c : Client)
    (b : Backend) (past : List Request) {q : Request} {r : Reply} (made : c.request e = .ok q)
    (came : b past q = some r) (final : r.redirected? q = none) (whole : r.cut = false) :
    r.Taken read (c.call b past e).2 ∧
      ∃ told wanted, (∀ text, r.Reported (fun _ => true) text ↔ text = told) ∧
        (∀ text, r.Reported Reply.isVisible text ↔ text = wanted) ∧ Reply.isVisible wanted = true ∧
        (told = wanted ↔ ∀ text, Reply.Tells (fun _ => true) r.body text → Reply.isVisible text = true) := by
  refine ⟨?_, Reply.report (fun _ => true) r, Reply.report Reply.isVisible r, Reply.reported_iff _ r,
    Reply.reported_iff _ r, Reply.visible_report r, Reply.report_visible_iff r⟩
  rw [call_final made came final]
  exact reads.taken whole

/-- A reply whose detail is no text. -/
def busy : Reply := { status := 503, body := "\x7b\"detail\":[7],\"message\":\"Busy\"\x7d" }

theorem busy_taken :
    request (.portfolio 7) ⟨"http://desk/api", none⟩ =
        .ok ⟨.get, ⟨"http", "desk", "/api/portfolios/7", none, none⟩, none, none⟩ ∧
      busy.redirected? ⟨.get, ⟨"http", "desk", "/api/portfolios/7", none, none⟩, none, none⟩ = none ∧ busy.cut = false ∧
      (call (fun _ _ => some busy) [] (.portfolio 7) ⟨"http://desk/api", none⟩).2 = .error (.status 503 "Busy") := by
  have made : request (.portfolio 7) ⟨"http://desk/api", none⟩ =
      .ok ⟨.get, ⟨"http", "desk", "/api/portfolios/7", none, none⟩, none, none⟩ := by decide +kernel
  have told : busy.Reported (fun _ => true) "Busy" := (Reply.reported_iff _ _ _).mpr (by decide +kernel)
  have taken := (reply_taken (.portfolio 7) ⟨"http://desk/api", none⟩ (fun _ _ => some busy) [] made rfl rfl rfl).1
  exact ⟨made, rfl, rfl, (taken.status 503 "Busy").mpr ⟨by decide, rfl, told⟩⟩

/-- A reply whose detail is a text without anything to see. -/
def halted : Reply := { status := 403, body := "\x7b\"detail\":\"\",\"error\":\"Trading halted\"\x7d" }

/-- The report is blank, although the body tells what is wrong. -/
theorem blank_detail_reported :
    (call (fun _ _ => some halted) [] .exchanges ⟨"http://desk/api", none⟩).2 = .error (.status 403 "") ∧
      Reply.isVisible "" = false ∧ halted.Reported Reply.isVisible "Trading halted" := by
  refine ⟨by decide +kernel, rfl, (Reply.reported_iff _ _ _).mpr ?_⟩
  decide +kernel

end Client
end TradingDesk
