import TradingDesk.Desk.Run
import TradingDesk.Proofs.Desk.Actions
import TradingDesk.Proofs.Form.Orders

/-! What an order command puts on the wire. -/

namespace TradingDesk

/-- The order that the texts of a command stand for. A blank price counts as none. -/
structure Ordered (symbol amount side : String) (price exchangeId : Option String) (o : NewOrder) : Prop where
  named : Text.isBlankText symbol = false
  symbol : o.symbol = Text.upper (Text.trim symbol)
  side : Side.ofName (Text.trim side) = .ok o.side
  amount : Denotes amount o.amount
  market : (∀ text ∈ price, Text.isBlankText text = true) → o.kind = some .market ∧ o.price = none
  limit : ∀ text ∈ price, Text.isBlankText text = false →
    o.kind = some .limit ∧ ∃ x, o.price = some x ∧ Denotes text x
  exchangeId : o.exchangeId = exchangeId

namespace OrderDraft

/-- The draft of a command makes an order exactly when its texts stand for one. -/
theorem build_iff (symbol amount side : String) (price exchangeId : Option String) (o : NewOrder) :
    build { symbol, side, amount, price := price.getD "", exchangeId } = .ok o ↔
      Ordered symbol amount side price exchangeId o := by
  rw [build_ok_iff]
  simp only [sideOf_iff, positive_iff]
  constructor
  · rintro ⟨named, s, a, p, sided, denotes, priced, rfl⟩
    refine ⟨named, rfl, sided, denotes, fun blank => ?_, fun text given written => ?_, rfl⟩
    · have blank' : Text.isBlankText (price.getD "") = true := by
        cases price with
        | none => rfl
        | some text => exact blank text rfl
      rw [priceOf_blank blank'] at priced
      obtain rfl := Except.ok.inj priced
      exact ⟨rfl, rfl⟩
    · obtain rfl := Option.mem_def.mp given
      obtain ⟨x, rfl, value⟩ := (priceOf_iff written p).mp priced
      exact ⟨rfl, x, rfl, value⟩
  · rintro ⟨named, upper, sided, denotes, market, limit, exchange⟩
    obtain ⟨osymbol, oside, okind, oamount, oprice, oexchange⟩ := o
    obtain rfl := upper
    obtain rfl := exchange
    refine ⟨named, oside, oamount, oprice, sided, denotes, ?_⟩
    have blank_or : (∀ text ∈ price, Text.isBlankText text = true) ∨
        ∃ text, price = some text ∧ Text.isBlankText text = false := by
      cases price with
      | none => exact .inl nofun
      | some text =>
        cases written : Text.isBlankText text with
        | true => exact .inl fun t given => (Option.mem_some.mp given) ▸ written
        | false => exact .inr ⟨text, rfl, written⟩
    rcases blank_or with blank | ⟨text, rfl, written⟩
    · obtain ⟨rfl, rfl⟩ := market blank
      refine ⟨priceOf_blank ?_, rfl⟩
      cases price with
      | none => rfl
      | some text => exact blank text rfl
    · obtain ⟨rfl, x, rfl, value⟩ := limit text rfl written
      exact ⟨(priceOf_iff written (some x)).mpr ⟨x, rfl, value⟩, rfl⟩

end OrderDraft

namespace Desk

theorem placeOrder_rejected {draft : OrderDraft} {r : Rejection} (built : draft.build = .error r) (d : Desk) :
    run (placeOrder draft) d = (.error (.rejection r), d) := by
  unfold placeOrder
  rw [built]
  rfl

/-- A draft that makes an order sends what the call sends; what is written and logged after it is not sent. -/
theorem placeOrder_sent {draft : OrderDraft} {o : NewOrder} (built : draft.build = .ok o) (d : Desk) :
    ∃ outcome after, run (placeOrder draft) d = (outcome, after) ∧
      after.sent = (d.client.call d.backend d.sent (.createOrder o)).1 ∧
      ∀ f, (d.client.call d.backend d.sent (.createOrder o)).2 = .error f → outcome = .error (.failure f) := by
  unfold placeOrder
  simp only [built, pure_bind]
  refine ask_then (.createOrder o) (fun answer => ?_) d
  exact offline_bind (offline_note _) fun _ => offline_line _

/-- The members of the body are the order's: without a price there is none. -/
theorem order_members (o : NewOrder) : o.toJson.member? "order_type" = o.kind.map OrderKind.toJson ∧
    o.toJson.member? "price" = o.price.map Json.double := by
  obtain ⟨symbol, side, kind, amount, price, exchangeId⟩ := o
  cases kind <;> cases price <;> cases exchangeId <;> exact ⟨rfl, rfl⟩

/-- An order command sends nothing when a text is rejected, and otherwise the one order that its texts stand for, with a
price exactly when that has one; what follows it on the wire is that request again, where a redirection asks for it. -/
theorem order_sent (symbol amount side : String) (price exchangeId : Option String) (d : Desk) :
    ∃ outcome after, run (carryOut (.placeOrder symbol amount side price exchangeId)) d = (outcome, after) ∧
      ((∃ r, outcome = .error (.rejection r) ∧ after.sent = d.sent ∧
          ∀ o, ¬Ordered symbol amount side price exchangeId o) ∨
        ∃ o, Ordered symbol amount side price exchangeId o ∧
          o.toJson.member? "order_type" = o.kind.map OrderKind.toJson ∧
          o.toJson.member? "price" = o.price.map Json.double ∧
          ((∃ f, outcome = .error (.failure f) ∧ after.sent = d.sent ∧ d.client.request (.createOrder o) = .error f) ∨
            ∃ r rest, after.sent = d.sent ++ r :: rest ∧ r.verb = .post ∧ r.body = some o.toJson.write ∧
              Redirected d.backend d.sent r rest ∧ ∀ q ∈ rest, r.Repeats q)) := by
  obtain ⟨c, told, ran, aside, -⟩ := assetClass_ok d
  have carried : run (carryOut (.placeOrder symbol amount side price exchangeId)) d =
      run (placeOrder ⟨symbol, side, amount, price.getD "", exchangeId⟩) told := run_bind_ok ran _
  rw [carried]
  cases built : OrderDraft.build ⟨symbol, side, amount, price.getD "", exchangeId⟩ with
  | error r =>
    refine ⟨_, _, placeOrder_rejected built told, .inl ⟨r, rfl, aside.sent, fun o ordered => ?_⟩⟩
    rw [(OrderDraft.build_iff symbol amount side price exchangeId o).mpr ordered] at built
    exact absurd built nofun
  | ok o =>
    have ordered := (OrderDraft.build_iff symbol amount side price exchangeId o).mp built
    obtain ⟨outcome, after, placed, sent, failed⟩ := placeOrder_sent built told
    rw [aside.client, aside.backend, aside.sent] at sent failed
    obtain ⟨kind, price⟩ := order_members o
    refine ⟨outcome, after, placed, .inr ⟨o, ordered, kind, price, ?_⟩⟩
    rcases d.client.call_sent d.backend d.sent (.createOrder o) with
      ⟨f, unbuildable, called⟩ | ⟨r, rest, made, called, redirected⟩
    · rw [called] at sent failed
      exact .inl ⟨f, failed f rfl, sent, unbuildable⟩
    · obtain ⟨verb, body, -⟩ := d.client.request_ok (.createOrder o) made
      exact .inr ⟨r, rest, sent.trans called, verb, body, redirected, redirected.repeats (.inr ⟨rfl, rfl⟩)⟩

/-- A price of one blank is given, and the order goes out as a market order. -/
theorem blank_price_sent :
    (run (carryOut (.placeOrder "BTC/USDT" "1" "buy" (some " ") none))
      { backend := fun _ _ => none, client := ⟨"http://desk/api", none⟩ }).2.sent.map
        (fun r => (r.verb, r.url.text, r.body)) =
      [(.post, "http://desk/api/trading/orders",
        some "\x7b\"symbol\":\"BTC/USDT\",\"side\":\"buy\",\"order_type\":\"market\",\"amount\":1.0\x7d")] := by
  decide +kernel

end Desk
end TradingDesk
