import TradingDesk.Payload.Market
import TradingDesk.Payload.Portfolio
import TradingDesk.Payload.Risk
import TradingDesk.Payload.Trade
import TradingDesk.Payload.Workflow
import TradingDesk.Proofs.Json.Joined
import TradingDesk.Proofs.Table

/-! Every payload that is both read and written is read back from the object it is written as, and from that object
with its members in another order, with more members, or without those that hold their default. The payloads it holds
may be spelled in other ways too. -/

namespace TradingDesk
open Json Json.Record Json.Decoder

/-- How a kind of value is read and written: the keys it names, and the members that may be left out because they hold
the defaults of their keys. -/
structure Format (α : Type) where
  decoder : Decoder α
  toJson : α → Json
  keys : List String
  defaults : List (String × Json)

/-- The payloads that are both read and written. -/
inductive Payload where
  | holding
  | portfolio
  | ticker
  | bar
  | exchange
  | order
  | riskStatus
  | riskLimits
  | limitsUpdate
  | valueAtRisk
  | heatCheck
  | workflow
  | workflowRun
  | workflowStep
  | workflowDetail
  | stepRun
  | runDetail

def Workflow.defaults : List (String × Json) :=
  [("description", .text ""), ("asset_class", .null), ("schedule_enabled", .bool false),
    ("schedule_interval_seconds", .null), ("step_count", .integer 0), ("run_count", .integer 0), ("last_run_at", .null)]

def WorkflowRun.defaults : List (String × Json) :=
  [("workflow_id", .text ""), ("trigger", .text ""), ("current_step", .integer 0), ("total_steps", .integer 0),
    ("started_at", .null), ("completed_at", .null), ("error", .text "")]

namespace Payload

abbrev Value : Payload → Type
  | .holding => Holding
  | .portfolio => Portfolio
  | .ticker => Ticker
  | .bar => Bar
  | .exchange => Exchange
  | .order => Order
  | .riskStatus => RiskStatus
  | .riskLimits => RiskLimits
  | .limitsUpdate => LimitsUpdate
  | .valueAtRisk => ValueAtRisk
  | .heatCheck => HeatCheck
  | .workflow => Workflow
  | .workflowRun => WorkflowRun
  | .workflowStep => WorkflowStep
  | .workflowDetail => WorkflowDetail
  | .stepRun => StepRun
  | .runDetail => RunDetail

def format : (k : Payload) → Format k.Value
  | .holding => ⟨Holding.decoder, Holding.toJson, Holding.record.keys,
    [("id", .integer 0), ("portfolio_id", .integer 0), ("amount", .double 0), ("avg_buy_price", .double 0),
      ("created_at", .text ""), ("updated_at", .text "")]⟩
  | .portfolio => ⟨Portfolio.decoder, Portfolio.toJson, Portfolio.record.keys,
    [("exchange_id", .text ""), ("description", .text ""), ("holdings", .list []), ("created_at", .text ""),
      ("updated_at", .text "")]⟩
  | .ticker => ⟨Ticker.decoder, Ticker.toJson, Ticker.record.keys,
    [("volume_24h", .double 0), ("change_24h", .double 0), ("high_24h", .double 0), ("low_24h", .double 0),
      ("timestamp", .text "")]⟩
  | .bar => ⟨Bar.decoder, Bar.toJson, Bar.record.keys, [("volume", .double 0)]⟩
  | .exchange => ⟨Exchange.decoder, Exchange.toJson, Exchange.record.keys,
    [("countries", .list []), ("has_fetch_tickers", .bool false), ("has_fetch_ohlcv", .bool false)]⟩
  | .order => ⟨Order.decoder, Order.toJson, Order.record.keys,
    [("exchange_id", .text ""), ("exchange_order_id", .text ""), ("order_type", .text "market"), ("price", .double 0),
      ("filled", .double 0), ("status", .text ""), ("timestamp", .text ""), ("created_at", .text ""),
      ("updated_at", .text "")]⟩
  | .riskStatus => ⟨RiskStatus.decoder, RiskStatus.toJson, RiskStatus.record.keys, [("halt_reason", .text "")]⟩
  | .riskLimits => ⟨RiskLimits.decoder, RiskLimits.toJson, RiskLimits.record.keys, []⟩
  | .limitsUpdate => ⟨LimitsUpdate.decoder, LimitsUpdate.toJson, LimitsUpdate.record.keys, []⟩
  | .valueAtRisk => ⟨ValueAtRisk.decoder, ValueAtRisk.toJson, ValueAtRisk.record.keys, []⟩
  | .heatCheck => ⟨HeatCheck.decoder, HeatCheck.toJson, HeatCheck.record.keys,
    [("issues", .list []), ("max_correlation", .double 0), ("max_concentration", .double 0), ("var_95", .double 0),
      ("var_99", .double 0), ("cvar_95", .double 0), ("cvar_99", .double 0), ("is_halted", .bool false)]⟩
  | .workflow => ⟨Workflow.decoder, Workflow.toJson, Workflow.record.keys, Workflow.defaults⟩
  | .workflowRun => ⟨WorkflowRun.decoder, WorkflowRun.toJson, WorkflowRun.record.keys, WorkflowRun.defaults⟩
  | .workflowStep => ⟨WorkflowStep.decoder, WorkflowStep.toJson, WorkflowStep.record.keys, [("condition", .null)]⟩
  | .workflowDetail => ⟨WorkflowDetail.decoder, WorkflowDetail.toJson,
    Workflow.record.keys ++ WorkflowDetail.own.keys, Workflow.defaults ++ [("steps", .list [])]⟩
  | .stepRun => ⟨StepRun.decoder, StepRun.toJson, StepRun.record.keys,
    [("step_type", .text ""), ("duration_seconds", .null), ("error", .text ""), ("condition_met", .bool true)]⟩
  | .runDetail => ⟨RunDetail.decoder, RunDetail.toJson, WorkflowRun.record.keys ++ RunDetail.own.keys,
    WorkflowRun.defaults ++ [("step_runs", .list [])]⟩

/-- Another spelling of an object with these members. -/
def Respells (k : Payload) (members : List (String × Json)) (v : Json) : Prop :=
  ∃ others, v = .object others ∧ Respelled k.format.keys k.format.defaults members others

/-- The value is put down as the object it is written as, spelled in another way. -/
def Flat (k : Payload) (x : k.Value) (v : Json) : Prop :=
  ∃ members, k.format.toJson x = .object members ∧ k.Respells members v

/-- The members with other items in one list. -/
def relisted (key : String) (items : List Json) (members : List (String × Json)) : List (String × Json) :=
  members.map fun m => if m.1 = key then (key, .list items) else m

/-- The ways to put a value down: the payloads in a list may be spelled in other ways too. -/
inductive Spelling : (k : Payload) → k.Value → Json → Prop
  | flat {k : Payload} {x : k.Value} {v : Json} (flat : k.Flat x v) : Spelling k x v
  | portfolio {p : Portfolio} {members : List (String × Json)} {holdings : List Json} {v : Json}
    (written : p.toJson = .object members) (inner : List.Forall₂ (Flat .holding) p.holdings holdings)
    (respells : portfolio.Respells (relisted "holdings" holdings members) v) : Spelling .portfolio p v
  | workflowDetail {d : WorkflowDetail} {members : List (String × Json)} {steps : List Json} {v : Json}
    (written : d.toJson = .object members) (inner : List.Forall₂ (Flat .workflowStep) d.steps steps)
    (respells : workflowDetail.Respells (relisted "steps" steps members) v) : Spelling .workflowDetail d v
  | runDetail {d : RunDetail} {members : List (String × Json)} {runs : List Json} {v : Json}
    (written : d.toJson = .object members) (inner : List.Forall₂ (Flat .stepRun) d.stepRuns runs)
    (respells : runDetail.Respells (relisted "step_runs" runs members) v) : Spelling .runDetail d v

end Payload

/-! Each record reads what its value is written as. -/

/-- The value is an object that gives the record its fields; the defaults may be left out. -/
def Json.Record.Reads {α : Type} (r : Record α) (a : α) (v : Json) (defaults : List (String × Json)) : Prop :=
  ∃ members, v = .object members ∧ Spells r a members defaults

theorem Json.Record.Reads.takes {α : Type} {r : Record α} {a : α} {v : Json}
    {defaults members others : List (String × Json)} (reads : r.Reads a v defaults) (name : String)
    (distinct : r.keys.Nodup) (written : v = .object members)
    (respelled : Respelled r.keys defaults members others) : (r.decoder name).Takes (.object others) a := by
  obtain ⟨found, rfl, spells⟩ := reads
  obtain rfl := Json.object.inj written
  exact takes_decoder name spells distinct respelled

theorem Json.Record.Reads.takes_written {α : Type} {r : Record α} {a : α} {v : Json} {defaults : List (String × Json)}
    (reads : r.Reads a v defaults) (name : String) (distinct : r.keys.Nodup) : (r.decoder name).Takes v a := by
  obtain ⟨members, rfl, spells⟩ := reads
  exact takes_decoder name spells distinct (.refl _ _ _)

/-- What is written is read again when its members have been sorted. -/
theorem Json.Record.Reads.takes_inOrder {α : Type} {r : Record α} {a : α} {v : Json}
    {defaults members : List (String × Json)} (reads : r.Reads a v defaults) (name : String) (distinct : r.keys.Nodup)
    (written : v = .object members) (settled : ∀ m ∈ members, m.2.inOrder = m.2) :
    (r.decoder name).Takes v.inOrder a := by
  obtain ⟨found, rfl, spells⟩ := reads
  obtain rfl := Json.object.inj written
  have sorted := Table.perm_ofList (spells.named.nodup distinct)
  rw [Json.inOrder, membersInOrder_same settled]
  exact takes_decoder name spells distinct ⟨found, [], [], by simp, by simpa using sorted, by simp, by simp⟩

theorem Holding.reads (h : Holding) : record.Reads h h.toJson Payload.holding.format.defaults :=
  ⟨_, rfl, Spells.pure Holding.mk
    |>.seq (.default (takes_int64 h.id) (takes_int64 0))
    |>.seq (.default (takes_int64 h.portfolioId) (takes_int64 0))
    |>.seq (.required (takes_text h.symbol))
    |>.seq (.default (takes_double h.amount) (takes_double 0))
    |>.seq (.default (takes_double h.avgBuyPrice) (takes_double 0))
    |>.seq (.default (takes_text h.createdAt) (takes_text ""))
    |>.seq (.default (takes_text h.updatedAt) (takes_text ""))⟩

theorem Ticker.reads (t : Ticker) : record.Reads t t.toJson Payload.ticker.format.defaults :=
  ⟨_, rfl, Spells.pure Ticker.mk
    |>.seq (.required (takes_text t.symbol))
    |>.seq (.required (takes_double t.price))
    |>.seq (.default (takes_double t.volume) (takes_double 0))
    |>.seq (.default (takes_double t.change) (takes_double 0))
    |>.seq (.default (takes_double t.high) (takes_double 0))
    |>.seq (.default (takes_double t.low) (takes_double 0))
    |>.seq (.default (takes_text t.timestamp) (takes_text ""))⟩

theorem Bar.reads (b : Bar) : record.Reads b b.toJson Payload.bar.format.defaults :=
  ⟨_, rfl, Spells.pure Bar.mk
    |>.seq (.required (takes_int64 b.timestamp))
    |>.seq (.required (takes_double b.opening))
    |>.seq (.required (takes_double b.high))
    |>.seq (.required (takes_double b.low))
    |>.seq (.required (takes_double b.closing))
    |>.seq (.default (takes_double b.volume) (takes_double 0))⟩

theorem Exchange.reads (x : Exchange) : record.Reads x x.toJson Payload.exchange.format.defaults :=
  ⟨_, rfl, Spells.pure Exchange.mk
    |>.seq (.required (takes_text x.id))
    |>.seq (.required (takes_text x.name))
    |>.seq (.default (takes_map takes_text x.countries) (takes_map takes_text []))
    |>.seq (.default (takes_bool x.hasTickers) (takes_bool false))
    |>.seq (.default (takes_bool x.hasBars) (takes_bool false))⟩

theorem Order.reads (o : Order) : record.Reads o o.toJson Payload.order.format.defaults :=
  ⟨_, rfl, Spells.pure Order.mk
    |>.seq (.required (takes_int64 o.id))
    |>.seq (.default (takes_text o.exchangeId) (takes_text ""))
    |>.seq (.default (takes_text o.exchangeOrderId) (takes_text ""))
    |>.seq (.required (takes_text o.symbol))
    |>.seq (.required (takes_side o.side))
    |>.seq (.default (takes_text o.kind) (takes_text "market"))
    |>.seq (.required (takes_double o.amount))
    |>.seq (.default (takes_double o.price) (takes_double 0))
    |>.seq (.default (takes_double o.filled) (takes_double 0))
    |>.seq (.default (takes_text o.status) (takes_text ""))
    |>.seq (.default (takes_text o.timestamp) (takes_text ""))
    |>.seq (.default (takes_text o.createdAt) (takes_text ""))
    |>.seq (.default (takes_text o.updatedAt) (takes_text ""))⟩

theorem RiskStatus.reads (s : RiskStatus) : record.Reads s s.toJson Payload.riskStatus.format.defaults :=
  ⟨_, rfl, Spells.pure RiskStatus.mk
    |>.seq (.required (takes_double s.equity))
    |>.seq (.required (takes_double s.peakEquity))
    |>.seq (.required (takes_double s.drawdown))
    |>.seq (.required (takes_double s.dailyPnl))
    |>.seq (.required (takes_double s.totalPnl))
    |>.seq (.required (takes_nat32 s.openPositions))
    |>.seq (.required (takes_bool s.isHalted))
    |>.seq (.default (takes_text s.haltReason) (takes_text ""))⟩

theorem RiskLimits.reads (l : RiskLimits) : record.Reads l l.toJson Payload.riskLimits.format.defaults :=
  ⟨_, rfl, Spells.pure RiskLimits.mk
    |>.seq (.required (takes_double l.maxPortfolioDrawdown))
    |>.seq (.required (takes_double l.maxSingleTradeRisk))
    |>.seq (.required (takes_double l.maxDailyLoss))
    |>.seq (.required (takes_nat32 l.maxOpenPositions))
    |>.seq (.required (takes_double l.maxPositionSizePct))
    |>.seq (.required (takes_double l.maxCorrelation))
    |>.seq (.required (takes_double l.minRiskReward))
    |>.seq (.required (takes_double l.maxLeverage))⟩

theorem LimitsUpdate.reads (u : LimitsUpdate) : record.Reads u u.toJson Payload.limitsUpdate.format.defaults := by
  have number (x : Float) : (optional Decoder.double).Takes (.double x) (some x) :=
    takes_some (takes_double x) nofun
  have count (n : UInt32) : (optional Decoder.nat32).Takes (.ofNat n.toNat) (some n) :=
    takes_some (takes_nat32 n) nofun
  exact ⟨_, rfl, Spells.pure LimitsUpdate.mk
    |>.seq (.mayBe (o := u.maxPortfolioDrawdown) number)
    |>.seq (.mayBe (o := u.maxSingleTradeRisk) number)
    |>.seq (.mayBe (o := u.maxDailyLoss) number)
    |>.seq (.mayBe (o := u.maxOpenPositions) count)
    |>.seq (.mayBe (o := u.maxPositionSizePct) number)
    |>.seq (.mayBe (o := u.maxCorrelation) number)
    |>.seq (.mayBe (o := u.minRiskReward) number)
    |>.seq (.mayBe (o := u.maxLeverage) number)⟩

theorem ValueAtRisk.reads (v : ValueAtRisk) : record.Reads v v.toJson Payload.valueAtRisk.format.defaults :=
  ⟨_, rfl, Spells.pure ValueAtRisk.mk
    |>.seq (.required (takes_double v.var95))
    |>.seq (.required (takes_double v.var99))
    |>.seq (.required (takes_double v.cvar95))
    |>.seq (.required (takes_double v.cvar99))
    |>.seq (.required (takes_text v.method))
    |>.seq (.required (takes_nat32 v.windowDays))⟩

theorem HeatCheck.reads (h : HeatCheck) : record.Reads h h.toJson Payload.heatCheck.format.defaults :=
  ⟨_, rfl, Spells.pure HeatCheck.mk
    |>.seq (.required (takes_bool h.healthy))
    |>.seq (.default (takes_map takes_text h.issues) (takes_map takes_text []))
    |>.seq (.required (takes_double h.drawdown))
    |>.seq (.required (takes_double h.dailyPnl))
    |>.seq (.required (takes_nat32 h.openPositions))
    |>.seq (.default (takes_double h.maxCorrelation) (takes_double 0))
    |>.seq (.default (takes_double h.maxConcentration) (takes_double 0))
    |>.seq (.default (takes_double h.var95) (takes_double 0))
    |>.seq (.default (takes_double h.var99) (takes_double 0))
    |>.seq (.default (takes_double h.cvar95) (takes_double 0))
    |>.seq (.default (takes_double h.cvar99) (takes_double 0))
    |>.seq (.default (takes_bool h.isHalted) (takes_bool false))⟩

theorem takes_textOption (o : Option String) : (optional Decoder.text).Takes (ofOption .text o) o :=
  takes_option takes_text (fun _ => nofun) o

theorem Workflow.spells (w : Workflow) : Spells record w w.members defaults :=
  Spells.pure Workflow.mk
    |>.seq (.required (takes_text w.id))
    |>.seq (.required (takes_text w.name))
    |>.seq (.default (takes_text w.description) (takes_text ""))
    |>.seq (.default (takes_option takes_assetClass (fun _ => nofun) w.assetClass)
      (takes_option takes_assetClass (fun _ => nofun) none))
    |>.seq (.default (takes_bool w.scheduleEnabled) (takes_bool false))
    |>.seq (.default (takes_option takes_nat64 (fun _ => nofun) w.scheduleSeconds)
      (takes_option takes_nat64 (fun _ => nofun) none))
    |>.seq (.default (takes_nat32 w.stepCount) (takes_nat32 0))
    |>.seq (.default (takes_nat32 w.runCount) (takes_nat32 0))
    |>.seq (.default (takes_textOption w.lastRunAt) (takes_textOption none))

theorem WorkflowRun.spells (r : WorkflowRun) : Spells record r r.members defaults :=
  Spells.pure WorkflowRun.mk
    |>.seq (.required (takes_text r.id))
    |>.seq (.default (takes_text r.workflowId) (takes_text ""))
    |>.seq (.required (takes_text r.status))
    |>.seq (.default (takes_text r.trigger) (takes_text ""))
    |>.seq (.default (takes_nat32 r.currentStep) (takes_nat32 0))
    |>.seq (.default (takes_nat32 r.totalSteps) (takes_nat32 0))
    |>.seq (.default (takes_textOption r.startedAt) (takes_textOption none))
    |>.seq (.default (takes_textOption r.completedAt) (takes_textOption none))
    |>.seq (.default (takes_text r.error) (takes_text ""))

theorem WorkflowStep.reads (s : WorkflowStep) : record.Reads s s.toJson Payload.workflowStep.format.defaults :=
  ⟨_, rfl, Spells.pure WorkflowStep.mk
    |>.seq (.required (takes_nat32 s.order))
    |>.seq (.required (takes_text s.name))
    |>.seq (.required (takes_text s.stepType))
    |>.seq (.default (takes_textOption s.condition) (takes_textOption none))⟩

theorem StepRun.reads (s : StepRun) : record.Reads s s.toJson Payload.stepRun.format.defaults :=
  ⟨_, rfl, Spells.pure StepRun.mk
    |>.seq (.required (takes_nat32 s.order))
    |>.seq (.required (takes_text s.name))
    |>.seq (.default (takes_text s.stepType) (takes_text ""))
    |>.seq (.required (takes_text s.status))
    |>.seq (.default (takes_option takes_double (fun _ => nofun) s.durationSeconds)
      (takes_option takes_double (fun _ => nofun) none))
    |>.seq (.default (takes_text s.error) (takes_text ""))
    |>.seq (.default (takes_bool s.conditionMet) (takes_bool true))⟩

/-! Payloads that hold a list of others, of which each is read from its own spelling. -/

theorem Portfolio.spells (p : Portfolio) {members : List (String × Json)} {holdings : List Json}
    (written : p.toJson = .object members) (inner : List.Forall₂ Holding.decoder.Takes holdings p.holdings) :
    Spells record p (Payload.relisted "holdings" holdings members) Payload.portfolio.format.defaults := by
  obtain rfl := Json.object.inj written
  exact Spells.pure Portfolio.mk
    |>.seq (.required (takes_int64 p.id))
    |>.seq (.required (takes_text p.name))
    |>.seq (.default (takes_text p.exchangeId) (takes_text ""))
    |>.seq (.default (takes_text p.description) (takes_text ""))
    |>.seq (.default (takes_list inner) (takes_list .nil))
    |>.seq (.default (takes_text p.createdAt) (takes_text ""))
    |>.seq (.default (takes_text p.updatedAt) (takes_text ""))

theorem inOrder_ofOption {α : Type} (encode : α → Json) (settled : ∀ a, (encode a).inOrder = encode a)
    (o : Option α) : (ofOption encode o).inOrder = ofOption encode o := by
  cases o with
  | none => rfl
  | some a => exact settled a

theorem inOrder_ofNat (n : Nat) : (Json.ofNat n).inOrder = Json.ofNat n :=
  rfl

theorem Workflow.settled (w : Workflow) : ∀ m ∈ w.members, m.2.inOrder = m.2 := by
  have assetClass := inOrder_ofOption AssetClass.toJson (fun _ => rfl) w.assetClass
  have seconds := inOrder_ofOption (fun n : UInt64 => Json.ofNat n.toNat) (fun _ => rfl) w.scheduleSeconds
  have last := inOrder_ofOption .text (fun _ => rfl) w.lastRunAt
  simp only [members, List.forall_mem_cons, assetClass, seconds, last, inOrder, inOrder_ofNat]
  simp

theorem WorkflowRun.settled (r : WorkflowRun) : ∀ m ∈ r.members, m.2.inOrder = m.2 := by
  have started := inOrder_ofOption .text (fun _ => rfl) r.startedAt
  have completed := inOrder_ofOption .text (fun _ => rfl) r.completedAt
  simp only [members, List.forall_mem_cons, started, completed, inOrder, inOrder_ofNat]
  simp

theorem WorkflowDetail.takes {d : WorkflowDetail} {members others : List (String × Json)} {steps : List Json}
    (written : d.toJson = .object members) (inner : List.Forall₂ WorkflowStep.decoder.Takes steps d.steps)
    (respelled : Respelled Payload.workflowDetail.format.keys Payload.workflowDetail.format.defaults
      (Payload.relisted "steps" steps members) others) : decoder.Takes (.object others) d := by
  obtain rfl := Json.object.inj written
  have both := takes_joined "WorkflowDetail" d.summary.spells (.default (takes_list inner) (takes_list .nil))
    (by decide) d.summary.settled respelled
  exact fun p away => congrArg (Except.map _) (both p away)

theorem RunDetail.takes {d : RunDetail} {members others : List (String × Json)} {runs : List Json}
    (written : d.toJson = .object members) (inner : List.Forall₂ StepRun.decoder.Takes runs d.stepRuns)
    (respelled : Respelled Payload.runDetail.format.keys Payload.runDetail.format.defaults
      (Payload.relisted "step_runs" runs members) others) : decoder.Takes (.object others) d := by
  obtain rfl := Json.object.inj written
  have both := takes_joined "WorkflowRunDetail" d.summary.spells (.default (takes_list inner) (takes_list .nil))
    (by decide) d.summary.settled respelled
  exact fun p away => congrArg (Except.map _) (both p away)

namespace Payload

theorem Flat.takes {k : Payload} {x : k.Value} {v : Json} (flat : k.Flat x v) : k.format.decoder.Takes v x := by
  obtain ⟨members, written, others, rfl, respelled⟩ := flat
  cases k with
  | holding => exact (Holding.reads x).takes "Holding" (by decide) written respelled
  | portfolio =>
    have inner := takes_each (fun h => (Holding.reads h).takes_written "Holding" (by decide)) x.holdings
    have own : relisted "holdings" (x.holdings.map Holding.toJson) members = members := by
      obtain rfl := Json.object.inj written
      rfl
    exact takes_decoder "Portfolio" (Portfolio.spells x written inner) (by decide) (own.symm ▸ respelled)
  | ticker => exact (Ticker.reads x).takes "TickerSnapshot" (by decide) written respelled
  | bar => exact (Bar.reads x).takes "OhlcvBar" (by decide) written respelled
  | exchange => exact (Exchange.reads x).takes "ExchangeInfo" (by decide) written respelled
  | order => exact (Order.reads x).takes "Order" (by decide) written respelled
  | riskStatus => exact (RiskStatus.reads x).takes "RiskStatus" (by decide) written respelled
  | riskLimits => exact (RiskLimits.reads x).takes "RiskLimits" (by decide) written respelled
  | limitsUpdate => exact (LimitsUpdate.reads x).takes "RiskLimitsUpdate" (by decide) written respelled
  | valueAtRisk => exact (ValueAtRisk.reads x).takes "VarData" (by decide) written respelled
  | heatCheck => exact (HeatCheck.reads x).takes "HeatCheck" (by decide) written respelled
  | workflow =>
    obtain rfl := Json.object.inj written
    exact takes_decoder "WorkflowListItem" (Workflow.spells x) (by decide) respelled
  | workflowRun =>
    obtain rfl := Json.object.inj written
    exact takes_decoder "WorkflowRunListItem" (WorkflowRun.spells x) (by decide) respelled
  | workflowStep => exact (WorkflowStep.reads x).takes "WorkflowStep" (by decide) written respelled
  | workflowDetail =>
    have inner := takes_each (fun s => (WorkflowStep.reads s).takes_written "WorkflowStep" (by decide)) x.steps
    have own : relisted "steps" (x.steps.map WorkflowStep.toJson) members = members := by
      obtain rfl := Json.object.inj written
      rfl
    exact WorkflowDetail.takes written inner (own.symm ▸ respelled)
  | stepRun => exact (StepRun.reads x).takes "WorkflowStepRun" (by decide) written respelled
  | runDetail =>
    have inner := takes_each (fun s => (StepRun.reads s).takes_written "WorkflowStepRun" (by decide)) x.stepRuns
    have own : relisted "step_runs" (x.stepRuns.map StepRun.toJson) members = members := by
      obtain rfl := Json.object.inj written
      rfl
    exact RunDetail.takes written inner (own.symm ▸ respelled)

theorem Flat.written (k : Payload) (x : k.Value) : k.Flat x (k.format.toJson x) := by
  cases k <;> exact ⟨_, rfl, _, rfl, .refl _ _ _⟩

/-- Every payload is read back from each of its spellings, of which the object it is written as is one. A double is held
as it is, so nothing is asked of it here: only a written text makes null of one that is not finite. -/
theorem read_spelling (k : Payload) (x : k.Value) :
    k.Spelling x (k.format.toJson x) ∧ ∀ v, k.Spelling x v → k.format.decoder.ofValue v = .ok x := by
  refine ⟨.flat (.written k x), fun v spelling => ?_⟩
  cases spelling with
  | flat flat => exact flat.takes.ofValue
  | portfolio written inner respells =>
    obtain ⟨others, rfl, respelled⟩ := respells
    have taken := inner.flip.imp fun _ _ flat => Flat.takes flat
    exact (takes_decoder "Portfolio" (Portfolio.spells _ written taken) (by decide) respelled).ofValue
  | workflowDetail written inner respells =>
    obtain ⟨others, rfl, respelled⟩ := respells
    exact (WorkflowDetail.takes written (inner.flip.imp fun _ _ flat => Flat.takes flat) respelled).ofValue
  | runDetail written inner respells =>
    obtain ⟨others, rfl, respelled⟩ := respells
    exact (RunDetail.takes written (inner.flip.imp fun _ _ flat => Flat.takes flat) respelled).ofValue

/-- A detail that is read from an object in reverse order, with a key that it does not name and without the members that
hold their default; its step is read from such an object too. -/
theorem reversed_spelling_read :
    WorkflowDetail.decoder.ofValue (.object [("owner", .object [("z", .null), ("a", .list [])]),
      ("steps", .list [.object [("step_type", .text "http"), ("name", .text "fetch"), ("order", .integer 1)]]),
      ("name", .text "Nightly"), ("id", .text "w1")]) =
    .ok ⟨⟨"w1", "Nightly", "", none, false, none, 0, 0, none⟩, [⟨1, "fetch", "http", none⟩]⟩ := by
  have step : workflowStep.Flat ⟨1, "fetch", "http", none⟩
      (.object [("step_type", .text "http"), ("name", .text "fetch"), ("order", .integer 1)]) := by
    let kept : List (String × Json) := [("order", .integer 1), ("name", .text "fetch"), ("step_type", .text "http")]
    exact ⟨_, rfl, _, rfl, kept, [("condition", .null)], [], .refl _, kept.reverse_perm, List.Subset.refl _, nofun⟩
  refine (read_spelling .workflowDetail _).2 _ (.workflowDetail rfl (.cons step .nil) ⟨_, rfl, ?_⟩)
  let steps : Json := .list [.object [("step_type", .text "http"), ("name", .text "fetch"), ("order", .integer 1)]]
  let kept : List (String × Json) := [("id", .text "w1"), ("name", .text "Nightly"), ("steps", steps)]
  let added : List (String × Json) := [("owner", .object [("z", .null), ("a", .list [])])]
  refine ⟨kept, Workflow.defaults, added, ?_, (kept ++ added).reverse_perm, ?_, ?_⟩
  · exact .cons _ (.cons _ (@List.perm_append_comm _ Workflow.defaults [_]))
  · exact List.subset_append_left _ _
  · exact List.forall_mem_singleton.mpr (by decide)

end Payload
end TradingDesk
