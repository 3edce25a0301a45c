import TradingDesk.Form.OrderDraft
import TradingDesk.Proofs.Number.Worth
import TradingDesk.Proofs.Text.Blank

/-! Which texts make an order, what order that is, and which text is to blame when there is none. -/

namespace TradingDesk

/-- The text denotes the number, which is finite and above zero. -/
def Denotes (text : String) (x : Float) : Prop :=
  Number.read (Text.trim text) = .ok x ∧ ∃ a, (Exact.ofFloat x).worth? = some a ∧ 0 < a

/-- Why a text denotes no such number. -/
inductive Unfit (label text : String) : Rejection → Prop where
  | unreadable {cause : Number.Unreadable} (read : Number.read (Text.trim text) = .error cause) :
    Unfit label text (.notNumber label cause)
  | outside {x : Float} (read : Number.read (Text.trim text) = .ok x) (low : ¬Denotes text x) :
    Unfit label text (.notPositive label)

theorem Side.ofName_iff (given : String) (s : Side) : Side.ofName given = .ok s ↔ Text.InAnyCase s.name given := by
  have small : s.name.toList.all Char.isLower = true := by cases s <;> decide
  have listed : choices.lookup (Text.lowerAscii given) = some s ↔ Text.lowerAscii given = s.name := by
    generalize Text.lowerAscii given = name
    unfold choices
    rw [List.lookup_cons, List.lookup_cons]
    cases s <;> grind [Side.name]
  rw [← Text.lowerAscii_iff small, ← listed]
  unfold Side.ofName
  cases choices.lookup (Text.lowerAscii given) <;> simp

theorem Side.ofName_error_iff (given : String) (n : UnknownName) :
    Side.ofName given = .error n ↔ (∀ s : Side, ¬Text.InAnyCase s.name given) ∧ n = .side given := by
  constructor
  · intro unknown
    refine ⟨fun s spells => ?_, ?_⟩
    · rw [(Side.ofName_iff given s).mpr spells] at unknown
      exact nomatch unknown
    · unfold Side.ofName at unknown
      split at unknown
      · exact nomatch unknown
      · exact (Except.error.inj unknown).symm
  · rintro ⟨unknown, rfl⟩
    cases named : Side.ofName given with
    | ok s => exact absurd ((Side.ofName_iff given s).mp named) (unknown s)
    | error n =>
      unfold Side.ofName at named
      split at named
      · exact nomatch named
      · exact named.symm ▸ rfl

namespace OrderDraft

theorem positive_iff (label input : String) (x : Float) : positive label input = .ok x ↔ Denotes input x := by
  unfold positive Denotes
  cases read : Number.read (Text.trim input) with
  | error cause => simp
  | ok y =>
    have above := Exact.above_zero_iff y
    by_cases bad : (!y.isFinite || decide (y ≤ 0)) = true
    · have outside : ¬(y.isFinite = true ∧ ¬y ≤ 0) := by
        rintro ⟨finite, high⟩
        simp [finite, high] at bad
      rw [above] at outside
      simp only [if_pos bad, Except.ok.injEq, reduceCtorEq, false_iff]
      rintro ⟨rfl, worth⟩
      exact outside worth
    · have inside : y.isFinite = true ∧ ¬y ≤ 0 := by simpa using bad
      rw [above] at inside
      simp only [if_neg bad, Except.ok.injEq]
      exact ⟨fun same => ⟨same, same ▸ inside⟩, And.left⟩

theorem sideOf_iff (input : String) (s : Side) : sideOf input = .ok s ↔ Side.ofName (Text.trim input) = .ok s := by
  unfold sideOf
  cases Side.ofName (Text.trim input) with
  | ok side => simp
  | error name => simp

theorem priceOf_blank {input : String} (blank : Text.isBlankText input = true) : priceOf input = .ok none :=
  if_pos blank

theorem priceOf_iff {input : String} (written : Text.isBlankText input = false) (p : Option Float) :
    priceOf input = .ok p ↔ ∃ x, p = some x ∧ Denotes input x := by
  unfold priceOf
  rw [written, if_neg Bool.false_ne_true]
  cases read : positive "Price" input with
  | error r =>
    constructor
    · nofun
    · rintro ⟨x, -, denotes⟩
      rw [(positive_iff "Price" input x).mpr denotes] at read
      exact absurd read nofun
  | ok y =>
    have denotes := (positive_iff "Price" input y).mp read
    constructor
    · rintro made
      exact ⟨y, (Except.ok.inj made).symm, denotes⟩
    · rintro ⟨x, rfl, other⟩
      obtain rfl := Except.ok.inj (denotes.1.symm.trans other.1)
      rfl

theorem build_ok_iff (d : OrderDraft) (o : NewOrder) :
    d.build = .ok o ↔ Text.isBlankText d.symbol = false ∧ ∃ s a p, sideOf d.side = .ok s ∧
      positive "Amount" d.amount = .ok a ∧ priceOf d.price = .ok p ∧
      ⟨Text.upper (Text.trim d.symbol), s, some (if p.isSome then .limit else .market), a, p, d.exchangeId⟩ = o := by
  unfold build
  cases Text.isBlankText d.symbol with
  | true => simp [bind, Except.bind, throw, throwThe, MonadExceptOf.throw]
  | false =>
    cases sideOf d.side with
    | error r => simp [bind, Except.bind]
    | ok s =>
      cases positive "Amount" d.amount with
      | error r => simp [bind, Except.bind]
      | ok a =>
        cases priceOf d.price with
        | error r => simp [bind, Except.bind]
        | ok p => simp [bind, Except.bind, pure, Except.pure]

/-! The text to blame. -/

theorem positive_error_iff (label input : String) (r : Rejection) :
    positive label input = .error r ↔ Unfit label input r := by
  constructor
  · intro refused
    have low (x : Float) : ¬Denotes input x := by
      intro denotes
      rw [(positive_iff label input x).mpr denotes] at refused
      exact nomatch refused
    unfold positive at refused
    cases read : Number.read (Text.trim input) with
    | error cause =>
      rw [read] at refused
      exact Except.error.inj refused ▸ .unreadable read
    | ok x =>
      simp only [read] at refused
      split at refused
      · exact Except.error.inj refused ▸ .outside read (low x)
      · exact nomatch refused
  · intro unfit
    cases unfit with
    | unreadable read =>
      unfold positive
      rw [read]
    | outside read low =>
      cases taken : positive label input with
      | ok y =>
        have denotes := (positive_iff label input y).mp taken
        obtain rfl := Except.ok.inj (read.symm.trans denotes.1)
        exact absurd denotes low
      | error r =>
        unfold positive at taken
        simp only [read] at taken
        split at taken
        · exact taken.symm
        · exact nomatch taken

/-- The texts of a draft that are checked, in the order of the checks. -/
inductive Field where
  | symbol
  | side
  | amount
  | price

def Field.all : List Field := [.symbol, .side, .amount, .price]

/-- What is wrong with one of the texts. -/
inductive Faulty (d : OrderDraft) : Field → Rejection → Prop where
  | symbol (blank : Text.trim d.symbol = "") : d.Faulty .symbol .noSymbol
  | side (unknown : ∀ s : Side, ¬Text.InAnyCase s.name (Text.trim d.side)) :
    d.Faulty .side (.unknown (.side (Text.trim d.side)))
  | amount {r : Rejection} (unfit : Unfit "Amount" d.amount r) : d.Faulty .amount r
  | price {r : Rejection} (given : Text.trim d.price ≠ "") (unfit : Unfit "Price" d.price r) : d.Faulty .price r

def rejection? {α : Type} : Except Rejection α → Option Rejection
  | .ok _ => none
  | .error r => some r

theorem rejection?_iff {α : Type} (checked : Except Rejection α) (r : Rejection) :
    rejection? checked = some r ↔ checked = .error r := by
  cases checked <;> simp [rejection?]

def fault? (d : OrderDraft) : Field → Option Rejection
  | .symbol => if Text.isBlankText d.symbol then some .noSymbol else none
  | .side => rejection? (sideOf d.side)
  | .amount => rejection? (positive "Amount" d.amount)
  | .price => rejection? (priceOf d.price)

theorem sideOf_error_iff (input : String) (r : Rejection) : sideOf input = .error r ↔
    (∀ s : Side, ¬Text.InAnyCase s.name (Text.trim input)) ∧ r = .unknown (.side (Text.trim input)) := by
  unfold sideOf
  cases named : Side.ofName (Text.trim input) with
  | ok s =>
    have spells := (Side.ofName_iff _ s).mp named
    exact ⟨nofun, fun both => absurd spells (both.1 s)⟩
  | error n =>
    obtain ⟨unknown, rfl⟩ := (Side.ofName_error_iff _ n).mp named
    exact ⟨fun refused => ⟨unknown, (Except.error.inj refused).symm⟩, fun both => both.2 ▸ rfl⟩

theorem priceOf_error_iff (input : String) (r : Rejection) :
    priceOf input = .error r ↔ Text.trim input ≠ "" ∧ Unfit "Price" input r := by
  rw [← positive_error_iff, Ne, Text.trim_empty_iff]
  unfold priceOf
  split
  · rename_i blank
    exact ⟨nofun, fun both => absurd blank both.1⟩
  · rename_i written
    cases positive "Price" input <;> simp [Except.map, written]

theorem fault?_iff (d : OrderDraft) (f : Field) (r : Rejection) : d.fault? f = some r ↔ d.Faulty f r := by
  cases f with
  | symbol =>
    unfold fault?
    rw [Option.ite_none_right_eq_some, ← Text.trim_empty_iff, Option.some.injEq]
    constructor
    · rintro ⟨blank, rfl⟩
      exact .symbol blank
    · rintro ⟨blank⟩
      exact ⟨blank, rfl⟩
  | side =>
    rw [fault?, rejection?_iff, sideOf_error_iff]
    constructor
    · rintro ⟨unknown, rfl⟩
      exact .side unknown
    · intro faulty
      cases faulty with
      | side unknown => exact ⟨unknown, rfl⟩
  | amount =>
    rw [fault?, rejection?_iff, positive_error_iff]
    exact ⟨.amount, fun | .amount unfit => unfit⟩
  | price =>
    rw [fault?, rejection?_iff, priceOf_error_iff]
    exact ⟨fun both => .price both.1 both.2, fun | .price given unfit => ⟨given, unfit⟩⟩

theorem build_error_iff (d : OrderDraft) (r : Rejection) : d.build = .error r ↔ Field.all.findSome? d.fault? = some r := by
  unfold build Field.all
  simp only [List.findSome?_cons, List.findSome?_nil, fault?]
  cases Text.isBlankText d.symbol with
  | true => simp [bind, Except.bind, throw, throwThe, MonadExceptOf.throw]
  | false =>
    cases sideOf d.side with
    | error r => simp [bind, Except.bind, rejection?]
    | ok s =>
      cases positive "Amount" d.amount with
      | error r => simp [bind, Except.bind, rejection?]
      | ok a => cases priceOf d.price <;> simp [bind, Except.bind, pure, Except.pure, rejection?]

/-! The order. -/

/-- The order that a draft stands for. -/
structure Makes (d : OrderDraft) (o : NewOrder) : Prop where
  named : Text.trim d.symbol ≠ ""
  symbol : o.symbol = Text.upper (Text.trim d.symbol)
  side : Text.InAnyCase o.side.name (Text.trim d.side)
  amount : Denotes d.amount o.amount
  unpriced : Text.trim d.price = "" → o.price = none
  priced : Text.trim d.price ≠ "" → ∃ x, o.price = some x ∧ Denotes d.price x
  kind : o.kind = some (if o.price.isSome then .limit else .market)
  exchangeId : o.exchangeId = d.exchangeId

theorem build_makes (d : OrderDraft) (o : NewOrder) : d.build = .ok o ↔ d.Makes o := by
  rw [build_ok_iff, ← Bool.not_eq_true, ← Text.trim_empty_iff]
  simp only [sideOf_iff, Side.ofName_iff, positive_iff]
  constructor
  · rintro ⟨named, s, a, p, sided, denotes, priced, rfl⟩
    refine ⟨named, rfl, sided, denotes, fun blank => ?_, fun given => ?_, rfl, rfl⟩
    · rw [priceOf_blank ((Text.trim_empty_iff d.price).mp blank)] at priced
      exact (Except.ok.inj priced).symm
    · rw [Ne, Text.trim_empty_iff, Bool.not_eq_true] at given
      exact (priceOf_iff given p).mp priced
  · intro makes
    refine ⟨makes.named, o.side, o.amount, o.price, makes.side, makes.amount, ?_, ?_⟩
    · by_cases blank : Text.trim d.price = ""
      · rw [makes.unpriced blank, priceOf_blank ((Text.trim_empty_iff d.price).mp blank)]
      · obtain ⟨x, price, denotes⟩ := makes.priced blank
        rw [Text.trim_empty_iff, Bool.not_eq_true] at blank
        rw [price, priceOf_iff blank]
        exact ⟨x, rfl, denotes⟩
    · rw [← makes.symbol, ← makes.kind, ← makes.exchangeId]

theorem exists_makes_iff (d : OrderDraft) : (∃ o, d.Makes o) ↔
    Text.trim d.symbol ≠ "" ∧ (∃ s : Side, Text.InAnyCase s.name (Text.trim d.side)) ∧ (∃ x, Denotes d.amount x) ∧
      (Text.trim d.price = "" ∨ ∃ x, Denotes d.price x) := by
  constructor
  · rintro ⟨o, makes⟩
    refine ⟨makes.named, ⟨o.side, makes.side⟩, ⟨o.amount, makes.amount⟩, ?_⟩
    by_cases blank : Text.trim d.price = ""
    · exact .inl blank
    · obtain ⟨x, -, denotes⟩ := makes.priced blank
      exact .inr ⟨x, denotes⟩
  · rintro ⟨named, ⟨s, sided⟩, ⟨a, amount⟩, price⟩
    by_cases blank : Text.trim d.price = ""
    · exact ⟨⟨Text.upper (Text.trim d.symbol), s, some .market, a, none, d.exchangeId⟩,
        named, rfl, sided, amount, fun _ => rfl, fun given => absurd blank given, rfl, rfl⟩
    · obtain ⟨x, denotes⟩ := price.resolve_left blank
      exact ⟨⟨Text.upper (Text.trim d.symbol), s, some .limit, a, some x, d.exchangeId⟩,
        named, rfl, sided, amount, fun other => absurd other blank, fun _ => ⟨x, rfl, denotes⟩, rfl, rfl⟩

end OrderDraft

theorem Denotes.above {text : String} {x : Float} (denotes : Denotes text x) : x.isFinite = true ∧ 0 < x := by
  obtain ⟨-, a, worth, above⟩ := denotes
  exact ⟨(Exact.isFinite_iff x).mpr ⟨a, worth⟩, (Exact.lt_iff_worth Exact.zero_worth worth).mpr above⟩

/-- A draft makes an order exactly when it names a symbol, spells a side and denotes its amount and, unless that is blank,
its price. What it makes is the order of its texts. Otherwise it is rejected for the first text that is faulty. The
amount and the price of an order are finite and above zero. -/
theorem OrderDraft.draft_decided (d : OrderDraft) :
    ((∃ o, d.build = .ok o) ↔
      Text.trim d.symbol ≠ "" ∧ (∃ s : Side, Text.InAnyCase s.name (Text.trim d.side)) ∧ (∃ x, Denotes d.amount x) ∧
        (Text.trim d.price = "" ∨ ∃ x, Denotes d.price x)) ∧
    (∀ o, d.build = .ok o ↔ d.Makes o) ∧
    (∀ r, d.build = .error r ↔ ∃ before f after, Field.all = before ++ f :: after ∧ d.Faulty f r ∧
      ∀ earlier ∈ before, ∀ other, ¬d.Faulty earlier other) ∧
    ∀ o, d.build = .ok o → ∀ x, (x = o.amount ∨ o.price = some x) → x.isFinite = true ∧ 0 < x := by
  refine ⟨?_, build_makes d, fun r => ?_, fun o built x held => ?_⟩
  · simp only [build_makes]
    exact exists_makes_iff d
  · rw [build_error_iff, List.findSome?_eq_some_iff]
    simp only [fault?_iff, Option.eq_none_iff_forall_ne_some, ne_eq]
  · have makes := (build_makes d o).mp built
    rcases held with rfl | price
    · exact makes.amount.above
    · by_cases blank : Text.trim d.price = ""
      · rw [makes.unpriced blank] at price
        exact nomatch price
      · obtain ⟨y, same, denotes⟩ := makes.priced blank
        obtain rfl := Option.some.inj (price.symm.trans same)
        exact denotes.above

end TradingDesk
