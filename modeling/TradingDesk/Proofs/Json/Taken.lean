import Mathlib.Data.List.Forall2
import TradingDesk.Payload.Choice

/-! What readers make of the values they are given, wherever the values stand but in a text. -/

namespace TradingDesk
namespace Json
namespace Decoder

variable {α : Type}

/-- The reader finds this in the value, wherever the value stands but in a text. -/
def Takes (d : Decoder α) (v : Json) (a : α) : Prop :=
  ∀ p : Place, p.source ≠ .text → d p (Node.ofJson v) = .ok a

theorem Takes.unique {d : Decoder α} {v : Json} {a b : α} (first : d.Takes v a) (second : d.Takes v b) : a = b :=
  Except.ok.inj ((first ⟨.value, 0⟩ (by decide)).symm.trans (second ⟨.value, 0⟩ (by decide)))

theorem Takes.ofValue {d : Decoder α} {v : Json} {a : α} (takes : d.Takes v a) : d.ofValue v = .ok a :=
  takes ⟨.value, maxDepth⟩ (by decide)

theorem enter_away {p : Place} (away : p.source ≠ .text) : p.enter = .ok { p with room := p.room - 1 } := by
  obtain ⟨source, room⟩ := p
  cases source with
  | text => exact absurd rfl away
  | value => rfl
  | setAside => rfl

theorem takes_text (s : String) : Decoder.text.Takes (.text s) s :=
  fun _ _ => rfl

theorem takes_bool (b : Bool) : Decoder.bool.Takes (.bool b) b :=
  fun _ _ => rfl

theorem takes_double (x : Float) : Decoder.double.Takes (.double x) x :=
  fun _ _ => rfl

theorem bounded_within {low high k : Int} (wanted : String) (p : Place) (least : low ≤ k) (most : k ≤ high) :
    bounded low high wanted p (.integer k) = .ok k :=
  if_pos ⟨least, most⟩

theorem takes_int64 (n : Int64) : Decoder.int64.Takes (.integer n.toInt) n := by
  intro p _
  have least := n.le_toInt
  have most := n.toInt_lt
  unfold int64 Node.ofJson
  rw [bounded_within "i64" p (by omega) (by omega)]
  exact congrArg Except.ok n.ofInt_toInt

theorem takes_nat32 (n : UInt32) : Decoder.nat32.Takes (.ofNat n.toNat) n := by
  intro p _
  have most := n.toNat_lt
  unfold nat32 Json.ofNat Node.ofJson
  rw [bounded_within "u32" p (by omega) (by omega)]
  exact congrArg Except.ok (by simp)

theorem takes_nat64 (n : UInt64) : Decoder.nat64.Takes (.ofNat n.toNat) n := by
  intro p _
  have most := n.toNat_lt
  unfold nat64 Json.ofNat Node.ofJson
  rw [bounded_within "u64" p (by omega) (by omega)]
  exact congrArg Except.ok (by simp)

theorem takes_choice {choices : List (String × α)} {name : String} {a : α} (listed : choices.lookup name = some a) :
    (Decoder.choice choices).Takes (.text name) a := by
  intro p away
  obtain ⟨source, room⟩ := p
  have chosen : choose choices name = .ok a := by
    unfold choose
    rw [listed]
  cases source with
  | text => exact absurd rfl away
  | value => exact chosen
  | setAside => exact chosen

theorem takes_side (s : Side) : Side.decoder.Takes s.toJson s :=
  takes_choice (by cases s <;> rfl)

theorem takes_assetClass (c : AssetClass) : AssetClass.decoder.Takes c.toJson c :=
  takes_choice (by cases c <;> rfl)

/-! Values that may be missing, and lists of values. -/

theorem takes_some {d : Decoder α} {v : Json} {a : α} (takes : d.Takes v a) (present : v ≠ .null) :
    (optional d).Takes v (some a) := by
  intro p away
  have found := takes p away
  cases v with
  | null => exact absurd rfl present
  | bool b => exact congrArg (Except.map some) found
  | integer n => exact congrArg (Except.map some) found
  | double x => exact congrArg (Except.map some) found
  | text s => exact congrArg (Except.map some) found
  | list items => exact congrArg (Except.map some) found
  | object members => exact congrArg (Except.map some) found

theorem takes_option {d : Decoder α} {encode : α → Json} (takes : ∀ a, d.Takes (encode a) a)
    (present : ∀ a, encode a ≠ .null) (o : Option α) : (optional d).Takes (ofOption encode o) o := by
  cases o with
  | none => exact fun _ _ => rfl
  | some a => exact takes_some (takes a) (present a)

theorem each_ok {d : Decoder α} {vs : List Json} {as : List α} (takes : List.Forall₂ d.Takes vs as) {p : Place}
    (away : p.source ≠ .text) : each d p (Json.ofItems vs) = .ok as := by
  induction takes with
  | nil => rfl
  | cons first _ ih =>
    rw [Json.ofItems, each, first p away, ih]
    rfl

theorem takes_list {d : Decoder α} {vs : List Json} {as : List α} (takes : List.Forall₂ d.Takes vs as) :
    (Decoder.list d).Takes (.list vs) as := by
  intro p away
  change (p.enter >>= fun inside => each d inside (Json.ofItems vs) >>= _) = _
  rw [enter_away away]
  change (each d { p with room := p.room - 1 } (Json.ofItems vs) >>= _) = _
  rw [each_ok takes (p := { p with room := p.room - 1 }) away]
  rfl

theorem takes_each {d : Decoder α} {encode : α → Json} (takes : ∀ a, d.Takes (encode a) a) (as : List α) :
    List.Forall₂ d.Takes (as.map encode) as :=
  List.forall₂_map_left_iff.mpr (List.forall₂_same.mpr fun a _ => takes a)

theorem takes_map {d : Decoder α} {encode : α → Json} (takes : ∀ a, d.Takes (encode a) a) (as : List α) :
    (Decoder.list d).Takes (.list (as.map encode)) as :=
  takes_list (takes_each takes as)

end Decoder
end Json
end TradingDesk
