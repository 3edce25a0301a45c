import TradingDesk.Json.Document
import TradingDesk.Proofs.Table

/-! A value that was read has the members of all its objects in ascending order of their keys, so each key once. -/

namespace TradingDesk
namespace Json

/-- The members of every object in the value stand in ascending order. -/
inductive Ordered : Json → Prop where
  | null : Ordered .null
  | bool (b : Bool) : Ordered (.bool b)
  | integer (n : Int) : Ordered (.integer n)
  | double (x : Float) : Ordered (.double x)
  | text (s : String) : Ordered (.text s)
  | list {items : List Json} (each : ∀ v ∈ items, Ordered v) : Ordered (.list items)
  | object {members : List (String × Json)} (ascending : Table.Ascending members)
    (each : ∀ m ∈ members, Ordered m.2) : Ordered (.object members)

theorem Ordered.ascending {members : List (String × Json)} (ordered : Ordered (.object members)) :
    Table.Ascending members := by
  cases ordered with
  | object ascending _ => exact ascending

theorem Ordered.member {v w : Json} {key : String} (ordered : v.Ordered) (there : v.member? key = some w) :
    w.Ordered := by
  cases ordered with
  | object _ each =>
    obtain ⟨before, after, rfl, -⟩ := List.lookup_eq_some_iff.mp there
    exact each (key, w) (List.mem_append_right _ List.mem_cons_self)
  | _ => exact absurd there nofun

theorem bind_ok {α β : Type} {first : Except Error α} {next : α → Except Error β} {b : β}
    (done : (first >>= next) = .ok b) : ∃ a, first = .ok a ∧ next a = .ok b := by
  cases first with
  | error e => exact absurd done nofun
  | ok a => exact ⟨a, rfl, done⟩

mutual

theorem value_ordered (n : Node) {room : Nat} {v : Json} (read : n.value room = .ok v) : v.Ordered :=
  match n with
  | .null => Except.ok.inj read ▸ .null
  | .bool b => Except.ok.inj read ▸ .bool b
  | .integer n => Except.ok.inj read ▸ .integer n
  | .double x => Except.ok.inj read ▸ .double x
  | .text s => Except.ok.inj read ▸ .text s
  | .unusable _ | .broken _ _ => absurd read nofun
  | .list items ending => by
    cases room with
    | zero => exact absurd read nofun
    | succ room =>
      rw [Node.value] at read
      obtain ⟨found, inside, closed⟩ := bind_ok read
      cases ended : ending.used? with
      | some e => exact absurd (ended ▸ closed) nofun
      | none =>
        rw [ended] at closed
        exact Except.ok.inj closed ▸ .list (valueItems_ordered items inside)
  | .object members ending => by
    cases room with
    | zero => exact absurd read nofun
    | succ room =>
      rw [Node.value] at read
      obtain ⟨found, inside, closed⟩ := bind_ok read
      cases ended : ending.used? with
      | some e => exact absurd (ended ▸ closed) nofun
      | none =>
        rw [ended] at closed
        have each := valueMembers_ordered members inside
        exact Except.ok.inj closed ▸ .object (Table.ascending_ofList found)
          fun m member => each m (Table.mem_of_mem_ofList member)

theorem valueItems_ordered (items : List Node) {room : Nat} {vs : List Json}
    (read : valueItems room items = .ok vs) : ∀ v ∈ vs, v.Ordered :=
  match items with
  | [] => Except.ok.inj read ▸ nofun
  | n :: rest => by
    rw [valueItems] at read
    obtain ⟨v, first, read⟩ := bind_ok read
    obtain ⟨others, later, read⟩ := bind_ok read
    obtain rfl := Except.ok.inj read
    exact List.forall_mem_cons.mpr ⟨value_ordered n first, valueItems_ordered rest later⟩

theorem valueMembers_ordered (members : List (Except Error String × Node)) {room : Nat} {ms : List (String × Json)}
    (read : valueMembers room members = .ok ms) : ∀ m ∈ ms, m.2.Ordered :=
  match members with
  | [] => Except.ok.inj read ▸ nofun
  | (key, n) :: rest => by
    rw [valueMembers] at read
    obtain ⟨k, -, read⟩ := bind_ok read
    obtain ⟨v, first, read⟩ := bind_ok read
    obtain ⟨others, later, read⟩ := bind_ok read
    obtain rfl := Except.ok.inj read
    exact List.forall_mem_cons.mpr ⟨value_ordered n first, valueMembers_ordered rest later⟩

end

theorem parse_ordered {text : String} {v : Json} (parsed : Json.parse text = .ok v) : v.Ordered := by
  unfold Json.parse at parsed
  obtain ⟨found, read, kept⟩ := bind_ok parsed
  split at kept
  · exact absurd kept nofun
  · obtain rfl := Except.ok.inj kept
    exact value_ordered _ read

end Json
end TradingDesk
