import TradingDesk.Json.Record
import TradingDesk.Proofs.Number.Defined

/-! The doubles that are read from a text are equal to themselves. -/

namespace TradingDesk
namespace Json

mutual

/-- Every double of the tree is equal to itself. -/
def Node.Defined : Node → Prop
  | .double x => (x == x) = true
  | .list items _ => DefinedItems items
  | .object members _ => DefinedMembers members
  | _ => True

def DefinedItems : List Node → Prop
  | [] => True
  | n :: rest => n.Defined ∧ DefinedItems rest

def DefinedMembers : List (Except Error String × Node) → Prop
  | [] => True
  | (_, n) :: rest => n.Defined ∧ DefinedMembers rest

end

theorem DefinedItems.item {items : List Node} (defined : DefinedItems items) : ∀ n ∈ items, n.Defined := by
  induction items with
  | nil => exact nofun
  | cons n rest ih => exact List.forall_mem_cons.mpr ⟨defined.1, ih defined.2⟩

theorem DefinedMembers.member {members : List (Except Error String × Node)} (defined : DefinedMembers members) :
    ∀ m ∈ members, m.2.Defined := by
  induction members with
  | nil => exact nofun
  | cons m rest ih => exact List.forall_mem_cons.mpr ⟨defined.1, ih defined.2⟩

theorem doubleNode_defined (negative : Bool) (n : Nat) (power : Int) : (doubleNode negative n power).Defined := by
  unfold doubleNode
  dsimp only
  split
  · rename_i finite
    have same := Exact.same_of_finite finite
    cases negative with
    | true => exact Exact.neg_same same
    | false => exact same
  · trivial

theorem wholeNumber_defined (negative : Bool) (ds : List Char) : (wholeNumber negative ds).Defined := by
  unfold wholeNumber
  split
  · split_ifs
    · trivial
    · exact doubleNode_defined _ _ _
    · trivial
  · exact doubleNode_defined _ _ _

theorem number_defined (negative : Bool) (cs : List Char) : (number negative cs).1.Defined := by
  unfold number
  cases parts : numberParts negative cs with
  | error fault => trivial
  | ok found =>
    unfold numberParts at parts
    cases whole : integral cs with
    | error fault => simp [whole, bind, Except.bind] at parts
    | ok before =>
      cases broken : fraction before.2 with
      | error fault => simp [whole, broken, bind, Except.bind] at parts
      | ok after =>
        cases scaled : exponent after.2 with
        | error fault => simp [whole, broken, scaled, bind, Except.bind] at parts
        | ok power =>
          simp only [whole, broken, scaled, bind, Except.bind] at parts
          split at parts
          · obtain rfl := Except.ok.inj parts
            exact wholeNumber_defined _ _
          · obtain rfl := Except.ok.inj parts
            exact doubleNode_defined _ _ _

theorem word_defined {n : Node} (defined : n.Defined) (ws cs : List Char) : (word n ws cs).1.Defined := by
  induction ws generalizing cs with
  | nil => exact defined
  | cons w ws ih =>
    cases cs with
    | nil => trivial
    | cons c cs =>
      unfold word
      split
      · exact ih cs
      · trivial

/-- What each part of the reader makes with so much fuel. -/
structure Reader.Defined (fuel : Nat) : Prop where
  value : ∀ cs, (Json.value fuel cs).1.Defined
  items : ∀ first cs, DefinedItems (Json.items fuel first cs).1
  itemsFrom : ∀ cs, DefinedItems (Json.itemsFrom fuel cs).1
  members : ∀ first cs, DefinedMembers (Json.members fuel first cs).1
  membersFrom : ∀ cs, DefinedMembers (Json.membersFrom fuel cs).1

theorem value_defined {fuel : Nat} (reader : Reader.Defined fuel) (cs : List Char) :
    (value (fuel + 1) cs).1.Defined := by
  rw [value]
  split
  · trivial
  · exact word_defined (n := .null) trivial _ _
  · exact word_defined (n := .bool true) trivial _ _
  · exact word_defined (n := .bool false) trivial _ _
  · dsimp only
    split <;> trivial
  · exact reader.items _ _
  · exact reader.members _ _
  · exact number_defined _ _
  · split_ifs
    · exact number_defined _ _
    · trivial

theorem items_defined {fuel : Nat} (reader : Reader.Defined fuel) (first : Bool) (cs : List Char) :
    DefinedItems (items (fuel + 1) first cs).1 := by
  rw [items]
  split
  · trivial
  · trivial
  · split_ifs
    · exact reader.itemsFrom _
    · split
      · trivial
      · trivial
      · exact reader.itemsFrom _
    · trivial

theorem itemsFrom_defined {fuel : Nat} (reader : Reader.Defined fuel) (cs : List Char) :
    DefinedItems (itemsFrom (fuel + 1) cs).1 := by
  have first := reader.value cs
  rw [itemsFrom]
  split
  · exact ⟨trivial, trivial⟩
  · rename_i found
    rw [found] at first
    exact ⟨first, reader.items _ _⟩

theorem members_defined {fuel : Nat} (reader : Reader.Defined fuel) (first : Bool) (cs : List Char) :
    DefinedMembers (members (fuel + 1) first cs).1 := by
  rw [members]
  split
  · trivial
  · trivial
  · split_ifs
    · exact reader.membersFrom _
    · trivial
    · split
      · trivial
      · exact reader.membersFrom _
      · trivial
      · trivial
    · trivial

theorem membersFrom_defined {fuel : Nat} (reader : Reader.Defined fuel) (cs : List Char) :
    DefinedMembers (membersFrom (fuel + 1) cs).1 := by
  rw [membersFrom]
  dsimp only
  split
  · trivial
  · split
    · exact ⟨trivial, trivial⟩
    · rename_i rest _
      have first := reader.value rest
      split
      · exact ⟨trivial, trivial⟩
      · rename_i found
        rw [found] at first
        exact ⟨first, reader.members _ _⟩
    · exact ⟨trivial, trivial⟩

theorem reader_defined (fuel : Nat) : Reader.Defined fuel := by
  induction fuel with
  | zero => exact ⟨fun _ => trivial, fun _ _ => trivial, fun _ => trivial, fun _ _ => trivial, fun _ => trivial⟩
  | succ fuel ih =>
    exact ⟨value_defined ih, items_defined ih, itemsFrom_defined ih, members_defined ih, membersFrom_defined ih⟩

theorem document_defined (text : String) : (Document.ofText text).root.Defined :=
  (reader_defined (3 * text.toList.length + 3)).value text.toList

/-! What a reader finds in such a tree. -/

/-- Whatever is read has the property. -/
def Decoder.Yields {α : Type} (d : Decoder α) (P : α → Prop) : Prop :=
  ∀ p n a, n.Defined → d p n = .ok a → P a

def Fields.Defined : Fields → Prop
  | .members found => DefinedMembers found
  | .items found _ _ => DefinedItems found

def Record.Yields {α : Type} (r : Record α) (P : α → Prop) : Prop :=
  ∀ p fields i a, fields.Defined → r.read p fields i = .ok a → P a

theorem mismatch_fails {α : Type} {n : Node} {wanted : String} {a : α} :
    (Decoder.mismatch n wanted : Except Error α) ≠ .ok a := by
  unfold Decoder.mismatch
  cases n.found <;> nofun

theorem yields_double : Decoder.double.Yields fun x => (x == x) = true := by
  intro p n x defined read
  cases n with
  | double y =>
    obtain rfl := Except.ok.inj read
    exact defined
  | integer k =>
    obtain rfl := Except.ok.inj read
    exact Exact.ofInt_same k
  | null => exact absurd read mismatch_fails
  | bool b => exact absurd read mismatch_fails
  | text s => exact absurd read mismatch_fails
  | unusable e => exact absurd read mismatch_fails
  | list items ending => exact absurd read mismatch_fails
  | object members ending => exact absurd read mismatch_fails
  | broken scalar fault => exact absurd read mismatch_fails

namespace Record

variable {α β : Type}

theorem yields_pure {P : α → Prop} {a : α} (holds : P a) : (Record.pure a).Yields P := by
  intro p fields i b _ read
  obtain rfl := Except.ok.inj read
  exact holds

theorem yields_seq {r : Record (α → β)} {s : Record α} {P : α → Prop} {Q : β → Prop}
    (first : r.Yields fun f => ∀ a, P a → Q (f a)) (second : s.Yields P) : (r <*> s).Yields Q := by
  intro p fields i b defined read
  change Placed.both (r.read p fields i) (s.read p fields (i + r.keys.length)) = _ at read
  cases one : r.read p fields i with
  | error e => cases two : s.read p fields (i + r.keys.length) <;> rw [one, two] at read <;> exact absurd read nofun
  | ok f =>
    cases two : s.read p fields (i + r.keys.length) with
    | error e =>
      rw [one, two] at read
      exact absurd read nofun
    | ok a =>
      rw [one, two] at read
      obtain rfl := Except.ok.inj read
      exact first p fields i f defined one a (second p fields _ a defined two)

theorem put_ok {i : Nat} {result : Except Error α} {a : α} (placed : Placed.put i result = .ok a) : result = .ok a := by
  cases result with
  | error e => exact absurd placed nofun
  | ok b => exact congrArg Except.ok (Except.ok.inj placed)

theorem yields_required {key : String} {d : Decoder α} {P : α → Prop} (yields : d.Yields P) :
    (required key d).Yields P := by
  intro p fields i a defined read
  unfold required field at read
  cases fields with
  | members found =>
    dsimp only at read
    split at read
    · rename_i place n _ there
      exact yields p n a (defined.member _ (List.mem_of_find?_eq_some there)) (put_ok read)
    · exact absurd read nofun
  | items found ending whole =>
    dsimp only at read
    split at read
    · rename_i n there
      exact yields p n a (defined.item n (List.mem_of_getElem? there)) (put_ok read)
    · exact absurd read nofun
    · rename_i b _ _ refused
      exact absurd refused nofun
    · exact absurd read nofun

theorem result_ok {problem : Option (Nat × Error)} {placed : Placed α} {a : α}
    (read : (Placed.beside problem placed).result = .ok a) : placed = .ok a := by
  cases problem with
  | none =>
    cases placed with
    | error e => exact absurd read nofun
    | ok b => exact congrArg Except.ok (Except.ok.inj read)
  | some e =>
    cases placed with
    | error e => exact absurd read nofun
    | ok b => exact absurd read nofun

theorem ofItems_ok {name : String} {r : Record α} {p : Place} {found : List Node} {ending : Ending} {a : α}
    (read : r.ofItems name p found ending = .ok a) : ∃ whole, r.read p (.items found ending whole) 0 = .ok a := by
  unfold ofItems at read
  dsimp only at read
  generalize "struct " ++ name ++ _ ++ _ ++ _ = whole at read
  refine ⟨whole, ?_⟩
  cases placed : r.read p (.items found ending whole) 0 with
  | error e =>
    rw [placed] at read
    exact absurd read nofun
  | ok b =>
    rw [placed] at read
    dsimp only [Placed.result, bind, Except.bind] at read
    split at read
    · exact absurd read nofun
    · exact congrArg Except.ok (Except.ok.inj read)

theorem yields_decoder (name : String) {r : Record α} {P : α → Prop} (yields : r.Yields P) :
    (r.decoder name).Yields P := by
  intro p n a defined read
  cases n with
  | object found ending =>
    change (p.enter >>= fun inside => r.ofMembers inside found ending) = _ at read
    cases entered : p.enter with
    | error e =>
      rw [entered] at read
      exact absurd read nofun
    | ok inside =>
      rw [entered] at read
      exact yields inside (.members found) 0 a defined (result_ok read)
  | list found ending =>
    change (p.enter >>= fun inside => r.ofItems name inside found ending) = _ at read
    cases entered : p.enter with
    | error e =>
      rw [entered] at read
      exact absurd read nofun
    | ok inside =>
      rw [entered] at read
      obtain ⟨whole, read⟩ := ofItems_ok read
      exact yields inside (.items found ending whole) 0 a defined read
  | null => exact absurd read mismatch_fails
  | bool b => exact absurd read mismatch_fails
  | integer k => exact absurd read mismatch_fails
  | double x => exact absurd read mismatch_fails
  | text s => exact absurd read mismatch_fails
  | unusable e => exact absurd read mismatch_fails
  | broken scalar fault => exact absurd read mismatch_fails

end Record

theorem ofText_yields {α : Type} {d : Decoder α} {P : α → Prop} (yields : d.Yields P) {text : String} {a : α}
    (read : d.ofText text = .ok a) : P a := by
  unfold Decoder.ofText at read
  cases found : d ⟨.text, maxDepth⟩ (Document.ofText text).root with
  | error e =>
    simp only [found] at read
    exact absurd read nofun
  | ok b =>
    dsimp only at read
    rw [found] at read
    dsimp only [bind, Except.bind] at read
    split at read
    · exact absurd read nofun
    · obtain rfl := Except.ok.inj read
      exact yields _ _ b (document_defined text) found

end Json
end TradingDesk
