import TradingDesk.Proofs.Json.Escaped
import TradingDesk.Proofs.Table
import TradingDesk.Session.PreferencesFile

/-! The file of the preferences is read back as the preferences that were written to it. -/

namespace TradingDesk
namespace Json

theorem members_end (fuel : Nat) (first : Bool) (rest : List Char) :
    members (fuel + 1) first ('\x7d' :: rest) = ([], .closed, rest) := by
  rw [members]
  rfl

theorem members_first (fuel : Nat) (rest : List Char) :
    members (fuel + 1) true ('"' :: rest) = membersFrom fuel rest := by
  rw [members]
  rfl

theorem members_next (fuel : Nat) (rest : List Char) :
    members (fuel + 1) false (',' :: '"' :: rest) = membersFrom fuel rest := by
  rw [members]
  rfl

/-- A key and its text behind an opening quote. -/
def entryChars (entry : String × String) : List Char :=
  entry.1.toList.flatMap escaped ++ '"' :: ':' :: '"' :: (entry.2.toList.flatMap escaped ++ ['"'])

theorem membersFrom_entry (fuel : Nat) (entry : String × String) {more rest : List Char}
    {found : List (Except Error String × Node)} (later : members (fuel + 1) false more = (found, .closed, rest)) :
    membersFrom (fuel + 2) (entryChars entry ++ more) = ((.ok entry.1, .text entry.2) :: found, .closed, rest) := by
  have chars : entryChars entry ++ more = entry.1.toList.flatMap escaped ++
      '"' :: ':' :: '"' :: (entry.2.toList.flatMap escaped ++ '"' :: more) := by
    simp [entryChars]
  rw [chars, membersFrom, quoted_escaped]
  simp only [skipBlank_cons (show isBlank ':' = false from rfl), value_text, later]

/-- What follows an entry: the others, each behind a comma, and the closing brace. -/
def behindEntry (entries : List (String × String)) (rest : List Char) : List Char :=
  entries.flatMap (fun entry => ',' :: '"' :: entryChars entry) ++ '\x7d' :: rest

theorem members_behind (entries : List (String × String)) (rest : List Char) {fuel : Nat}
    (enough : 2 * entries.length < fuel) :
    members fuel false (behindEntry entries rest) =
      (entries.map fun entry => (.ok entry.1, .text entry.2), .closed, rest) := by
  induction entries generalizing fuel with
  | nil =>
    obtain ⟨fuel, rfl⟩ := Nat.exists_eq_add_of_lt enough
    exact members_end _ false rest
  | cons entry others ih =>
    rw [List.length_cons] at enough
    obtain ⟨fuel, rfl⟩ := Nat.exists_eq_add_of_le' (show 3 ≤ fuel by omega)
    have next : behindEntry (entry :: others) rest = ',' :: '"' :: (entryChars entry ++ behindEntry others rest) := by
      simp [behindEntry]
    rw [next, members_next, membersFrom_entry fuel entry (ih (by omega))]
    rfl

/-- The object of the entries, as it is written. -/
def objectChars (entries : List (String × String)) : List Char :=
  (Json.object (entries.map fun entry => (entry.1, .text entry.2))).write.toList

theorem writeMembers_texts (entries : List (String × String)) :
    (writeMembers (entries.map fun entry => (entry.1, .text entry.2))).map String.toList =
      entries.map fun entry => '"' :: entryChars entry := by
  induction entries with
  | nil => rfl
  | cons entry rest ih =>
    rw [List.map_cons, writeMembers, List.map_cons, ih, List.map_cons]
    refine congrArg (· :: _) ?_
    simp [entryChars, writtenText, write, scalar]

theorem intercalate_cons (sep part : List Char) (parts : List (List Char)) :
    sep.intercalate (part :: parts) = part ++ parts.flatMap fun other => sep ++ other := by
  induction parts generalizing part with
  | nil => simp
  | cons next parts ih => rw [List.intercalate_cons_cons, ih, List.flatMap_cons, List.append_assoc, List.append_assoc]

theorem objectChars_nil (rest : List Char) : objectChars [] ++ rest = '\x7b' :: '\x7d' :: rest :=
  rfl

theorem objectChars_cons (entry : String × String) (others : List (String × String)) (rest : List Char) :
    objectChars (entry :: others) ++ rest = '\x7b' :: '"' :: (entryChars entry ++ behindEntry others rest) := by
  unfold objectChars write
  rw [String.toList_append, String.toList_append, String.toList_intercalate, writeMembers_texts, List.map_cons,
    show ",".toList = [','] from rfl, intercalate_cons, List.flatMap_map]
  simp [behindEntry]

theorem value_object (entries : List (String × String)) (rest : List Char) {fuel : Nat}
    (enough : 2 * entries.length + 1 < fuel) :
    value fuel (objectChars entries ++ rest) =
      (.object (entries.map fun entry => (.ok entry.1, .text entry.2)) .closed, rest) := by
  obtain ⟨fuel, rfl⟩ := Nat.exists_eq_add_of_le' (show 2 ≤ fuel by omega)
  cases entries with
  | nil =>
    rw [objectChars_nil, value, skipBlank_cons rfl]
    simp only [members_end]
    rfl
  | cons entry others =>
    rw [List.length_cons] at enough
    obtain ⟨fuel, rfl⟩ := Nat.exists_eq_add_of_le' (show 2 ≤ fuel by omega)
    rw [objectChars_cons, value, skipBlank_cons rfl]
    simp only [members_first, membersFrom_entry fuel entry (members_behind others rest (show _ < fuel + 1 by omega))]
    rfl

theorem length_objectChars (entries : List (String × String)) : 2 * entries.length ≤ (objectChars entries).length := by
  have behind (others : List (String × String)) : 2 * others.length ≤ (behindEntry others []).length := by
    induction others with
    | nil => exact Nat.zero_le _
    | cons entry others ih =>
      have longer : (behindEntry (entry :: others) []).length =
          2 + (entryChars entry).length + (behindEntry others []).length := by
        simp [behindEntry]
        omega
      rw [longer, List.length_cons]
      omega
  cases entries with
  | nil => exact Nat.zero_le _
  | cons entry others =>
    have chars := objectChars_cons entry others []
    rw [List.append_nil] at chars
    rw [chars, List.length_cons, List.length_cons, List.length_cons, List.length_append]
    have := behind others
    omega

theorem valueMembers_texts (entries : List (String × String)) (room : Nat) :
    valueMembers room (entries.map fun entry => (.ok entry.1, .text entry.2)) =
      .ok (entries.map fun entry => (entry.1, .text entry.2)) := by
  induction entries with
  | nil => rfl
  | cons entry rest ih =>
    rw [List.map_cons, valueMembers, ih]
    rfl

theorem parse_object (entries : List (String × String)) :
    parse (String.ofList (objectChars entries ++ ['\n'])) =
      .ok (.object (Table.ofList (entries.map fun entry => (entry.1, .text entry.2)))) := by
  have enough := length_objectChars entries
  have root := value_object entries ['\n']
    (show 2 * entries.length + 1 < 3 * (objectChars entries ++ ['\n']).length + 3 by
      rw [List.length_append]
      omega)
  unfold parse Document.ofText
  simp only [String.toList_ofList, root, Node.value, maxDepth, valueMembers_texts]
  rfl

end Json

namespace Preferences

theorem toText_chars (p : Preferences) :
    p.toText.toList = heading.toList ++ (Json.objectChars p.entries ++ ['\n']) := by
  unfold toText
  rw [String.toList_append, String.toList_append, List.append_assoc]
  rfl

/-- Preferences in order are read back from their file. -/
theorem ofText_toText {p : Preferences} (ascending : p.entries.Ascending) : ofText p.toText = some p := by
  have chars := toText_chars p
  have content : p.toText ≠ "" := by
    intro empty
    rw [empty] at chars
    exact absurd (congrArg List.length chars) (by simp [heading])
  have headed : heading.toList.isPrefixOf p.toText.toList = true := by
    rw [chars, List.isPrefixOf_iff_prefix]
    exact List.prefix_append _ _
  have rest : p.toText.toList.drop heading.length = Json.objectChars p.entries ++ ['\n'] := by
    rw [chars, ← String.length_toList, List.drop_left]
  have sorted : Table.Ascending (p.entries.map fun entry => (entry.1, Json.text entry.2)) :=
    List.pairwise_map.mpr ascending
  have texts : (p.entries.map fun entry => (entry.1, Json.text entry.2)).filterMap
      (fun m => m.2.text?.map (m.1, ·)) = p.entries := by
    rw [List.filterMap_map]
    exact (List.filterMap_congr fun _ _ => rfl).trans List.filterMap_some
  unfold ofText
  rw [if_neg content, if_pos headed, rest, Json.parse_object, Table.ofList_ascending sorted]
  exact congrArg (fun entries => some (Preferences.mk entries))
    ((congrArg Table.ofList texts).trans (Table.ofList_ascending ascending))

end Preferences
end TradingDesk
