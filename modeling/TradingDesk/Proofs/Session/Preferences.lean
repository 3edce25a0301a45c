import TradingDesk.Proofs.Session.PreferencesFile

/-! The preferences through any sequence of calls: a finite map from keys to the texts that were written last. -/

namespace TradingDesk
namespace Preferences

/-- What is asked of the preferences. A value is of the kind that its reader reads. -/
inductive Call : Type 1 where
  | get {α : Type} (d : Json.Decoder α) (key : String) (default : α)
  | set (key : String) (v : Json)
  | setRaw (key raw : String)
  | update {α : Type} (d : Json.Decoder α) (toJson : α → Json) (key : String) (default : α) (change : α → α)
  | remove (key : String)
  | reopen

/-- What a text stands for where a value is wanted: the default when there is none or it is of another kind. -/
def decoded {α : Type} (d : Json.Decoder α) (default : α) (held : Option String) : α :=
  match held.map d.ofText with
  | some (.ok a) => a
  | _ => default

namespace Call

def Answer : Call → Type
  | @get α .. => α
  | @update α .. => α
  | remove _ => Bool
  | set .. | setRaw .. | reopen => Unit

def answer : (c : Call) → Preferences → c.Answer
  | get d key default, p => p.get d key default
  | update d toJson key default change, p => (p.update d toJson key default change).1
  | remove key, p => (p.remove key).1
  | set .., _ | setRaw .., _ | reopen, _ => ()

/-- The preferences after the call. To reopen them is to read the file that they were written to. -/
def after : Call → Preferences → Option Preferences
  | get .., p => some p
  | set key v, p => some (p.set key v)
  | setRaw key raw, p => some (p.setRaw key raw)
  | update d toJson key default change, p => some (p.update d toJson key default change).2
  | remove key, p => some (p.remove key).2
  | reopen, p => ofText p.toText

/-- The key that is written or removed. -/
def target? : Call → Option String
  | set key _ | setRaw key _ | update _ _ key _ _ | remove key => some key
  | get .. | reopen => none

/-- The text that the call leaves for its key, when this one was held. -/
def stored (held : Option String) : Call → Option String
  | set _ v => some v.write
  | setRaw _ raw => some raw
  | update d toJson _ default change => some (toJson (change (decoded d default held))).write
  | remove _ => none
  | get .. | reopen => held

/-- What the call gives back where these texts are held. -/
def expected : (c : Call) → (String → Option String) → c.Answer
  | get d key default, held => decoded d default (held key)
  | update d _ key default change, held => change (decoded d default (held key))
  | remove key, held => (held key).isSome
  | set .., _ | setRaw .., _ | reopen, _ => ()

/-- The text that is held for a key after the call. -/
def leaves (c : Call) (key : String) (held : Option String) : Option String :=
  if c.target? = some key then c.stored held else held

end Call

def run (calls : List Call) (p : Preferences) : Option Preferences :=
  calls.foldlM (fun p c => c.after p) p

/-- The text most recently written for a key since its last removal. -/
def latest (key : String) (calls : List Call) : Option String :=
  calls.foldl (fun held c => c.leaves key held) none

/-- The preferences are a map from keys to the texts most recently written. -/
structure Refined (calls : List Call) (p : Preferences) : Prop where
  texts : ∀ key, p.raw? key = latest key calls
  /-- A text is held exactly when some call wrote it for the key and no later call wrote or removed that key. -/
  written : ∀ key raw, latest key calls = some raw ↔ ∃ before c later, calls = before ++ c :: later ∧
    c.target? = some key ∧ c.stored (latest key before) = some raw ∧ ∀ other ∈ later, other.target? ≠ some key
  answers : ∀ c : Call, c.answer p = c.expected fun key => latest key calls
  others : ∀ (c : Call) (key : String), c.target? ≠ some key → ∃ q, c.after p = some q ∧ q.raw? key = p.raw? key
  updated : ∀ {α : Type} (d : Json.Decoder α) (toJson : α → Json) (key : String) (default other : α) (change : α → α),
    (∀ a, d.ofText (toJson a).write = .ok a) →
      (p.update d toJson key default change).2.get d key other = change (p.get d key default)
  reopened : Call.reopen.after p = some p

theorem get_decoded {α : Type} (d : Json.Decoder α) (key : String) (default : α) (p : Preferences) :
    p.get d key default = decoded d default (p.raw? key) :=
  rfl

theorem raw?_remove (key other : String) (p : Preferences) :
    (p.remove key).2.raw? other = if other = key then none else p.raw? other :=
  Table.get?_erase key other p.entries

theorem leaves_target {c : Call} {k : String} (target : c.target? = some k) (key : String) (held : Option String) :
    c.leaves key held = if key = k then c.stored held else held := by
  unfold Call.leaves
  rw [target]
  by_cases same : key = k
  · rw [if_pos same, if_pos (congrArg some same.symm)]
  · rw [if_neg same, if_neg fun found => same (Option.some.inj found).symm]

theorem leaves_other {c : Call} {key : String} (other : c.target? ≠ some key) (held : Option String) :
    c.leaves key held = held :=
  if_neg other

/-- One call leaves the preferences in order, with the text it leaves for its key and all others as they were. -/
theorem after_leaves (c : Call) {p : Preferences} (ascending : p.entries.Ascending) :
    ∃ q, c.after p = some q ∧ q.entries.Ascending ∧ ∀ key, q.raw? key = c.leaves key (p.raw? key) := by
  cases c with
  | get d key default => exact ⟨p, rfl, ascending, fun _ => rfl⟩
  | set k v =>
    refine ⟨_, rfl, Table.ascending_put k _ ascending, fun key => ?_⟩
    rw [leaves_target rfl]
    exact raw?_setRaw k key v.write p
  | setRaw k raw =>
    refine ⟨_, rfl, Table.ascending_put k _ ascending, fun key => ?_⟩
    rw [leaves_target rfl]
    exact raw?_setRaw k key raw p
  | update d toJson k default change =>
    refine ⟨_, rfl, Table.ascending_put k _ ascending, fun key => ?_⟩
    rw [leaves_target rfl]
    refine (raw?_setRaw k key _ p).trans ?_
    by_cases same : key = k
    · subst same
      rfl
    · rw [if_neg same, if_neg same]
  | remove k =>
    refine ⟨_, rfl, Table.ascending_erase k ascending, fun key => ?_⟩
    rw [leaves_target rfl]
    exact raw?_remove k key p
  | reopen => exact ⟨p, ofText_toText ascending, ascending, fun _ => rfl⟩

theorem latest_append (key : String) (calls : List Call) (c : Call) :
    latest key (calls ++ [c]) = c.leaves key (latest key calls) := by
  unfold latest
  rw [List.foldl_append]
  rfl

theorem run_append (calls : List Call) (c : Call) (p : Preferences) :
    run (calls ++ [c]) p = (run calls p).bind c.after := by
  unfold run
  simp only [List.foldlM_append, List.foldlM_cons, List.foldlM_nil, bind_pure]
  rfl

/-- A run of calls holds for each key the text most recently written. -/
theorem run_texts (calls : List Call) :
    ∃ p, run calls {} = some p ∧ p.entries.Ascending ∧ ∀ key, p.raw? key = latest key calls := by
  induction calls using List.reverseRecOn with
  | nil => exact ⟨{}, rfl, Table.ascending_empty, fun _ => rfl⟩
  | append_singleton calls c ih =>
    obtain ⟨p, ran, ascending, texts⟩ := ih
    obtain ⟨q, after, sorted, left⟩ := after_leaves c ascending
    refine ⟨q, ?_, sorted, fun key => ?_⟩
    · rw [run_append, ran]
      exact after
    · rw [latest_append, left, texts]

/-- A call of a history with one more call is the last one, or a call of the history with the last one behind it. -/
theorem append_split {calls before later : List Call} {c last : Call} (split : calls ++ [last] = before ++ c :: later) :
    later = [] ∧ before = calls ∧ c = last ∨ ∃ rest, later = rest ++ [last] ∧ calls = before ++ c :: rest := by
  rcases List.eq_nil_or_concat' later with rfl | ⟨rest, final, rfl⟩
  · obtain ⟨rfl, same⟩ := List.append_inj' split rfl
    exact .inl ⟨rfl, rfl, (List.singleton_inj.mp same).symm⟩
  · rw [← List.cons_append, ← List.append_assoc] at split
    obtain ⟨rfl, same⟩ := List.append_inj' split rfl
    exact .inr ⟨rest, by rw [List.singleton_inj.mp same], rfl⟩

theorem latest_written (key raw : String) (calls : List Call) :
    latest key calls = some raw ↔ ∃ before c later, calls = before ++ c :: later ∧
      c.target? = some key ∧ c.stored (latest key before) = some raw ∧ ∀ other ∈ later, other.target? ≠ some key := by
  induction calls using List.reverseRecOn with
  | nil =>
    constructor
    · nofun
    · rintro ⟨before, c, later, split, -⟩
      exact absurd split (by simp)
  | append_singleton calls last ih =>
    rw [latest_append]
    by_cases target : last.target? = some key
    · rw [leaves_target target, if_pos rfl]
      constructor
      · exact fun stored => ⟨calls, last, [], rfl, target, stored, nofun⟩
      · rintro ⟨before, c, later, split, own, stored, untouched⟩
        rcases append_split split with ⟨rfl, rfl, rfl⟩ | ⟨rest, rfl, rfl⟩
        · exact stored
        · exact absurd target (untouched last (List.mem_append_right _ List.mem_cons_self))
    · rw [leaves_other target, ih]
      constructor
      · rintro ⟨before, c, later, rfl, own, stored, untouched⟩
        refine ⟨before, c, later ++ [last], by simp, own, stored, fun other member => ?_⟩
        rcases List.mem_append.mp member with earlier | final
        · exact untouched other earlier
        · exact List.mem_singleton.mp final ▸ target
      · rintro ⟨before, c, later, split, own, stored, untouched⟩
        rcases append_split split with ⟨rfl, rfl, rfl⟩ | ⟨rest, rfl, rfl⟩
        · exact absurd own target
        · exact ⟨before, c, rest, rfl, own, stored, fun other member => untouched other (List.mem_append_left _ member)⟩

theorem update_get {α : Type} {d : Json.Decoder α} {toJson : α → Json} (lawful : ∀ a, d.ofText (toJson a).write = .ok a)
    (key : String) (default other : α) (change : α → α) (p : Preferences) :
    (p.update d toJson key default change).2.get d key other = change (p.get d key default) := by
  rw [get_decoded]
  unfold update set
  rw [raw?_setRaw, if_pos rfl]
  unfold decoded
  rw [Option.map_some, lawful]

/-- Through any sequence of calls the preferences are a map from keys to the texts most recently written. -/
theorem run_refined (calls : List Call) : ∃ p, run calls {} = some p ∧ Refined calls p := by
  obtain ⟨p, ran, ascending, texts⟩ := run_texts calls
  refine ⟨p, ran, texts, fun key raw => latest_written key raw calls, fun c => ?_, fun c key other => ?_,
    fun d toJson key default other change lawful => update_get lawful key default other change p,
    ofText_toText ascending⟩
  · cases c with
    | get d key default => exact congrArg (decoded d default) (texts key)
    | set key v => rfl
    | setRaw key raw => rfl
    | update d toJson key default change => exact congrArg (fun held => change (decoded d default held)) (texts key)
    | remove key => exact congrArg Option.isSome (texts key)
    | reopen => rfl
  · obtain ⟨q, after, -, left⟩ := after_leaves c ascending
    exact ⟨q, after, (left key).trans (leaves_other other _)⟩

/-- A text that cannot be read is written over, and the one that follows is changed. -/
theorem run_refined_renamed : ∃ p, run [.setRaw "name" "?", .reopen, .set "name" (.text "Ann")] {} = some p ∧
    p.get .text "name" "nobody" = "Ann" ∧
    (p.update .text .text "name" "nobody" (· ++ "a")).2.get .text "name" "" = "Anna" := by
  obtain ⟨p, ran, refined⟩ := run_refined [.setRaw "name" "?", .reopen, .set "name" (.text "Ann")]
  have held : p.raw? "name" = some (Json.text "Ann").write := refined.texts "name"
  have read : p.get .text "name" "nobody" = "Ann" := by
    rw [get_decoded, held, decoded, Option.map_some, Json.text_written]
  have renamed := refined.updated .text .text "name" "nobody" "" (· ++ "a") Json.text_written
  rw [read] at renamed
  exact ⟨p, ran, read, renamed⟩

end Preferences
end TradingDesk
