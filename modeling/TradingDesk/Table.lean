/-! Finite maps from texts, kept in ascending order of their keys. -/

namespace TradingDesk

abbrev Table (α : Type) := List (String × α)

namespace Table

def get? (key : String) (t : Table α) : Option α :=
  t.lookup key

def has (key : String) (t : Table α) : Bool :=
  (t.get? key).isSome

/-- Puts a value at its key's place; an earlier value of the key is replaced. -/
def put (key : String) (value : α) : Table α → Table α
  | [] => [(key, value)]
  | (k, v) :: rest =>
    if key < k then (key, value) :: (k, v) :: rest
    else if k = key then (key, value) :: rest
    else (k, v) :: put key value rest

/-- Of equal keys the last one stays. -/
def ofList (entries : List (String × α)) : Table α :=
  entries.foldl (fun t (key, value) => put key value t) []

def erase (key : String) (t : Table α) : Table α :=
  t.filter fun entry => entry.1 != key

theorem get?_cons (other k : String) (v : α) (rest : Table α) :
    get? other ((k, v) :: rest) = if other = k then some v else get? other rest := by
  by_cases h : other = k
  · simp [get?, h]
  · simp [get?, List.lookup_cons, h, beq_eq_false_iff_ne.mpr h]

theorem get?_put (key other : String) (value : α) (t : Table α) :
    (t.put key value).get? other = if other = key then some value else t.get? other := by
  induction t with
  | nil => simp [put, get?_cons]
  | cons entry rest ih =>
    obtain ⟨k, v⟩ := entry
    unfold put
    split
    · simp [get?_cons]
    · split
      · rename_i same
        subst same
        by_cases h : other = k <;> simp [get?_cons, h]
      · rename_i differs
        by_cases h : other = k
        · subst h
          simp [get?_cons, differs]
        · simp [get?_cons, ih, h]

end Table
end TradingDesk
