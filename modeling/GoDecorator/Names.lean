import GoDecorator.Shape.Naming

/-!
# Unique names

Within one function no two variables may share a name. `Names` holds the names that are taken, and
hands out new ones: the first request for a name gets it as it is, later ones get it with a number
from two on, and a numbered name that is taken is passed over.

For each requested name the last number handed out is remembered, so that the search goes on from
there. The search ends because every number it passes over belongs to a taken name.
-/

namespace GoDecorator

/-- The names that are taken in a scope. -/
structure Names where
  /-- The names that were reserved or handed out. -/
  taken : List String
  /-- For a name that was asked for again, the last number handed out with it. -/
  counters : List (String × Nat)
deriving DecidableEq, Repr

/-- The name with a number. -/
def numbered (base : String) (k : Nat) : String := base ++ toString k

/-- The least number from `k` on whose numbered name is not taken. -/
def firstFree (base : String) (taken : List String) (k : Nat) : Nat :=
  if numbered base k ∈ taken then firstFree base (taken.erase (numbered base k)) (k + 1) else k
termination_by taken.length
decreasing_by
  rename_i h
  rw [List.length_erase_of_mem h]
  exact Nat.sub_lt (List.length_pos_of_mem h) Nat.one_pos

namespace Names

/-- No name is taken. -/
def empty : Names := ⟨[], []⟩

/-- Takes a name, and says whether it was free. -/
def reserve (names : Names) (name : String) : Bool × Names :=
  if name ∈ names.taken then (false, names) else (true, { names with taken := name :: names.taken })

/-- The given names are taken. -/
def ofReserved (reserved : List String) : Names :=
  reserved.foldl (fun names name ↦ (names.reserve name).2) empty

/-- The last number handed out with a name; one if it was handed out without a number only. -/
def counter (names : Names) (base : String) : Nat := (names.counters.lookup base).getD 1

/-- Takes and returns a free name made from the given one. -/
def allocate (names : Names) (base : String) : String × Names :=
  match names.reserve base with
  | (true, names) => (base, names)
  | (false, names) =>
    let k := firstFree base names.taken (names.counter base + 1)
    let name := numbered base k
    (name, ⟨name :: names.taken, (base, k) :: names.counters.filter (·.1 ≠ base)⟩)

theorem fst_reserve (names : Names) (name : String) :
    (names.reserve name).1 = true ↔ name ∉ names.taken := by
  unfold reserve
  split <;> simp_all

/-- After a name was reserved, it is taken beside those that were. -/
theorem mem_taken_reserve (names : Names) (name x : String) :
    x ∈ (names.reserve name).2.taken ↔ x = name ∨ x ∈ names.taken := by
  unfold reserve
  split <;> simp_all

theorem allocate_of_not_mem (names : Names) {base : String} (h : base ∉ names.taken) :
    names.allocate base = (base, { names with taken := base :: names.taken }) := by
  simp [allocate, reserve, h]

/-- The name that is handed out is taken beside those that were. -/
theorem taken_allocate (names : Names) (base : String) :
    (names.allocate base).2.taken = (names.allocate base).1 :: names.taken := by
  by_cases h : base ∈ names.taken <;> simp [allocate, reserve, h]

/-- Takes and returns a name for a variable of the given type. -/
def allocateFor (names : Names) (s : Shape) : String × Names := names.allocate s.variableName

/-- Takes and returns names for variables of the given types, in order. -/
def allocateAll (names : Names) : List Shape → List String × Names
  | [] => ([], names)
  | s :: ss =>
    let (name, names) := names.allocateFor s
    let (rest, names) := names.allocateAll ss
    (name :: rest, names)

end Names

end GoDecorator
