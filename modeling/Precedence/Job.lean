/-!
# Job identifiers and precedence edges

A job is known by its name. Identifiers are ordered by code point, which is also the order of
their UTF-8 bytes. Lists of identifiers keep first occurrences (`distinct`) and are put in
ascending order (`JobId.sort`).
-/

namespace Precedence

structure JobId where
  name : String
deriving DecidableEq, Repr, Inhabited

namespace JobId

instance : ToString JobId := ⟨JobId.name⟩

/-- The byte order of the names. -/
def le (a b : JobId) : Bool := decide (a.name ≤ b.name)

def sort (ids : List JobId) : List JobId := ids.mergeSort le

def commaList (ids : List JobId) : String := ", ".intercalate (ids.map name)

end JobId

/-- The target may start only after the source has returned successfully. -/
structure Edge where
  source : JobId
  target : JobId
deriving DecidableEq, Repr

/-- The first occurrence of every element, in order. -/
def distinct {α : Type} [DecidableEq α] : List α → List α
  | [] => []
  | a :: rest => a :: (distinct rest).filter (· ≠ a)

@[simp] theorem mem_distinct {α : Type} [DecidableEq α] {a : α} {l : List α} :
    a ∈ distinct l ↔ a ∈ l := by
  induction l with
  | nil => simp [distinct]
  | cons b rest ih =>
    by_cases same : a = b
    · simp [distinct, same]
    · simp [distinct, ih, same]

/-- The elements at whose place an equal one has gone before. -/
def repeats {α : Type} [DecidableEq α] (earlier : List α) : List α → List α
  | [] => []
  | a :: rest => if a ∈ earlier then a :: repeats earlier rest else repeats (a :: earlier) rest

end Precedence
