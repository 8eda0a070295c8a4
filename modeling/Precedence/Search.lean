/-!
# Depth-first search with an explicit stack

Both searches carry the nodes that are still fresh, so a node is discovered at most once and the
search ends although the stack may hold a node several times. `visit` lists the nodes in the order
in which it discovers them; `finish` lists them in reverse order of finishing, so that without
cycles every node stands before its successors.
-/

namespace Precedence.Search

variable {α : Type} [DecidableEq α]

/-- Discovers the fresh nodes reachable from the stack. Gives them in order of discovery together
with the nodes that stay fresh. -/
def visit (next : α → List α) (fresh : List α) : List α → List α × List α
  | [] => ([], fresh)
  | node :: stack =>
    if node ∈ fresh then
      let later := fresh.erase node
      let (found, rest) := visit next later
        (((next node).filter (· ∈ later)).reverse ++ stack)
      (node :: found, rest)
    else visit next fresh stack
termination_by stack => (fresh.length, stack.length)
decreasing_by
  · have member : node ∈ fresh := by assumption
    have := List.length_erase_of_mem member
    have := List.length_pos_of_mem member
    exact Prod.Lex.left _ _ (by omega)
  · exact Prod.Lex.right _ (by simp)

/-- Finishes every node of the stack and all that is reachable from it. A node is looked at twice:
it is discovered, and its fresh successors go on the stack above it; when it is on top again it is
finished. The nodes finished last come first. -/
def finish (next : α → List α) (fresh : List α) (finished : List α) : List α → List α
  | [] => finished
  | node :: stack =>
    if node ∈ fresh then
      let later := fresh.erase node
      finish next later finished
        (((next node).filter (· ∈ later)).reverse ++ node :: stack)
    else if node ∈ finished then finish next fresh finished stack
    else finish next fresh (node :: finished) stack
termination_by stack => (fresh.length, stack.length)
decreasing_by
  · have member : node ∈ fresh := by assumption
    have := List.length_erase_of_mem member
    have := List.length_pos_of_mem member
    exact Prod.Lex.left _ _ (by omega)
  · exact Prod.Lex.right _ (by simp)
  · exact Prod.Lex.right _ (by simp)

end Precedence.Search
