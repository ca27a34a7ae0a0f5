import CyberRange.FileTree.Node

namespace CyberRange.Node

/-! Looking up the ways of a tree, before and after a change at one of them. -/

variable {node found : Node} {key : String} {way other : List String}

@[simp] theorem find?_nil (node : Node) : node.find? [] = some node := rfl

theorem find?_cons (step : String) (rest : List String) (node : Node) :
    node.find? (step :: rest) = (node.child? step).bind (find? rest) := rfl

theorem find?_append (front back : List String) (node : Node) :
    node.find? (front ++ back) = (node.find? front).bind (find? back) := by
  induction front generalizing node with
  | nil => rfl
  | cons step rest induction =>
      rw [List.cons_append, find?_cons, find?_cons]
      cases node.child? step with
      | none => rfl
      | some child => exact induction child

theorem find?_concat (way : List String) (key : String) (node : Node) :
    node.find? (way ++ [key]) = (node.find? way).bind (child? key) := by
  rw [find?_append]
  congr 1
  funext found
  rw [find?_cons]
  cases found.child? key <;> rfl

theorem child?_of_children_eq_none (bare : node.children = none) (key : String) :
    node.child? key = none := by
  rw [child?, bare]
  rfl

/-- A change further down a way is a change of one child. -/
theorem child?_changeAt_cons (change : Node → Node) (step : String) (rest : List String)
    (node : Node) (key : String) :
    (changeAt change (step :: rest) node).child? key =
      if key = step then (node.child? key).map (changeAt change rest) else node.child? key := by
  simp only [child?, changeAt]
  cases node.children with
  | none => split <;> rfl
  | some members =>
      split
      · rename_i same
        subst same
        exact Entries.get?_adjust_self ..
      · rename_i different
        exact Entries.get?_adjust_of_ne different ..

theorem child?_withChild_self {members : List (String × Node)}
    (mapped : node.children = some members) (key : String) (child : Node) :
    (withChild key child node).child? key = some child := by
  simp only [child?, withChild, mapped]
  exact Entries.get?_put_self ..

theorem child?_withChild_of_ne {other : String} (different : other ≠ key) (child node : Node) :
    (withChild key child node).child? other = node.child? other := by
  simp only [child?, withChild]
  cases node.children with
  | none => rfl
  | some members => exact Entries.get?_put_of_ne different ..

/-- At and below the way of a change there is what the change makes of the node there. -/
theorem find?_changeAt_append (change : Node → Node) (way rest : List String) (node : Node) :
    (changeAt change way node).find? (way ++ rest) =
      (node.find? way).bind fun found => (change found).find? rest := by
  induction way generalizing node with
  | nil => rfl
  | cons step steps induction =>
      rw [List.cons_append, find?_cons, child?_changeAt_cons, if_pos rfl, find?_cons]
      cases node.child? step with
      | none => rfl
      | some child => exact induction child

/-- Above the way of a change, the change is one further down. -/
theorem find?_changeAt_of_append (change : Node → Node) (way rest : List String) (node : Node) :
    (changeAt change (way ++ rest) node).find? way =
      (node.find? way).map (changeAt change rest) := by
  induction way generalizing node with
  | nil => rfl
  | cons step steps induction =>
      rw [List.cons_append, find?_cons, child?_changeAt_cons, if_pos rfl, find?_cons]
      cases node.child? step with
      | none => rfl
      | some child => exact induction child

/-- A change is not seen on a way that neither leads to it nor on from it. -/
theorem find?_changeAt_of_apart (above : ¬ other <+: way) (below : ¬ way <+: other)
    (change : Node → Node) (node : Node) :
    (changeAt change way node).find? other = node.find? other := by
  induction way generalizing other node with
  | nil => exact absurd List.nil_prefix below
  | cons step steps induction =>
      cases other with
      | nil => exact absurd List.nil_prefix above
      | cons key rest =>
          rw [find?_cons, find?_cons, child?_changeAt_cons]
          by_cases same : key = step
          · subst same
            rw [List.cons_prefix_cons] at above below
            have under : ∀ child : Node, (changeAt change steps child).find? rest = child.find? rest :=
              induction (fun leads => above ⟨rfl, leads⟩) (fun leads => below ⟨rfl, leads⟩)
            rw [if_pos rfl]
            cases node.child? key with
            | none => rfl
            | some child => exact under child
          · rw [if_neg same]

theorem changeAt_changeAt (one two : Node → Node) (way : List String) (node : Node) :
    changeAt two way (changeAt one way node) =
      changeAt (fun found => two (one found)) way node := by
  induction way generalizing node with
  | nil => rfl
  | cons step rest induction =>
      simp only [changeAt]
      cases node.children with
      | none => rfl
      | some members => simp only [Option.map_some, Entries.adjust_adjust, induction]

/-- A change that spares the node at the end of a way spares the tree. -/
theorem changeAt_of_fixed {change : Node → Node}
    (fixed : ∀ found, node.find? way = some found → change found = found) :
    changeAt change way node = node := by
  induction way generalizing node with
  | nil => exact fixed node rfl
  | cons step rest induction =>
      have members_eq : node.children.map (Entries.adjust step (changeAt change rest)) =
          node.children := by
        cases mapped : node.children with
        | none => rfl
        | some members =>
            have inside (child : Node) (held : Entries.get? step members = some child) :
                changeAt change rest child = child := by
              refine induction fun found leads => fixed found ?_
              rw [find?_cons, child?, mapped, Option.bind_some, held, Option.bind_some, leads]
            rw [Option.map_some, Entries.adjust_congr inside, Entries.adjust_id]
      rw [changeAt, members_eq]
      cases node
      rfl

end CyberRange.Node
