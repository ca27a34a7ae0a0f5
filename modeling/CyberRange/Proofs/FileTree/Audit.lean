import CyberRange.FileTree.Consistency
import CyberRange.Proofs.FileTree.Everywhere

namespace CyberRange.Node

/-! The consistency check: the stack walk reports what the structure of the tree gives, in
another order, and reports nothing exactly if every node is consistent. -/

variable {node root : Node} {location : String} {members : List (String × Node)}

/-- What the check asks of one node and of the names of its children. -/
structure Consistent (node : Node) : Prop where
  fits : node.fitsKind = true
  sized : node.isDirectory = false → node.size = node.content.length
  named : ∀ entry ∈ node.members, entry.2.name = entry.1

theorem violations_eq (location : String) (node : Node) :
    node.violations location =
      node.ownFaults location ++ memberViolations location node.members := by
  obtain ⟨_, _, _, children, _, _, _, _, _⟩ := node
  cases children with
  | none => simp [violations, Node.members, memberViolations]
  | some members => rfl

theorem memberViolations_perm (location : String) (members : List (String × Node)) :
    (memberViolations location members).Perm
      (namingFaults location members ++
        (placed location members).flatMap fun entry => entry.2.violations entry.1) := by
  have unordered : (placed location members).Perm
      (members.map fun entry => (childLocation location entry.1, entry.2)) :=
    List.reverse_perm _
  refine List.Perm.trans ?_ ((unordered.flatMap_right _).append_left _).symm
  induction members with
  | nil => exact .refl _
  | cons entry rest induction =>
      obtain ⟨key, child⟩ := entry
      have later := induction (List.reverse_perm _)
      have first : namingFaults location ((key, child) :: rest) =
          (if child.name ≠ key then [.misnamed (childLocation location key) key child.name]
            else []) ++ namingFaults location rest := by
        by_cases same : child.name = key <;> simp [namingFaults, same]
      rw [memberViolations, first, List.map_cons, List.flatMap_cons, List.append_assoc,
        List.append_assoc]
      refine .append_left _ ((later.append_left _).trans ?_)
      rw [← List.append_assoc, ← List.append_assoc]
      exact List.perm_append_comm.append_right _

/-- Each node on the stack gives the faults of its whole tree. -/
theorem auditStack_perm (stack : List (String × Node)) :
    (auditStack stack).Perm (stack.flatMap fun entry => entry.2.violations entry.1) := by
  induction stack using auditStack.induct with
  | case1 => simp [auditStack]
  | case2 location node rest induction =>
      rw [auditStack, List.flatMap_cons, violations_eq, List.append_assoc, List.append_assoc]
      refine .append_left _ (((induction.append_left _).trans ?_))
      rw [List.flatMap_append, ← List.append_assoc]
      exact (memberViolations_perm location node.members).symm.append_right _

theorem ownFaults_eq_nil_iff : node.ownFaults location = [] ↔
    node.fitsKind = true ∧ (node.isDirectory = false → node.size = node.content.length) := by
  cases kind : node.isDirectory <;> cases mapped : node.children <;>
    simp [ownFaults, fitsKind, kind, mapped]

theorem memberViolations_eq_nil_iff : memberViolations location members = [] ↔
    ∀ entry ∈ members, entry.2.name = entry.1 ∧
      entry.2.violations (childLocation location entry.1) = [] := by
  induction members with
  | nil => simp [memberViolations]
  | cons entry rest induction =>
      obtain ⟨key, child⟩ := entry
      rw [memberViolations, List.append_eq_nil_iff, List.append_eq_nil_iff, induction,
        List.forall_mem_cons]
      simp

theorem weight_lt_of_mem {entry : String × Node} (member : entry ∈ node.members) :
    entry.2.weight < node.weight := by
  have inside : entry.2.weight ≤ weightOf node.members := by
    generalize node.members = members at member
    induction members with
    | nil => exact absurd member List.not_mem_nil
    | cons first rest induction =>
        obtain ⟨key, child⟩ := first
        rw [weightOf]
        rcases List.mem_cons.mp member with rfl | member
        · exact Nat.le_add_right ..
        · have later := induction member
          omega
  have whole := weight_eq node
  omega

/-- The tree has no faults exactly if all its nodes are consistent, wherever it stands. -/
theorem violations_eq_nil_iff (node : Node) (location : String) :
    node.violations location = [] ↔ node.Everywhere Consistent := by
  have children : ∀ entry ∈ node.members,
      entry.2.violations (childLocation location entry.1) = [] ↔ entry.2.Everywhere Consistent :=
    fun entry _ => violations_eq_nil_iff entry.2 _
  rw [violations_eq, List.append_eq_nil_iff, ownFaults_eq_nil_iff, memberViolations_eq_nil_iff,
    everywhere_iff]
  constructor
  · rintro ⟨⟨fits, sized⟩, below⟩
    exact ⟨⟨fits, sized, fun entry member => (below entry member).1⟩,
      fun entry member => (children entry member).mp (below entry member).2⟩
  · rintro ⟨⟨fits, sized, named⟩, below⟩
    exact ⟨⟨fits, sized⟩, fun entry member =>
      ⟨named entry member, (children entry member).mpr (below entry member)⟩⟩
termination_by node.weight
decreasing_by exact weight_lt_of_mem ‹_›

theorem audit_eq_nil_iff : root.audit = [] ↔ root.Everywhere Consistent := by
  have walked := auditStack_perm [("/", root)]
  rw [List.flatMap_singleton] at walked
  rw [audit, ← violations_eq_nil_iff root "/"]
  constructor
  · intro clean
    rw [clean] at walked
    exact walked.symm.eq_nil
  · intro clean
    rw [clean] at walked
    exact walked.eq_nil

theorem sound_of_everywhere (consistent : root.Everywhere Consistent) : root.Sound :=
  fun _ found leads => (consistent found (.of_find? leads)).fits

end CyberRange.Node
