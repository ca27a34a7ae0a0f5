import CyberRange.Proofs.FileTree.Audit
import Mathlib.Data.List.Perm.Basic
import Mathlib.Logic.Function.Iterate

namespace CyberRange.Node

/-! The consistency check turn by turn.

Each turn takes one node from the stack, so there are as many turns as nodes, and what has
been looked at together with what the stack holds below it is always the whole tree.  The
faults found are those of the nodes looked at, kind by kind.
-/

variable {node root : Node} {location : String}

mutual

/-- The nodes at and below a location, each with its own, by the structure of the tree. -/
def occurrences (location : String) : Node → List (String × Node)
  | ⟨name, kind, content, none, permissions, owner, group, size, modified⟩ =>
      [(location, ⟨name, kind, content, none, permissions, owner, group, size, modified⟩)]
  | ⟨name, kind, content, some members, permissions, owner, group, size, modified⟩ =>
      (location,
          ⟨name, kind, content, some members, permissions, owner, group, size, modified⟩) ::
        memberOccurrences location members

def memberOccurrences (location : String) : List (String × Node) → List (String × Node)
  | [] => []
  | (key, child) :: rest =>
      occurrences (childLocation location key) child ++ memberOccurrences location rest

end

theorem memberOccurrences_eq (location : String) (members : List (String × Node)) :
    memberOccurrences location members =
      members.flatMap fun entry => entry.2.occurrences (childLocation location entry.1) := by
  induction members with
  | nil => rfl
  | cons entry rest induction => rw [memberOccurrences, induction, List.flatMap_cons]

theorem occurrences_eq (location : String) (node : Node) :
    node.occurrences location = (location, node) :: node.members.flatMap fun entry =>
      entry.2.occurrences (childLocation location entry.1) := by
  obtain ⟨_, _, _, children, _, _, _, _, _⟩ := node
  cases children with
  | none => rfl
  | some members => rw [occurrences, memberOccurrences_eq, Node.members, Option.getD_some]

theorem length_occurrences (location : String) (node : Node) :
    (node.occurrences location).length = node.weight := by
  -- by weight: the children are in a list of the node, and none of them is as heavy
  have children (entry : String × Node) (_ : entry ∈ node.members) (location : String) :
      (entry.2.occurrences location).length = entry.2.weight :=
    length_occurrences location entry.2
  rw [occurrences_eq, List.length_cons, weight_eq, Nat.add_comm, Nat.add_left_cancel_iff]
  generalize node.members = members at children
  induction members with
  | nil => rfl
  | cons entry rest induction =>
      rw [List.flatMap_cons, List.length_append, weightOf,
        children entry List.mem_cons_self,
        induction fun other member => children other (List.mem_cons_of_mem _ member)]
termination_by node.weight
decreasing_by exact weight_lt_of_mem ‹_›

theorem has_iff_mem_occurrences (root : Node) (location : String) (node : Node) :
    root.Has node ↔ ∃ place, (place, node) ∈ root.occurrences location := by
  constructor
  · intro inside
    induction inside generalizing location with
    | self node =>
        refine ⟨location, ?_⟩
        rw [occurrences_eq]
        exact List.mem_cons_self
    | @under root found entry member _ induction =>
        obtain ⟨place, there⟩ := induction (childLocation location entry.1)
        refine ⟨place, ?_⟩
        rw [occurrences_eq]
        exact List.mem_cons_of_mem _ (List.mem_flatMap.mpr ⟨entry, member, there⟩)
  · rintro ⟨place, there⟩
    rw [occurrences_eq, List.mem_cons, List.mem_flatMap] at there
    rcases there with same | ⟨entry, member, there⟩
    · obtain ⟨-, rfl⟩ := Prod.mk.inj same
      exact .self node
    · exact .under member ((has_iff_mem_occurrences entry.2 _ node).mpr ⟨place, there⟩)
termination_by root.weight
decreasing_by exact weight_lt_of_mem ‹_›

/-- The faults that the check reports when it looks at a node. -/
def inspection (entry : String × Node) : List TreeFault :=
  entry.2.ownFaults entry.1 ++ namingFaults entry.1 entry.2.members

/-- The check under way: what is still to be looked at, what has been, and the faults found. -/
structure Walk where
  pending : List (String × Node)
  visited : List (String × Node)
  faults : List TreeFault

namespace Walk

def start (root : Node) : Walk :=
  { pending := [("/", root)], visited := [], faults := [] }

/-- The node on top of the stack is looked at, and its children go on top. -/
def turn (walk : Walk) : Walk :=
  match walk.pending with
  | [] => walk
  | (location, node) :: rest =>
      { pending := placed location node.members ++ rest
        visited := walk.visited ++ [(location, node)]
        faults := walk.faults ++ inspection (location, node) }

/-- What a number of turns leaves to be done, and what it has found. -/
structure After (root : Node) (turns : Nat) (walk : Walk) : Prop where
  weight : weightOf walk.pending + turns = root.weight
  covered : (walk.visited ++ walk.pending.flatMap fun entry => entry.2.occurrences entry.1).Perm
    (root.occurrences "/")
  told : walk.faults = walk.visited.flatMap inspection
  audited : walk.faults ++ auditStack walk.pending = root.audit

variable {turns : Nat} {walk : Walk}

theorem after_start (root : Node) : After root 0 (start root) where
  weight := by simp [start, weightOf]
  covered := by simp [start]
  told := rfl
  audited := rfl

/-- A stack without weight is empty, as every node has some. -/
theorem weightOf_eq_zero_iff {stack : List (String × Node)} : weightOf stack = 0 ↔ stack = [] := by
  cases stack with
  | nil => simp [weightOf]
  | cons entry rest =>
      have some := weight_eq entry.2
      rw [weightOf]
      simp only [reduceCtorEq, iff_false]
      omega

theorem After.turn (after : After root turns walk) (pending : walk.pending ≠ []) :
    After root (turns + 1) walk.turn := by
  obtain ⟨⟨location, node⟩, rest, stack⟩ := List.exists_cons_of_ne_nil pending
  obtain ⟨weight, covered, told, audited⟩ := after
  rw [stack] at weight covered audited
  have children : ((placed location node.members).flatMap fun entry =>
      entry.2.occurrences entry.1).Perm
      (node.members.flatMap fun entry => entry.2.occurrences (childLocation location entry.1)) := by
    rw [← List.flatMap_map (fun entry : String × Node => (childLocation location entry.1, entry.2))
      fun entry => entry.2.occurrences entry.1]
    exact (List.reverse_perm _).flatMap_right _
  simp only [Walk.turn, stack]
  constructor
  · rw [weightOf, weight_eq] at weight
    rw [weightOf_append, weightOf_placed]
    omega
  · refine List.Perm.trans ?_ covered
    rw [List.flatMap_append, List.flatMap_cons, occurrences_eq, List.append_assoc]
    exact .append_left _ (.cons _ (children.append_right _))
  · rw [told, List.flatMap_append, List.flatMap_singleton]
  · rw [← audited, auditStack, List.append_assoc]
    rfl

/-- As long as there are turns left, each one finds a node on the stack. -/
theorem after_iterate (within : turns ≤ root.weight) :
    After root turns (Walk.turn^[turns] (start root)) := by
  induction turns with
  | zero => exact after_start root
  | succ turns induction =>
      have before := induction (Nat.le_of_succ_le within)
      rw [Function.iterate_succ_apply']
      refine before.turn fun empty => ?_
      have weight := before.weight
      rw [empty, weightOf] at weight
      omega

/-- An empty stack ends the check. -/
theorem pending_iterate (done : walk.pending = []) (turns : Nat) :
    (Walk.turn^[turns] walk).pending = [] := by
  have fixed : walk.turn = walk := by
    rw [turn, done]
  rw [Function.iterate_fixed fixed, done]

end Walk

def unmapped? : String × Node → Option TreeFault
  | (location, node) =>
      if node.isDirectory && node.children.isNone then some (.unmapped location) else none

def mapped? : String × Node → Option TreeFault
  | (location, node) =>
      if !node.isDirectory && node.children.isSome then some (.mapped location) else none

def missized? : String × Node → Option TreeFault
  | (location, node) =>
      if !node.isDirectory && node.size ≠ node.content.length then
        some (.wrongSize location node.size node.content.length)
      else none

/-- The children that are kept under a key other than their name. -/
def misnamed : String × Node → List TreeFault
  | (location, node) =>
      node.members.filterMap fun (key, child) =>
        if child.name ≠ key then some (.misnamed (childLocation location key) key child.name)
        else none

/-- The violations among nodes, kind by kind. -/
def violationsAmong (nodes : List (String × Node)) : List TreeFault :=
  nodes.filterMap unmapped? ++
    (nodes.filterMap mapped? ++ (nodes.filterMap missized? ++ nodes.flatMap misnamed))

theorem inspection_eq (entry : String × Node) :
    inspection entry = (unmapped? entry).toList ++
      ((mapped? entry).toList ++ ((missized? entry).toList ++ misnamed entry)) := by
  obtain ⟨location, node⟩ := entry
  have named : misnamed (location, node) = namingFaults location node.members := rfl
  rw [inspection, named, ← List.append_assoc, ← List.append_assoc, List.append_left_inj]
  cases kind : node.isDirectory <;> cases mapped : node.children <;>
    by_cases sized : node.size = node.content.length <;>
      simp [ownFaults, unmapped?, mapped?, missized?, kind, mapped, sized]

theorem flatMap_inspection_perm (nodes : List (String × Node)) :
    (nodes.flatMap inspection).Perm (violationsAmong nodes) := by
  have each : nodes.flatMap inspection = nodes.flatMap fun entry => (unmapped? entry).toList ++
      ((mapped? entry).toList ++ ((missized? entry).toList ++ misnamed entry)) :=
    congrArg nodes.flatMap (funext inspection_eq)
  rw [each, violationsAmong, List.filterMap_eq_flatMap_toList, List.filterMap_eq_flatMap_toList,
    List.filterMap_eq_flatMap_toList]
  refine ((List.Perm.append_left _ ?_).trans (List.flatMap_append_perm ..)).symm
  refine (List.Perm.append_left _ ?_).trans (List.flatMap_append_perm ..)
  exact List.flatMap_append_perm ..

/-- The check takes as many turns as there are nodes and looks at every node once.  What it
reports are the violations that the structure of the tree gives, each once and in some order:
nothing exactly if every node is consistent. -/
theorem audit_complete (root : Node) :
    (∀ turns, (Walk.turn^[turns] (.start root)).pending = [] ↔ root.weight ≤ turns) ∧
    (Walk.turn^[root.weight] (.start root)).faults = root.audit ∧
    (Walk.turn^[root.weight] (.start root)).visited.Perm (root.occurrences "/") ∧
    (root.occurrences "/").length = root.weight ∧
    (∀ node, root.Has node ↔ ∃ location, (location, node) ∈ root.occurrences "/") ∧
    root.audit.Perm (root.violations "/") ∧
    root.audit.Perm (violationsAmong (root.occurrences "/")) ∧
    (root.audit = [] ↔ root.Everywhere Consistent) := by
  have ended := Walk.after_iterate (Nat.le_refl root.weight)
  have done : (Walk.turn^[root.weight] (.start root)).pending = [] := by
    have weight := ended.weight
    rw [← Walk.weightOf_eq_zero_iff]
    omega
  obtain ⟨-, covered, told, audited⟩ := ended
  rw [done, List.flatMap_nil, List.append_nil] at covered
  rw [done, auditStack, List.append_nil] at audited
  have found : root.audit.Perm ((root.occurrences "/").flatMap inspection) := by
    rw [← audited, told]
    exact covered.flatMap_right _
  have structural := auditStack_perm [("/", root)]
  rw [List.flatMap_singleton] at structural
  refine ⟨fun turns => ?_, audited, covered, length_occurrences "/" root,
    has_iff_mem_occurrences root "/", structural, found.trans (flatMap_inspection_perm _),
    audit_eq_nil_iff⟩
  constructor
  · intro empty
    by_contra early
    have weight := (Walk.after_iterate (Nat.le_of_not_le early)).weight
    rw [empty, weightOf] at weight
    omega
  · intro enough
    obtain ⟨more, rfl⟩ := Nat.exists_eq_add_of_le' enough
    rw [Function.iterate_add_apply]
    exact Walk.pending_iterate done more

end CyberRange.Node
