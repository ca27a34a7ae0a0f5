import CyberRange.FileTree.Node
import CyberRange.Text.Blank

namespace CyberRange

/-! Consistency of a tree.

`Node.audit` works through a stack of nodes that are still to be looked at;
`Node.violations` follows the tree.  Both report each fault once.
-/

inductive TreeFault where
  | unmapped (location : String)
  | mapped (location : String)
  | wrongSize (location : String) (size : Int) (length : Nat)
  | misnamed (location : String) (key : String) (name : String)
deriving Repr, DecidableEq

def TreeFault.message : TreeFault → String
  | .unmapped location => "Directory " ++ location ++ " has no children mapping"
  | .mapped location => "File " ++ location ++ " has children"
  | .wrongSize location size length =>
      "File " ++ location ++ " size " ++ toString size ++ " does not match content length " ++
        toString length
  | .misnamed location key name =>
      "Node " ++ location ++ " is keyed as '" ++ key ++ "' but named '" ++ name ++ "'"

namespace Node

def ownFaults (location : String) (node : Node) : List TreeFault :=
  if node.isDirectory then
    if node.children.isNone then [.unmapped location] else []
  else
    (if node.children.isSome then [.mapped location] else []) ++
      if node.size ≠ node.content.length then
        [.wrongSize location node.size node.content.length]
      else []

def childLocation (location key : String) : String :=
  Text.dropTrailing '/' location ++ "/" ++ key

def namingFaults (location : String) (members : List (String × Node)) : List TreeFault :=
  members.filterMap fun (key, child) =>
    if child.name ≠ key then some (.misnamed (childLocation location key) key child.name)
    else none

/-- The children with their locations, last one first, as a stack gives them. -/
def placed (location : String) (members : List (String × Node)) : List (String × Node) :=
  (members.map fun (key, child) => (childLocation location key, child)).reverse

theorem weightOf_append (front back : List (String × Node)) :
    weightOf (front ++ back) = weightOf front + weightOf back := by
  induction front with
  | nil => simp [weightOf]
  | cons entry rest induction =>
      obtain ⟨key, child⟩ := entry
      simp only [List.cons_append, weightOf, induction]
      omega

theorem weightOf_placed (location : String) (members : List (String × Node)) :
    weightOf (placed location members) = weightOf members := by
  unfold placed
  induction members with
  | nil => rfl
  | cons entry rest induction =>
      obtain ⟨key, child⟩ := entry
      simp only [List.map_cons, List.reverse_cons, weightOf_append, weightOf, induction]
      omega

/-- Looks at the node on top of the stack and puts its children on top. -/
def auditStack : List (String × Node) → List TreeFault
  | [] => []
  | (location, node) :: rest =>
      node.ownFaults location ++ namingFaults location node.members ++
        auditStack (placed location node.members ++ rest)
termination_by stack => weightOf stack
decreasing_by
  rw [weightOf_append, weightOf_placed, weightOf, weight_eq]
  omega

def audit (root : Node) : List TreeFault :=
  auditStack [("/", root)]

mutual

/-- The faults at and below a location, by the structure of the tree. -/
def violations (location : String) : Node → List TreeFault
  | ⟨name, kind, content, none, permissions, owner, group, size, modified⟩ =>
      ownFaults location
        ⟨name, kind, content, none, permissions, owner, group, size, modified⟩
  | ⟨name, kind, content, some members, permissions, owner, group, size, modified⟩ =>
      ownFaults location
          ⟨name, kind, content, some members, permissions, owner, group, size, modified⟩ ++
        memberViolations location members

def memberViolations (location : String) : List (String × Node) → List TreeFault
  | [] => []
  | (key, child) :: rest =>
      (if child.name ≠ key then [.misnamed (childLocation location key) key child.name]
        else []) ++
        violations (childLocation location key) child ++ memberViolations location rest

end

end Node

end CyberRange
