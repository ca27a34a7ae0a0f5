import CyberRange.FileTree.Path
import CyberRange.Proofs.FileTree.Lookup

namespace CyberRange

/-! What holds at every node of a tree, and stays so when the tree is changed at the end
of a way. -/

namespace Node

variable {holds : Node → Prop} {root node found : Node} {way : List String}

/-- The nodes of a tree: its root, and those of the trees below. -/
inductive Has : Node → Node → Prop where
  | self (node : Node) : Has node node
  | under {root found : Node} {entry : String × Node} (member : entry ∈ root.members)
      (inside : Has entry.2 found) : Has root found

def Everywhere (holds : Node → Prop) (root : Node) : Prop :=
  ∀ node, root.Has node → holds node

theorem Everywhere.here (everywhere : root.Everywhere holds) : holds root :=
  everywhere root (.self root)

theorem Everywhere.child (everywhere : root.Everywhere holds) {entry : String × Node}
    (member : entry ∈ root.members) : entry.2.Everywhere holds :=
  fun node inside => everywhere node (.under member inside)

theorem everywhere_of_members (here : holds root)
    (below : ∀ entry ∈ root.members, entry.2.Everywhere holds) : root.Everywhere holds := by
  intro node inside
  cases inside with
  | self => exact here
  | under member further => exact below _ member node further

theorem everywhere_iff : root.Everywhere holds ↔
    holds root ∧ ∀ entry ∈ root.members, entry.2.Everywhere holds :=
  ⟨fun everywhere => ⟨everywhere.here, fun _ member => everywhere.child member⟩,
    fun both => everywhere_of_members both.1 both.2⟩

theorem Everywhere.mono {more : Node → Prop} (weaker : ∀ node, holds node → more node)
    (everywhere : root.Everywhere holds) : root.Everywhere more :=
  fun node inside => weaker node (everywhere node inside)

theorem mem_members_of_child? {key : String} {child : Node}
    (held : node.child? key = some child) : (key, child) ∈ node.members := by
  rw [child?, Option.bind_eq_some_iff] at held
  obtain ⟨members, mapped, stored⟩ := held
  rw [Node.members, mapped]
  exact Entries.mem_of_get? stored

theorem Has.of_find? (leads : root.find? way = some found) : root.Has found := by
  induction way generalizing root with
  | nil =>
      obtain rfl : root = found := Option.some.inj leads
      exact .self root
  | cons step rest induction =>
      rw [find?_cons, Option.bind_eq_some_iff] at leads
      obtain ⟨child, held, further⟩ := leads
      exact .under (mem_members_of_child? held) (induction further)

theorem Everywhere.at (everywhere : root.Everywhere holds) (leads : root.find? way = some found) :
    found.Everywhere holds := by
  induction way generalizing root with
  | nil =>
      obtain rfl : root = found := Option.some.inj leads
      exact everywhere
  | cons step rest induction =>
      rw [find?_cons, Option.bind_eq_some_iff] at leads
      obtain ⟨child, held, further⟩ := leads
      exact induction (everywhere.child (mem_members_of_child? held)) further

theorem name_changeAt {change : Node → Node} (named : ∀ node, (change node).name = node.name)
    (way : List String) (node : Node) : (changeAt change way node).name = node.name := by
  cases way with
  | nil => exact named node
  | cons step rest => rfl

/-- The node with one of its children changed. -/
def adjustChild (step : String) (change : Node → Node) (node : Node) : Node :=
  { node with children := node.children.map (Entries.adjust step change) }

theorem members_adjustChild (step : String) (change : Node → Node) (node : Node) :
    (adjustChild step change node).members = Entries.adjust step change node.members := by
  cases mapped : node.children <;> simp [adjustChild, members, mapped, Entries.adjust]

/-- A property that a changed child with the old name does not break, and that the
change itself establishes, holds everywhere after the change. -/
theorem Everywhere.changeAt (change : Node → Node)
    (named : ∀ node, (change node).name = node.name)
    (stays : ∀ node step (inner : Node → Node), (∀ child, (inner child).name = child.name) →
      holds node → holds (adjustChild step inner node))
    (keeps : ∀ node, node.Everywhere holds → (change node).Everywhere holds)
    (everywhere : root.Everywhere holds) (way : List String) :
    (changeAt change way root).Everywhere holds := by
  induction way generalizing root with
  | nil => exact keeps root everywhere
  | cons step rest induction =>
      have whole : Node.changeAt change (step :: rest) root =
          adjustChild step (Node.changeAt change rest) root := rfl
      rw [whole]
      refine everywhere_of_members
        (stays root step _ (name_changeAt named rest) everywhere.here) fun entry member => ?_
      rw [members_adjustChild] at member
      rcases Entries.mem_of_mem_adjust member with old | ⟨child, there, rfl⟩
      · exact everywhere.child old
      · exact induction (everywhere.child there)

theorem members_withChild (key : String) (child node : Node) :
    (withChild key child node).members = node.members ∨
      (withChild key child node).members = Entries.put key child node.members := by
  cases mapped : node.children <;> simp [withChild, members, mapped]

/-- A child put somewhere brings the property along, if the node that gets it keeps it. -/
theorem Everywhere.withChildAt {child : Node} (key : String)
    (stays : ∀ node step (inner : Node → Node), (∀ child, (inner child).name = child.name) →
      holds node → holds (adjustChild step inner node))
    (gets : ∀ node, holds node → holds (withChild key child node))
    (brought : child.Everywhere holds) (everywhere : root.Everywhere holds) (way : List String) :
    (Node.changeAt (withChild key child) way root).Everywhere holds := by
  refine everywhere.changeAt (withChild key child) (fun _ => rfl) stays
    (fun node before => everywhere_of_members (gets node before.here) fun entry member => ?_) way
  rcases members_withChild key child node with same | added
  · rw [same] at member
    exact before.child member
  · rw [added] at member
    rcases Entries.mem_of_mem_put member with rfl | old
    · exact brought
    · exact before.child old

/-- A change of a node that spares its members and keeps the property of it keeps the
property of the tree. -/
theorem Everywhere.changeOwnAt (change : Node → Node)
    (named : ∀ node, (change node).name = node.name)
    (spares : ∀ node, (change node).members = node.members)
    (stays : ∀ node step (inner : Node → Node), (∀ child, (inner child).name = child.name) →
      holds node → holds (adjustChild step inner node))
    (keeps : ∀ node, holds node → holds (change node)) (everywhere : root.Everywhere holds)
    (way : List String) : (Node.changeAt change way root).Everywhere holds := by
  refine everywhere.changeAt change named stays
    (fun node before => everywhere_of_members (keeps node before.here) fun entry member => ?_) way
  rw [spares] at member
  exact before.child member

end Node

end CyberRange
