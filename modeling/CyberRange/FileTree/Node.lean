import CyberRange.Entries
import CyberRange.Calendar.Timestamp

namespace CyberRange

/-! Files and directories.

A node refers to its children only, never to its parent, so every lookup walks
down from the root.  The type also has ill-formed nodes, a directory without a
mapping or a file with one: `Node.Sound` says which nodes are well-formed, and
the consistency check reports the others.
-/

inductive NodeKind where
  | file
  | directory
deriving Repr, DecidableEq

def NodeKind.name : NodeKind → String
  | .file => "file"
  | .directory => "directory"

def NodeKind.family : List (String × NodeKind) :=
  [("file", .file), ("directory", .directory)]

/-- A file or directory.  Permissions, owner and group are shown and nothing
more; `children` maps each child's key to the child. -/
structure Node where
  name : String
  kind : NodeKind
  content : String
  children : Option (List (String × Node))
  permissions : String
  owner : String
  group : String
  size : Int
  modified : Timestamp

namespace Node

def isDirectory (node : Node) : Bool :=
  node.kind = .directory

def child? (key : String) (node : Node) : Option Node :=
  node.children.bind (Entries.get? key)

def find? : List String → Node → Option Node
  | [], node => some node
  | step :: rest, node => (node.child? step).bind (find? rest)

/-- Changes the node at the end of a way; a way that leads nowhere changes nothing. -/
def changeAt (change : Node → Node) : List String → Node → Node
  | [], node => change node
  | step :: rest, node =>
      { node with
        children := node.children.map (Entries.adjust step (changeAt change rest)) }

/-- The node with a child put under a key; without a mapping it stays as it is. -/
def withChild (key : String) (child : Node) (node : Node) : Node :=
  { node with children := node.children.map (Entries.put key child) }

/-- Directories have a mapping and files have none. -/
def fitsKind (node : Node) : Bool :=
  node.isDirectory = node.children.isSome

/-- Every node that some way leads to fits its kind. -/
def Sound (node : Node) : Prop :=
  ∀ way found, node.find? way = some found → found.fitsKind = true

mutual

def weight : Node → Nat
  | ⟨_, _, _, none, _, _, _, _, _⟩ => 1
  | ⟨_, _, _, some children, _, _, _, _, _⟩ => 1 + weightOf children

def weightOf : List (String × Node) → Nat
  | [] => 0
  | (_, child) :: rest => weight child + weightOf rest

end

/-- The mapping of a node, empty if it has none. -/
def members (node : Node) : List (String × Node) :=
  node.children.getD []

theorem weight_eq (node : Node) : node.weight = 1 + weightOf node.members := by
  obtain ⟨_, _, _, children, _, _, _, _, _⟩ := node
  cases children <;> simp [weight, members, weightOf]

end Node

def operatorName : String := "operator"

def directoryPermissions : String := "drwxr-xr-x"

def filePermissions : String := "-rw-r--r--"

namespace Node

/-- A file whose size is the number of its characters. -/
def file (now : Timestamp) (name : String) (content : String) (owner : String) : Node :=
  { name, kind := .file, content, children := none, permissions := filePermissions, owner,
    group := owner, size := content.length, modified := now }

/-- A directory with the given children under their own names. -/
def directory (now : Timestamp) (name : String) (children : List Node) (owner : String) : Node :=
  { name, kind := .directory, content := "",
    children := some (Entries.ofPairs (children.map fun child => (child.name, child))),
    permissions := directoryPermissions, owner, group := owner, size := 4096, modified := now }

end Node

end CyberRange
