import CyberRange.FileTree.Node
import CyberRange.Validation.Reader

namespace CyberRange.Node

/-! Nodes as documents.  Reading fills in what is left out and refuses a file with
children; writing leaves the content away and sorts children by their keys. -/

mutual

def toJson : Node → Json
  | ⟨name, kind, _, children, permissions, owner, group, size, modified⟩ =>
      .object <|
        [("name", .text name), ("type", .text kind.name), ("permissions", .text permissions),
          ("owner", .text owner), ("group", .text group), ("size", .int size),
          ("modified", .text modified.iso)] ++
          match children with
          | none => []
          | some members =>
              [("children", .list ((Text.sortBy Prod.fst (membersToJson members)).map Prod.snd))]

def membersToJson : List (String × Node) → List (String × Json)
  | [] => []
  | (key, child) :: rest => (key, toJson child) :: membersToJson rest

end

/-- The document of a node; a file's content goes with it. -/
def toFullJson (node : Node) : Json :=
  match node.toJson with
  | .object fields =>
      if node.isDirectory then .object fields
      else .object (fields ++ [("content", .text node.content)])
  | other => other

def assemble (now : Timestamp) (input : Json)
    (children : Checked (Option (List (String × Node)))) : Checked Node :=
  Node.mk <$> Reader.required input "name" Reader.text
    <*> Reader.required input "type" (Reader.caseOf NodeKind.family)
    <*> Reader.defaulting input "content" "" Reader.text
    <*> children
    <*> Reader.defaulting input "permissions" filePermissions Reader.text
    <*> Reader.defaulting input "owner" "root" Reader.text
    <*> Reader.defaulting input "group" "root" Reader.text
    <*> Reader.defaulting input "size" 0 (Reader.atLeast 0)
    <*> Reader.defaulting input "modified" now Reader.moment

/-- A directory gets a mapping if it has none; a file must not have one. -/
def settle (input : Json) (node : Node) : Checked Node :=
  match node.kind, node.children with
  | .directory, none => .valid { node with children := some [] }
  | .directory, some _ => .valid node
  | .file, none => .valid node
  | .file, some _ =>
      .fail (.rejected ("File node '" ++ node.name ++ "' cannot have children")) input

mutual

/-- Reads a node and everything below it; `now` is the time of nodes without one. -/
def ofJson (now : Timestamp) : Json → Checked Node
  | .object fields =>
      (assemble now (.object fields) (childrenField now fields)).bind (settle (.object fields))
  | input => .fail (.notRecord "FileSystemNode") input

def childrenField (now : Timestamp) :
    List (String × Json) → Checked (Option (List (String × Node)))
  | [] => .valid none
  | (name, value) :: rest =>
      if name = "children" then (readMapping now value).under (.key "children")
      else childrenField now rest

def readMapping (now : Timestamp) : Json → Checked (Option (List (String × Node)))
  | .null => .valid none
  | .object fields => (readMembers now fields).map some
  | input => .fail .notMapping input

def readMembers (now : Timestamp) : List (String × Json) → Checked (List (String × Node))
  | [] => .valid []
  | (key, value) :: rest =>
      (((ofJson now value).under (.key key)).map fun child rest => (key, child) :: rest).apply
        (readMembers now rest)

end

end CyberRange.Node
