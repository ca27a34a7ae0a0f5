import CyberRange.FileTree.Form
import CyberRange.FileTree.Path

namespace CyberRange

/-! A file system: a tree and a current directory.

Every operation either fails with a `FileFault` or gives the new file system, so
a failing one changes nothing.
-/

/-- What was to be done with a path. -/
inductive FileAction where
  | list
  | enter
  | read
  | write
deriving Repr, DecidableEq

inductive FileReason where
  | notFound
  | notDirectory
  | isDirectory
deriving Repr, DecidableEq

structure FileFault where
  action : FileAction
  reason : FileReason
  path : String
deriving Repr, DecidableEq

def FileReason.message : FileReason → String
  | .notFound => "No such file or directory"
  | .notDirectory => "Not a directory"
  | .isDirectory => "Is a directory"

def FileFault.message (fault : FileFault) : String :=
  let subject := match fault.action with
    | .list => "ls: cannot access '" ++ fault.path ++ "'"
    | .enter => "cd: " ++ fault.path
    | .read => "cat: " ++ fault.path
    | .write => "touch: cannot touch '" ++ fault.path ++ "'"
  subject ++ ": " ++ fault.reason.message

structure FileSystem where
  root : Node
  current : List String

namespace FileSystem

def atHome (root : Node) : FileSystem :=
  { root, current := Path.home }

def way (files : FileSystem) (path : String) : List String :=
  Path.normalize files.current path

def resolve (files : FileSystem) (path : String) : Option Node :=
  files.root.find? (files.way path)

/-- The children of a node that has a mapping, in the order of insertion. -/
def list (files : FileSystem) (path : String) : Except FileFault (List Node) :=
  match (files.resolve path).bind Node.children with
  | none => .error ⟨.list, .notFound, path⟩
  | some members => .ok (members.map Prod.snd)

def enter (files : FileSystem) (path : String) : Except FileFault FileSystem :=
  match files.resolve path with
  | none => .error ⟨.enter, .notFound, path⟩
  | some node =>
      if node.isDirectory then .ok { files with current := files.way path }
      else .error ⟨.enter, .notDirectory, path⟩

def read (files : FileSystem) (path : String) : Except FileFault String :=
  match files.resolve path with
  | none => .error ⟨.read, .notFound, path⟩
  | some node =>
      if node.isDirectory then .error ⟨.read, .isDirectory, path⟩ else .ok node.content

/-- Whether a path can name a file at all; a bare `~` stands for home wherever it
is read. -/
def namesFile (path name : String) : Bool :=
  name ≠ "." && name ≠ ".." && path ≠ "~"

def write (now : Timestamp) (files : FileSystem) (path content : String) :
    Except FileFault (Node × FileSystem) :=
  let (directory, name) := Path.split path
  match (files.resolve directory).bind Node.children with
  | none => .error ⟨.write, .notFound, path⟩
  | some members =>
      if name = "" then .error ⟨.write, .notFound, path⟩
      else if !namesFile path name || (Entries.get? name members).any Node.isDirectory then
        .error ⟨.write, .isDirectory, path⟩
      else
        let file := Node.file now name content operatorName
        .ok (file,
          { files with
            root := files.root.changeAt (Node.withChild name file) (files.way directory) })

theorem write_eq (now : Timestamp) (files : FileSystem) (path content : String) :
    files.write now path content =
      match (files.resolve (Path.split path).1).bind Node.children with
      | none => .error ⟨.write, .notFound, path⟩
      | some members =>
          if (Path.split path).2 = "" then .error ⟨.write, .notFound, path⟩
          else if !namesFile path (Path.split path).2 ||
              (Entries.get? (Path.split path).2 members).any Node.isDirectory then
            .error ⟨.write, .isDirectory, path⟩
          else
            .ok (.file now (Path.split path).2 content operatorName,
              { files with
                root := files.root.changeAt
                  (.withChild (Path.split path).2
                    (.file now (Path.split path).2 content operatorName))
                  (files.way (Path.split path).1) }) := by
  unfold write
  generalize Path.split path = parts
  obtain ⟨directory, name⟩ := parts
  rfl

def change (files : FileSystem) (path : String) (change : Node → Node) : FileSystem :=
  { files with root := files.root.changeAt change (files.way path) }

def currentPath (files : FileSystem) : String :=
  Path.render files.current

def homePath : String :=
  Path.render Path.home

def toJson (files : FileSystem) : Json :=
  .object [("current_path", .text files.currentPath), ("tree", files.root.toJson)]

end FileSystem

end CyberRange
