import CyberRange.Proofs.FileTree.Faces
import CyberRange.Proofs.FileTree.Lasting
import CyberRange.Shell.Processor
import Mathlib.Data.List.Nodup
import Mathlib.Logic.Function.Basic

namespace CyberRange

/-! Writes one after the other, in any order.

How a write ends depends on the directories alone, which no write makes or takes away, so
each write ends as if it came first.  One that goes through changes the face of the tree on
its own way; writes on different ways therefore commute as far as faces, and with them
documents and listings, can tell.
-/

structure Writing where
  path : String
  content : String
deriving Repr, DecidableEq

namespace FileSystem

open Node (Face Alike Consistent)

variable {files before after one two : FileSystem} {now : Timestamp}
  {writing : Writing} {writings others : List Writing}

/-- How a write ends: with the file that has been written, or with a fault. -/
def outcome (now : Timestamp) (files : FileSystem) (writing : Writing) : Except FileFault Node :=
  (files.write now writing.path writing.content).map Prod.fst

def afterWrite (now : Timestamp) (files : FileSystem) (writing : Writing) : FileSystem :=
  files.afterCall (.write now writing.path writing.content)

/-- Writes one after the other: how each of them ends, and the files in the end. -/
def writeAll (now : Timestamp) (files : FileSystem) :
    List Writing → List (Except FileFault Node) × FileSystem
  | [] => ([], files)
  | writing :: rest =>
      let later := (files.afterWrite now writing).writeAll now rest
      (files.outcome now writing :: later.1, later.2)

/-- A write either fails and changes nothing, or puts its file where the map says. -/
theorem afterWrite_cases (now : Timestamp) (files : FileSystem) (writing : Writing) :
    (∃ fault, files.outcome now writing = .error fault ∧ files.afterWrite now writing = files) ∨
      ∃ file after, files.write now writing.path writing.content = .ok (file, after) ∧
        files.outcome now writing = .ok file ∧ files.afterWrite now writing = after := by
  cases written : files.write now writing.path writing.content with
  | error fault =>
      exact .inl ⟨fault, by rw [outcome, written]; rfl, by rw [afterWrite, afterCall, written]; rfl⟩
  | ok step =>
      obtain ⟨file, after⟩ := step
      exact .inr ⟨file, after, rfl, by rw [outcome, written]; rfl,
        by rw [afterWrite, afterCall, written]; rfl⟩

/-- The end of a write, by the directories alone. -/
theorem outcome_eq (sound : files.root.Sound) (now : Timestamp) (writing : Writing) :
    files.outcome now writing =
      if files.IsDirectory (files.way (Path.split writing.path).1) then
        if (Path.split writing.path).2 = "" then .error ⟨.write, .notFound, writing.path⟩
        else if namesFile writing.path (Path.split writing.path).2 = false ∨
            files.IsDirectory
              (files.way (Path.split writing.path).1 ++ [(Path.split writing.path).2]) then
          .error ⟨.write, .isDirectory, writing.path⟩
        else .ok (.file now (Path.split writing.path).2 writing.content operatorName)
      else .error ⟨.write, .notFound, writing.path⟩ := by
  have mapped := children_find? sound (files.way (Path.split writing.path).1)
  rw [outcome, write_eq, resolve]
  cases found : (files.root.find? (files.way (Path.split writing.path).1)).bind Node.children with
  | none =>
      have notFolder : ¬ files.IsDirectory (files.way (Path.split writing.path).1) := by
        rw [← mapped, found]
        exact Bool.false_ne_true
      rw [if_neg notFolder]
      rfl
  | some members =>
      have folder : files.IsDirectory (files.way (Path.split writing.path).1) := by
        rw [← mapped, found]
        rfl
      obtain ⟨node, leads, children⟩ := Option.bind_eq_some_iff.mp found
      have taken := isDirectory_concat leads children (Path.split writing.path).2
      simp only [if_pos folder, ← taken, Bool.or_eq_true, Bool.not_eq_true']
      split
      · rfl
      · split <;> rfl

/-- What no write changes, and what the end of every write depends on. -/
structure SameFolders (before after : FileSystem) : Prop where
  current : after.current = before.current
  directories : ∀ way, after.IsDirectory way ↔ before.IsDirectory way

theorem way_of_current (same : after.current = before.current) : after.way = before.way := by
  funext path
  rw [way, way, same]

theorem SameFolders.outcome (same : SameFolders before after) (sound : before.root.Sound)
    (too : after.root.Sound) (now : Timestamp) : after.outcome now = before.outcome now := by
  funext writing
  simp only [outcome_eq sound, outcome_eq too, way_of_current same.current, same.directories]

theorem sameFolders_afterWrite (sound : files.root.Sound) (now : Timestamp) (writing : Writing) :
    SameFolders files (files.afterWrite now writing) := by
  refine ⟨?_, (directories_afterCall sound _).2⟩
  rcases afterWrite_cases now files writing with
    ⟨fault, -, same⟩ | ⟨file, after, written, -, same⟩
  · rw [same]
  · rw [same, current_of_write written]

theorem consistent_afterWrite (consistent : files.root.Everywhere Consistent) (now : Timestamp)
    (writing : Writing) : (files.afterWrite now writing).root.Everywhere Consistent :=
  everywhere_afterCall lasting_consistent consistent _

def faces (files : FileSystem) (way : List String) : Option Face :=
  files.root.face? way

/-- The faces with the file of a write that went through. -/
def place (faces : List String → Option Face) (way : List String) :
    Except FileFault Node → List String → Option Face
  | .ok file => Function.update faces way (some file.face)
  | .error _ => faces

/-- What a write does to the faces, if it ends as it does in the given files. -/
def put (now : Timestamp) (files : FileSystem) (faces : List String → Option Face)
    (writing : Writing) : List String → Option Face :=
  place faces (files.way writing.path) (files.outcome now writing)

theorem faces_afterWrite (sound : files.root.Sound) (now : Timestamp) (writing : Writing) :
    (files.afterWrite now writing).faces = files.put now files.faces writing := by
  rcases afterWrite_cases now files writing with
    ⟨fault, failed, same⟩ | ⟨file, after, written, ended, same⟩
  · rw [same, put, failed, place]
  · obtain ⟨directory, name, -, leaf, parts, rfl, rfl⟩ := of_write written
    obtain ⟨parent, free⟩ :=
      ((writesByMap sound writing.path).succeeds leaf now writing.content).mp ⟨_, _, written⟩
    rw [parts, List.dropLast_concat] at parent
    rw [parts] at free
    obtain ⟨members, mapped⟩ := Option.isSome_iff_exists.mp ((children_find? sound _).mpr parent)
    obtain ⟨folder, leads, children⟩ := Option.bind_eq_some_iff.mp mapped
    rw [same, put, ended, place, parts]
    funext way
    rw [Function.update_apply, faces]
    exact Node.face?_place sound leads children rfl free way

theorem put_put_comm {one two : Writing} (apart : files.way one.path ≠ files.way two.path)
    (faces : List String → Option Face) :
    files.put now (files.put now faces one) two = files.put now (files.put now faces two) one := by
  rw [put, put, put, put]
  cases files.outcome now one with
  | error fault => simp only [place]
  | ok file =>
      cases files.outcome now two with
      | error fault => simp only [place]
      | ok other =>
          simp only [place]
          exact Function.update_comm apart ..

theorem foldl_put_perm (apart : (writings.map fun writing => files.way writing.path).Nodup)
    (reordered : others.Perm writings) (faces : List String → Option Face) :
    others.foldl (files.put now) faces = writings.foldl (files.put now) faces := by
  refine (reordered.symm.foldl_eq' (fun one here two there faces => ?_) faces).symm
  by_cases same : files.way one.path = files.way two.path
  · rw [List.inj_on_of_nodup_map apart here there same]
  · exact put_put_comm same faces

/-- What writes one after the other come to, told from the files in front of the first. -/
structure WrittenAll (now : Timestamp) (files : FileSystem) (writings : List Writing) : Prop where
  outcomes : (files.writeAll now writings).1 = writings.map (files.outcome now)
  consistent : (files.writeAll now writings).2.root.Everywhere Consistent
  current : (files.writeAll now writings).2.current = files.current
  faces : (files.writeAll now writings).2.faces = writings.foldl (files.put now) files.faces

theorem writtenAll (consistent : files.root.Everywhere Consistent) (now : Timestamp)
    (writings : List Writing) : WrittenAll now files writings := by
  induction writings generalizing files with
  | nil => exact ⟨rfl, consistent, rfl, rfl⟩
  | cons writing rest induction =>
      have stays := consistent_afterWrite consistent now writing
      have sound := Node.sound_of_everywhere consistent
      have same := sameFolders_afterWrite sound now writing
      -- The files change, but neither how the writes to come end nor where they go.
      have outcome := same.outcome sound (Node.sound_of_everywhere stays) now
      have put : (files.afterWrite now writing).put now = files.put now := by
        funext faces other
        rw [FileSystem.put, FileSystem.put, outcome, way_of_current same.current]
      have later := induction stays
      exact {
        outcomes := by rw [writeAll, later.outcomes, outcome, List.map_cons]
        consistent := later.consistent
        current := later.current.trans same.current
        faces := by
          rw [writeAll, later.faces, put, faces_afterWrite sound, List.foldl_cons] }

theorem toJson_eq_of_alike (alike : Alike one.root two.root) (current : one.current = two.current) :
    one.toJson = two.toJson := by
  rw [toJson, toJson, currentPath, currentPath, current, alike.toJson_eq]

theorem listing_eq_of_alike {one two : Node} (alike : Alike one two)
    (named : ∀ entry ∈ one.members, entry.2.name = entry.1)
    (too : ∀ entry ∈ two.members, entry.2.name = entry.1) :
    Report.listing (one.members.map Prod.snd) = Report.listing (two.members.map Prod.snd) := by
  -- A listing is sorted by names and a document by keys; in a consistent tree these agree.
  have lines (node : Node) (named : ∀ entry ∈ node.members, entry.2.name = entry.1) :
      (Text.sortBy Node.name (node.members.map Prod.snd)).map Report.listingLine =
        (Text.sortBy Prod.fst
          (node.members.map fun entry => (entry.1, Report.listingLine entry.2))).map Prod.snd := by
    rw [← Text.map_sortBy named, ← Text.map_sortBy fun _ _ => rfl, List.map_map, List.map_map]
    rfl
  have ownLine (node : Node) : Report.listingLine node = Report.listingLine node.face.bare := rfl
  have children : ∀ key child other, one.child? key = some child → two.child? key = some other →
      Alike child other → Report.listingLine child = Report.listingLine other := by
    intro key child other _ _ alike
    rw [ownLine, alike.face, ← ownLine]
  have same := alike.sortBy_map children
  rw [Report.listing, Report.listing, lines one named, lines two too, same]

theorem list_eq_of_alike (alike : Alike one.root two.root) (current : one.current = two.current)
    (consistent : one.root.Everywhere Consistent) (too : two.root.Everywhere Consistent)
    (processor : Processor) (words : List String) :
    ({ processor with files := one }).list words = ({ processor with files := two }).list words := by
  have here := alike.at (one.way (words.headD "."))
  rw [Processor.list_eq, Processor.list_eq, resolve, resolve, way_of_current current.symm]
  generalize inOne : one.root.find? (one.way (words.headD ".")) = folder at here ⊢
  generalize inTwo : two.root.find? (one.way (words.headD ".")) = other at here ⊢
  cases here with
  | none => rfl
  | @some folder other alike =>
      have lines := listing_eq_of_alike alike (consistent folder (.of_find? inOne)).named
        (too other (.of_find? inTwo)).named
      have mapped : folder.children.isSome = other.children.isSome :=
        congrArg Face.mapped alike.face
      rw [Option.bind_some, Option.bind_some]
      cases ofOne : folder.children with
      | none =>
          rw [ofOne, Option.isSome_none, eq_comm, Option.isSome_eq_false_iff,
            Option.isNone_iff_eq_none] at mapped
          rw [mapped]
      | some members =>
          rw [ofOne, Option.isSome_some, eq_comm, Option.isSome_iff_exists] at mapped
          obtain ⟨others, ofTwo⟩ := mapped
          rw [Node.members, Node.members, ofOne, ofTwo] at lines
          rw [ofTwo]
          exact congrArg (fun text => Except.ok (CommandResult.success text)) lines

/-- On a consistent tree, writes whose paths normalise to different ways may come in any
order: each ends the same, with the same file or the same fault, and the files in the end
have the same document and are listed the same at every path. -/
theorem writes_in_any_order (clean : files.root.audit = []) (now : Timestamp)
    (apart : (writings.map fun writing => files.way writing.path).Nodup)
    (reordered : others.Perm writings) :
    let one := files.writeAll now others
    let two := files.writeAll now writings
    one.1 = others.map (files.outcome now) ∧ two.1 = writings.map (files.outcome now) ∧
      one.2.toJson = two.2.toJson ∧
      ∀ (processor : Processor) (words : List String),
        ({ processor with files := one.2 }).list words =
          ({ processor with files := two.2 }).list words := by
  have consistent := Node.audit_eq_nil_iff.mp clean
  have first := writtenAll consistent now others
  have second := writtenAll consistent now writings
  have faces : (files.writeAll now others).2.faces = (files.writeAll now writings).2.faces := by
    rw [first.faces, second.faces, foldl_put_perm apart reordered]
  have alike : Alike (files.writeAll now others).2.root (files.writeAll now writings).2.root :=
    congrFun faces
  have current := first.current.trans second.current.symm
  exact ⟨first.outcomes, second.outcomes, toJson_eq_of_alike alike current,
    list_eq_of_alike alike current first.consistent second.consistent⟩

/-- Six writes in the seed tree, backwards: two new files in one directory that end up in
another order there, one below it, an overwritten note, and two that fail. -/
theorem writes_in_any_order_of_reverse :
    let files := atHome (.seed default)
    let writings : List Writing := [⟨"b", "one"⟩, ⟨"~/a", "two"⟩, ⟨"tools/../tools/x", ""⟩,
      ⟨"notes.txt", "three"⟩, ⟨"missing/y", ""⟩, ⟨"..", ""⟩]
    files.root.audit = [] ∧
      (writings.map fun writing => files.way writing.path).Nodup ∧
      writings.reverse.Perm writings ∧
      ((files.writeAll default writings).2.list ".").map (·.map Node.name) ≠
        ((files.writeAll default writings.reverse).2.list ".").map (·.map Node.name) ∧
      (let one := files.writeAll default writings.reverse
      let two := files.writeAll default writings
      one.1 = writings.reverse.map (files.outcome default) ∧
        two.1 = writings.map (files.outcome default) ∧ one.2.toJson = two.2.toJson ∧
        ∀ (processor : Processor) (words : List String),
          ({ processor with files := one.2 }).list words =
            ({ processor with files := two.2 }).list words) := by
  intro files writings
  have clean : files.root.audit = [] :=
    Node.audit_eq_nil_iff.mpr
      ((Node.everywhere_seed default).mono fun _ node => node.toConsistent)
  have apart : (writings.map fun writing => files.way writing.path).Nodup := by decide +kernel
  have reordered : writings.reverse.Perm writings := List.reverse_perm _
  have differ : ((files.writeAll default writings).2.list ".").map (·.map Node.name) ≠
      ((files.writeAll default writings.reverse).2.list ".").map (·.map Node.name) := by
    decide +kernel
  exact ⟨clean, apart, reordered, differ, writes_in_any_order clean default apart reordered⟩

end FileSystem

end CyberRange
