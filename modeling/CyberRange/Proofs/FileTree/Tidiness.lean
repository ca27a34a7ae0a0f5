import CyberRange.Proofs.FileTree.Audit
import CyberRange.Proofs.FileTree.FlatMap
import CyberRange.Proofs.FileTree.Names

namespace CyberRange

/-! Tidy file systems: the tree is consistent, all names are proper, and the current
directory is one of the tree.  Entering, writing and stamping keep a file system tidy, and
names keep to the characters that paths are typed with. -/

namespace Node

variable {allowed : Char → Prop} {node child : Node} {key : String}

structure Tidy (allowed : Char → Prop) (node : Node) : Prop extends Consistent node where
  proper : ∀ key ∈ Entries.keys node.members, Path.isProper key = true
  spelled : ∀ c ∈ node.name.toList, allowed c

theorem Consistent.adjustChild (consistent : node.Consistent) (step : String)
    {change : Node → Node} (named : ∀ child, (change child).name = child.name) :
    (adjustChild step change node).Consistent where
  fits := by
    rw [← consistent.fits]
    exact LooksLike.fitsKind ⟨rfl, rfl, Option.isSome_map⟩
  sized := consistent.sized
  named entry member := by
    rw [members_adjustChild] at member
    rcases Entries.mem_of_mem_adjust member with old | ⟨child, there, rfl⟩
    · exact consistent.named entry old
    · exact (named child).trans (consistent.named _ there)

/-- A child put under its own name leaves the node consistent. -/
theorem Consistent.withChild (consistent : node.Consistent) (named : child.name = key) :
    (withChild key child node).Consistent where
  fits := (looksLike_withChild key child node).fitsKind.trans consistent.fits
  sized := consistent.sized
  named entry member := by
    rcases members_withChild key child node with same | added
    · rw [same] at member
      exact consistent.named entry member
    · rw [added] at member
      rcases Entries.mem_of_mem_put member with rfl | old
      · exact named
      · exact consistent.named entry old

theorem Tidy.adjustChild (tidy : node.Tidy allowed) (step : String) {change : Node → Node}
    (named : ∀ child, (change child).name = child.name) :
    (adjustChild step change node).Tidy allowed where
  toConsistent := tidy.toConsistent.adjustChild step named
  proper key member := by
    rw [members_adjustChild, Entries.keys_adjust] at member
    exact tidy.proper key member
  spelled := tidy.spelled

theorem Tidy.withChild (tidy : node.Tidy allowed) (named : child.name = key)
    (proper : Path.isProper key = true) : (withChild key child node).Tidy allowed where
  toConsistent := tidy.toConsistent.withChild named
  proper other member := by
    rcases members_withChild key child node with same | added
    · rw [same] at member
      exact tidy.proper other member
    · rw [added, Entries.keys_put] at member
      split at member
      · exact tidy.proper other member
      · rcases List.mem_append.mp member with old | new
        · exact tidy.proper other old
        · rw [List.mem_singleton.mp new]
          exact proper
  spelled := tidy.spelled

theorem consistent_file (now : Timestamp) (name content owner : String) :
    (file now name content owner).Everywhere Consistent :=
  everywhere_of_members ⟨rfl, fun _ => rfl, fun _ member => (nomatch member)⟩
    fun _ member => (nomatch member)

theorem everywhere_file (now : Timestamp) {name : String} (content owner : String)
    (spelled : ∀ c ∈ name.toList, allowed c) :
    (file now name content owner).Everywhere (Tidy allowed) :=
  everywhere_of_members
    ⟨(consistent_file now name content owner).here, fun _ member => (nomatch member), spelled⟩
    fun _ member => (nomatch member)

theorem everywhere_directory (now : Timestamp) {name : String} {children : List Node}
    (owner : String) (spelled : ∀ c ∈ name.toList, allowed c)
    (proper : ∀ key ∈ children.map Node.name, Path.isProper key = true)
    (tidy : ∀ child ∈ children, child.Everywhere (Tidy allowed)) :
    (directory now name children owner).Everywhere (Tidy allowed) := by
  have inside : ∀ entry ∈ (directory now name children owner).members,
      entry.2 ∈ children ∧ entry.2.name = entry.1 := by
    intro entry member
    obtain ⟨child, there, rfl⟩ := List.mem_map.mp (Entries.mem_of_mem_ofPairs member)
    exact ⟨there, rfl⟩
  refine everywhere_of_members
    ⟨⟨rfl, fun isFile => (nomatch isFile), fun entry member => (inside entry member).2⟩, ?_,
      spelled⟩
    fun entry member => tidy entry.2 (inside entry member).1
  intro key member
  obtain ⟨entry, there, rfl⟩ := List.mem_map.mp member
  obtain ⟨child, named⟩ := inside entry there
  rw [← named]
  exact proper _ (List.mem_map_of_mem child)

/-- The names below the root of the seed tree. -/
def seedNames : List String :=
  ["home", "operator", "notes.txt", "tools", "bin", "etc", "passwd"]

/-- What files of such names have, and directories if their children have it, holds
everywhere in the seed tree. -/
theorem everywhere_seed_of {holds : Node → Prop} (now : Timestamp)
    (ofFile : ∀ name ∈ seedNames, ∀ content, ∀ owner ∈ ["root", operatorName],
      (file now name content owner).Everywhere holds)
    (ofDirectory : ∀ name ∈ "/" :: seedNames, ∀ children, ∀ owner ∈ ["root", operatorName],
      (∀ child ∈ children, child.name ∈ seedNames ∧ child.Everywhere holds) →
        (directory now name children owner).Everywhere holds) :
    (seed now).Everywhere holds := by
  have leaf {name content owner : String} (named : name ∈ seedNames)
      (owned : owner ∈ ["root", operatorName]) :
      (file now name content owner).name ∈ seedNames ∧
        (file now name content owner).Everywhere holds :=
    ⟨named, ofFile name named content owner owned⟩
  have folder {name owner : String} {children : List Node} (named : name ∈ seedNames)
      (owned : owner ∈ ["root", operatorName])
      (below : ∀ child ∈ children, child.name ∈ seedNames ∧ child.Everywhere holds) :
      (directory now name children owner).name ∈ seedNames ∧
        (directory now name children owner).Everywhere holds :=
    ⟨named, ofDirectory name (List.mem_cons_of_mem _ named) children owner owned below⟩
  have nothing : ∀ child ∈ ([] : List Node), child.name ∈ seedNames ∧ child.Everywhere holds :=
    fun _ member => nomatch member
  refine ofDirectory "/" List.mem_cons_self _ "root" (by decide) ?_
  simp only [List.forall_mem_cons]
  refine ⟨folder (by decide) (by decide) ?_, folder (by decide) (by decide) nothing,
    folder (by decide) (by decide) ?_, nothing⟩
  · simp only [List.forall_mem_cons]
    refine ⟨folder (by decide) (by decide) ?_, nothing⟩
    simp only [List.forall_mem_cons]
    exact ⟨leaf (by decide) (by decide), folder (by decide) (by decide) nothing, nothing⟩
  · simp only [List.forall_mem_cons]
    exact ⟨leaf (by decide) (by decide), nothing⟩

/-- The seed tree is tidy, and none of its names holds a blank. -/
theorem everywhere_seed (now : Timestamp) :
    (seed now).Everywhere (Tidy fun c => Text.isBlank c = false) := by
  have spelled : ∀ name ∈ "/" :: seedNames, name.toList.any Text.isBlank = false := by decide
  have proper : ∀ name ∈ seedNames, Path.isProper name = true := by decide
  refine everywhere_seed_of now (fun name there content owner _ => ?_)
    fun name there children owner _ below => ?_
  · exact everywhere_file now content owner
      (Text.isBlank_eq_false_of_any (spelled name (List.mem_cons_of_mem _ there)))
  · refine everywhere_directory now owner (Text.isBlank_eq_false_of_any (spelled name there))
      (fun key member => ?_) fun child member => (below child member).2
    obtain ⟨child, inside, rfl⟩ := List.mem_map.mp member
    exact proper child.name (below child inside).1

/-- A change that is not seen on any way from where it is made is not seen at all. -/
theorem standing?_changeAt {change : Node → Node}
    (unseen : ∀ node way, (change node).standing? way = node.standing? way)
    (way other : List String) (node : Node) :
    (changeAt change way node).standing? other = node.standing? other := by
  induction way generalizing other node with
  | nil => exact unseen node other
  | cons step rest induction =>
      cases other with
      | nil => rfl
      | cons key further =>
          rw [standing?, standing?, find?_cons, find?_cons, child?_changeAt_cons]
          split
          · cases node.child? key with
            | none => rfl
            | some child => exact induction further child
          · rfl

end Node

namespace FileSystem

variable {allowed : Char → Prop} {files after : FileSystem} {path : String}

structure Tidy (allowed : Char → Prop) (files : FileSystem) : Prop where
  root : files.root.Everywhere (Node.Tidy allowed)
  current : Path.Named allowed files.current
  here : files.IsDirectory files.current

theorem Tidy.sound (tidy : files.Tidy allowed) : files.root.Sound :=
  Node.sound_of_everywhere (tidy.root.mono fun _ node => node.toConsistent)

theorem Tidy.enter (tidy : files.Tidy allowed) (atHome : Path.Named allowed Path.home)
    (spelled : ∀ c ∈ path.toList, allowed c) (entered : files.enter path = .ok after) :
    after.Tidy allowed := by
  obtain ⟨folder, rfl⟩ := ((entersByMap files path).succeeds after).mp entered
  exact ⟨tidy.root, tidy.current.normalize atHome spelled, folder⟩

theorem Tidy.write (tidy : files.Tidy allowed) {now : Timestamp} {content : String} {file : Node}
    (spelled : ∀ c ∈ path.toList, allowed c)
    (written : files.write now path content = .ok (file, after)) : after.Tidy allowed := by
  obtain ⟨current, directories, -⟩ :=
    (writesByMap tidy.sound path).effect now content file after written
  obtain ⟨directory, name, parts, leaf, -, rfl, placed⟩ := of_write written
  have proper := Path.isProper_of_namesLeaf leaf
  have inside := (Path.of_leaf path).2
  rw [parts] at proper inside
  refine ⟨?_, ?_, ?_⟩
  · rw [placed]
    exact Node.Everywhere.withChildAt name (fun _ step _ named node => node.adjustChild step named)
      (fun _ own => own.withChild rfl proper)
      (Node.everywhere_file now content operatorName fun c there => spelled c (inside c there))
      tidy.root (files.way directory)
  · rw [current]
    exact tidy.current
  · rw [directories, current]
    exact tidy.here

theorem Tidy.stamp (tidy : files.Tidy allowed) (path : String) (time : Timestamp) :
    (files.change path fun node => { node with modified := time }).Tidy allowed where
  root := by
    refine tidy.root.changeOwnAt (fun node => { node with modified := time }) (fun _ => rfl)
      (fun _ => rfl) (fun _ step _ named node => node.adjustChild step named) (fun node own => ?_) _
    exact ⟨⟨own.fits, own.sized, own.named⟩, own.proper, own.spelled⟩
  current := tidy.current
  here := by
    rw [IsDirectory, change, Node.standing?_changeAt fun _ way => by cases way <;> rfl]
    exact tidy.here

end FileSystem

end CyberRange
