import CyberRange.Proofs.Text.Joining
import CyberRange.Proofs.Text.Numerals
import CyberRange.Proofs.Text.Sorting
import CyberRange.Shell.Report
import Mathlib

namespace CyberRange

/-! Listings read back.

A line of a listing has six fields, whatever the name in it, as long as no blank is among
the characters of the fields; what the fields tell of a node is a `Row`, and a listing is
read back as the rows of its nodes in the order of their names.
-/

/-- What the line of a node tells of it. -/
structure Row where
  permissions : String
  owner : String
  group : String
  size : Int
  hour : Nat
  minute : Nat
  second : Nat
  isDirectory : Bool
  name : String
deriving Repr, DecidableEq

namespace Row

def ofNode (node : Node) : Row where
  permissions := node.permissions
  owner := node.owner
  group := node.group
  size := node.size
  hour := node.modified.hour
  minute := node.modified.minute
  second := node.modified.second
  isDirectory := node.isDirectory
  name := node.name

/-- Hours, minutes and seconds with colons between them. -/
def readTime (field : String) : Option (Nat × Nat × Nat) :=
  match Text.pieces (· == ':') field.toList with
  | [hour, minute, second] => some (Text.number hour, Text.number minute, Text.number second)
  | _ => none

/-- The colour in front tells the kind; the name ends where the colour does. -/
def readName (field : String) : Option (Bool × String) :=
  let letters := field.toList
  let name := String.ofList
    ((letters.drop Report.fileColor.length).rdrop Report.plainColor.length)
  if Report.directoryColor.toList.isPrefixOf letters then some (true, name)
  else if Report.fileColor.toList.isPrefixOf letters then some (false, name)
  else none

def ofFields : List String → Option Row
  | [permissions, owner, group, size, time, shown] =>
      match size.toInt?, readTime time, readName shown with
      | some size, some (hour, minute, second), some (isDirectory, name) =>
          some { permissions, owner, group, size, hour, minute, second, isDirectory, name }
      | _, _, _ => none
  | _ => none

def read (line : String) : Option Row :=
  ofFields (Text.words line)

theorem readTime_timeOfDay (time : Timestamp) :
    readTime time.timeOfDay = some (time.hour, time.minute, time.second) := by
  have clean (value : Nat) : ∀ c ∈ (Text.zeroPadded 2 value).toList, (c == ':') = false := by
    intro c member
    rw [beq_eq_false_iff_ne]
    rintro rfl
    exact absurd (Text.isDigit_of_mem_zeroPadded member) (by decide)
  have letters : time.timeOfDay.toList = (Text.zeroPadded 2 time.hour).toList ++
      ':' :: ((Text.zeroPadded 2 time.minute).toList ++
        ':' :: (Text.zeroPadded 2 time.second).toList) := by
    simp [Timestamp.timeOfDay]
  rw [readTime, letters, Text.pieces_append_separator (by rfl),
    Text.pieces_append_separator (by rfl), Text.pieces_of_forall_not (clean _),
    Text.pieces_of_forall_not (clean _), Text.pieces_of_forall_not (clean _)]
  simp only [List.singleton_append, Text.number_zeroPadded]

end Row

namespace Node

variable {node : Node}

/-- The name of a node in the colour of its kind. -/
def shownName (node : Node) : String :=
  (if node.isDirectory then Report.directoryColor else Report.fileColor) ++ node.name ++
    Report.plainColor

def fields (node : Node) : List String :=
  [node.permissions, node.owner, node.group, toString node.size, node.modified.timeOfDay,
    node.shownName]

/-- What is printed of a node holds no blank. -/
structure Legible (node : Node) : Prop where
  permissions : Text.IsWord node.permissions
  owner : Text.IsWord node.owner
  group : Text.IsWord node.group
  name : ∀ c ∈ node.name.toList, Text.isBlank c = false

theorem readName_shownName (node : Node) :
    Row.readName node.shownName = some (node.isDirectory, node.name) := by
  have directory : Report.directoryColor.toList = ['\x1b', '[', '3', '4', 'm'] := by decide
  have file : Report.fileColor.toList = ['\x1b', '[', '3', '7', 'm'] := by decide
  -- Both colours are equally long, so the same number of characters is cut off.
  have cut (color : List Char) (long : color.length = Report.fileColor.length) :
      ((color ++ (node.name.toList ++ Report.plainColor.toList)).drop
        Report.fileColor.length).rdrop Report.plainColor.length = node.name.toList := by
    rw [← long, List.drop_left, List.rdrop, ← String.length_toList, List.length_append,
      Nat.add_sub_cancel, List.take_left]
  cases kind : node.isDirectory with
  | true =>
      have letters : node.shownName.toList =
          Report.directoryColor.toList ++ (node.name.toList ++ Report.plainColor.toList) := by
        simp [shownName, kind]
      rw [Row.readName, letters, cut _ (by decide), String.ofList_toList, directory]
      rfl
  | false =>
      have letters : node.shownName.toList =
          Report.fileColor.toList ++ (node.name.toList ++ Report.plainColor.toList) := by
        simp [shownName, kind]
      rw [Row.readName, letters, cut _ (by decide), String.ofList_toList, directory, file]
      rfl

theorem isWord_shownName (unblank : ∀ c ∈ node.name.toList, Text.isBlank c = false) :
    Text.IsWord node.shownName := by
  have color : Text.IsWord (if node.isDirectory then Report.directoryColor else Report.fileColor) := by
    split <;> exact ⟨by decide, Text.isBlank_eq_false_of_any (by decide)⟩
  exact (color.append unblank).append (Text.isBlank_eq_false_of_any (by decide))

theorem isWord_timeOfDay (time : Timestamp) : Text.IsWord time.timeOfDay := by
  have colon : ∀ c ∈ ":".toList, Text.isBlank c = false := Text.isBlank_eq_false_of_any (by decide)
  have digits (value : Nat) := (Text.isWord_zeroPadded 2 value)
  exact ((((digits _).append colon).append (digits _).unblank).append colon).append
    (digits _).unblank

theorem Legible.isWord_fields (legible : node.Legible) :
    ∀ field ∈ node.fields, Text.IsWord field := by
  simp only [fields, List.forall_mem_cons]
  exact ⟨legible.permissions, legible.owner, legible.group, Text.isWord_toString_int _,
    isWord_timeOfDay _, isWord_shownName legible.name, fun _ member => (nomatch member)⟩

theorem listingLine_eq (node : Node) :
    Report.listingLine node = String.intercalate " "
      [node.permissions, node.owner, node.group, Text.padLeft 6 (toString node.size),
        node.modified.timeOfDay, node.shownName] := rfl

theorem Legible.words_line (legible : node.Legible) :
    Text.words (Report.listingLine node) = node.fields := by
  have word (field : String) (inside : field ∈ node.fields) : Text.words field = [field] :=
    (legible.isWord_fields field inside).words_eq
  rw [fields] at word
  rw [listingLine_eq, Text.words_intercalate_space]
  -- The size is padded in front, which makes no word.
  simp only [List.flatMap_cons, List.flatMap_nil, Text.words_padLeft]
  rw [word node.permissions (by simp), word node.owner (by simp), word node.group (by simp),
    word (toString node.size) (by simp), word node.modified.timeOfDay (by simp),
    word node.shownName (by simp)]
  rfl

theorem Legible.read_line (legible : node.Legible) :
    Row.read (Report.listingLine node) = some (.ofNode node) := by
  simp only [Row.read, legible.words_line, fields, Row.ofFields, Int.toString_eq_repr,
    Int.toInt?_repr, Row.readTime_timeOfDay, readName_shownName]
  rfl

theorem Legible.line_clean (legible : node.Legible) :
    '\n' ∉ (Report.listingLine node).toList := by
  have clean : ∀ field ∈ node.fields, '\n' ∉ field.toList := fun field inside feed =>
    absurd ((legible.isWord_fields field inside).unblank _ feed) (by decide)
  simp only [fields, List.forall_mem_cons] at clean
  obtain ⟨permissions, owner, group, size, time, name, -⟩ := clean
  have parts : ∀ part ∈ [node.permissions, node.owner, node.group,
      Text.padLeft 6 (toString node.size), node.modified.timeOfDay, node.shownName],
      '\n' ∉ part.toList := by
    simp only [List.forall_mem_cons]
    exact ⟨permissions, owner, group, Text.not_mem_padLeft (by decide) size, time, name,
      fun _ member => (nomatch member)⟩
  rw [listingLine_eq]
  intro feed
  rcases Text.of_mem_intercalate feed with between | ⟨part, there, inside⟩
  · exact absurd between (by decide)
  · exact parts part there inside

end Node

/-- The rows of a listing; nothing is listed by the empty text. -/
def Row.readAll (output : String) : List (Option Row) :=
  if output = "" then [] else (Text.lines output).map Row.read

/-- What there is to tell of nodes can be told from the output: a line for each, ordered by
name, of six fields each, which give the row of the node. -/
structure Tells (output : String) (nodes : List Node) : Prop where
  lines : (Text.lines output).length = nodes.length
  fields : ∀ line ∈ Text.lines output, (Text.words line).length = 6
  rows : ∃ sorted : List Node, sorted.Perm nodes ∧ (sorted.map Node.name).Pairwise (· < ·) ∧
    (Text.lines output).map Row.read = sorted.map fun node => some (.ofNode node)

namespace Report

variable {nodes one two : List Node}

theorem lines_listing (filled : nodes ≠ []) (legible : ∀ node ∈ nodes, node.Legible) :
    Text.lines (listing nodes) = (Text.sortBy Node.name nodes).map listingLine := by
  have perm := Text.sortBy_perm Node.name nodes
  refine Text.lines_intercalate (fun none => filled ?_) fun line member => ?_
  · exact (List.map_eq_nil_iff.mp none ▸ perm).symm.eq_nil
  · obtain ⟨node, inside, rfl⟩ := List.mem_map.mp member
    exact (legible node (perm.mem_iff.mp inside)).line_clean

theorem tells_listing (filled : nodes ≠ []) (legible : ∀ node ∈ nodes, node.Legible)
    (distinct : (nodes.map Node.name).Nodup) : Tells (listing nodes) nodes := by
  have perm := Text.sortBy_perm Node.name nodes
  have sorted : ∀ node ∈ Text.sortBy Node.name nodes, node.Legible := fun node member =>
    legible node (perm.mem_iff.mp member)
  refine ⟨?_, fun line member => ?_, _, perm, ?_, ?_⟩
  · rw [lines_listing filled legible, List.length_map, perm.length_eq]
  · rw [lines_listing filled legible] at member
    obtain ⟨node, inside, rfl⟩ := List.mem_map.mp member
    rw [(sorted node inside).words_line]
    rfl
  · exact (Text.sortedBy_sortBy Node.name nodes).strict ((perm.map Node.name).nodup_iff.mpr distinct)
  · rw [lines_listing filled legible, List.map_map]
    exact List.map_congr_left fun node inside => by
      rw [Function.comp_apply, (sorted node inside).read_line]

theorem listing_ne_empty (filled : nodes ≠ []) (legible : ∀ node ∈ nodes, node.Legible) :
    listing nodes ≠ "" := by
  intro empty
  have told := lines_listing filled legible
  rw [empty, Text.lines_of_not_mem (by decide)] at told
  obtain ⟨node, inside, blank⟩ := List.mem_map.mp (told ▸ List.mem_singleton_self "")
  have fields := (legible node ((Text.sortBy_perm ..).mem_iff.mp inside)).words_line
  rw [blank] at fields
  exact absurd fields (List.cons_ne_nil _ _).symm

/-- Read back, a listing gives the rows in order; of no nodes it gives none. -/
theorem readAll_listing (legible : ∀ node ∈ nodes, node.Legible) :
    Row.readAll (listing nodes) =
      (Text.sortBy Node.name nodes).map fun node => some (.ofNode node) := by
  by_cases filled : nodes = []
  · subst filled
    simp [Row.readAll, listing, Text.sortBy]
  · rw [Row.readAll, if_neg (listing_ne_empty filled legible), lines_listing filled legible,
      List.map_map]
    refine List.map_congr_left fun node inside => ?_
    rw [Function.comp_apply, (legible node ((Text.sortBy_perm ..).mem_iff.mp inside)).read_line]

theorem rows_perm_of_listing_eq (legible : ∀ node ∈ one, node.Legible)
    (too : ∀ node ∈ two, node.Legible) (same : listing one = listing two) :
    (one.map Row.ofNode).Perm (two.map Row.ofNode) := by
  have rows : (Text.sortBy Node.name one).map Row.ofNode =
      (Text.sortBy Node.name two).map Row.ofNode := by
    have read := (readAll_listing legible).symm.trans ((congrArg _ same).trans (readAll_listing too))
    refine List.map_injective_iff.mpr (Option.some_injective Row) ?_
    rwa [List.map_map, List.map_map]
  exact (((Text.sortBy_perm ..).map _).symm.trans (.of_eq rows)).trans ((Text.sortBy_perm ..).map _)

end Report

end CyberRange
