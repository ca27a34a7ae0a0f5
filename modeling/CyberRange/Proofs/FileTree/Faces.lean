import CyberRange.FileTree.Form
import CyberRange.Proofs.FileTree.Audit
import CyberRange.Proofs.FileTree.Placing
import CyberRange.Proofs.Text.Sorting

namespace CyberRange

/-! Trees that differ in the order of their children only.

The face of a node is all of it but that order.  Trees that show the same face on every
way have the same document, since children are sorted there; a file put into a directory
changes the face on its own way and no other.
-/

namespace Entries

variable {key other : String} {entries : Entries α}

/-- All values under a key.  Only the first of them is ever found. -/
def under (key : String) (entries : Entries α) : List α :=
  (entries.filter fun entry => entry.1 = key).map Prod.snd

theorem under_cons (key name : String) (value : α) (rest : List (String × α)) :
    under key ((name, value) :: rest) =
      if name = key then value :: under key rest else under key rest := by
  by_cases same : name = key <;> simp [under, same]

theorem head?_under (key : String) (entries : Entries α) :
    (under key entries).head? = get? key entries := by
  induction entries with
  | nil => rfl
  | cons entry rest induction =>
      obtain ⟨name, value⟩ := entry
      rw [under_cons, get?]
      split
      · rfl
      · exact induction

theorem under_put_self (key : String) (value : α) (entries : Entries α) :
    under key (put key value entries) = value :: (under key entries).tail := by
  induction entries with
  | nil => simp [put, under]
  | cons entry rest induction =>
      obtain ⟨name, stored⟩ := entry
      by_cases same : name = key <;> simp [put, under_cons, same, induction]

theorem under_put_of_ne (different : other ≠ key) (value : α) (entries : Entries α) :
    under other (put key value entries) = under other entries := by
  induction entries with
  | nil => simp [put, under, different.symm]
  | cons entry rest induction =>
      obtain ⟨name, stored⟩ := entry
      by_cases same : name = key
      · subst same
        simp [put, under_cons, different.symm]
      · simp [put, under_cons, same, induction]

theorem under_adjust_self (key : String) (change : α → α) (entries : Entries α) :
    under key (adjust key change entries) = (under key entries).modifyHead change := by
  induction entries with
  | nil => rfl
  | cons entry rest induction =>
      obtain ⟨name, stored⟩ := entry
      by_cases same : name = key <;> simp [adjust, under_cons, same, induction]

theorem under_adjust_of_ne (different : other ≠ key) (change : α → α) (entries : Entries α) :
    under other (adjust key change entries) = under other entries := by
  induction entries with
  | nil => rfl
  | cons entry rest induction =>
      obtain ⟨name, stored⟩ := entry
      by_cases same : name = key
      · subst same
        simp [adjust, under_cons, different.symm]
      · simp [adjust, under_cons, same, induction]

/-- What is sorted by keys depends on what there is under each key. -/
theorem sortBy_eq_of_under {one two : Entries α}
    (same : ∀ key, under key one = under key two) :
    Text.sortBy Prod.fst one = Text.sortBy Prod.fst two := by
  have rebuilt (key : String) (entries : Entries α) :
      entries.filter (fun entry => entry.1 = key) = (under key entries).map (key, ·) := by
    rw [under, List.map_map, List.map_congr_left, List.map_id]
    intro entry member
    have named : entry.1 = key := of_decide_eq_true (List.mem_filter.mp member).2
    rw [← named]
    rfl
  refine Text.sortBy_eq_of_filter fun key => ?_
  rw [rebuilt, rebuilt, same]

theorem under_map (change : α → β) (key : String) (entries : Entries α) :
    under key (entries.map fun entry => (entry.1, change entry.2)) =
      (under key entries).map change := by
  simp [under, List.filter_map, Function.comp_def]

end Entries

namespace Node

variable {root one two folder file node : Node} {name : String} {directory way : List String}
  {members : List (String × Node)}

/-- A node without the order of its children: everything else of it, whether it has
children, and what no way leads to, the later nodes under a key. -/
@[ext]
structure Face where
  bare : Node
  mapped : Bool
  hidden : String → List Node

def face (node : Node) : Face where
  bare := { node with children := none }
  mapped := node.children.isSome
  hidden key := (Entries.under key node.members).tail

def face? (way : List String) (root : Node) : Option Face :=
  (root.find? way).map face

theorem face_withChild (key : String) (child node : Node) :
    (withChild key child node).face = node.face := by
  have same (other : String) : (Entries.under other (withChild key child node).members).tail =
      (Entries.under other node.members).tail := by
    rcases members_withChild key child node with unchanged | added
    · rw [unchanged]
    · rw [added]
      by_cases own : other = key
      · rw [own, Entries.under_put_self, List.tail_cons]
      · rw [Entries.under_put_of_ne own]
  exact Face.ext rfl Option.isSome_map (funext same)

theorem face_adjustChild (step : String) (change : Node → Node) (node : Node) :
    (adjustChild step change node).face = node.face := by
  have same (other : String) :
      (Entries.under other (adjustChild step change node).members).tail =
        (Entries.under other node.members).tail := by
    rw [members_adjustChild]
    by_cases own : other = step
    · rw [own, Entries.under_adjust_self, List.tail_modifyHead]
    · rw [Entries.under_adjust_of_ne own]
  exact Face.ext rfl Option.isSome_map (funext same)

theorem face_changeAt {change : Node → Node} (keeps : ∀ node, (change node).face = node.face)
    (way : List String) (node : Node) : (changeAt change way node).face = node.face := by
  cases way with
  | nil => exact keeps node
  | cons step rest => exact face_adjustChild step (changeAt change rest) node

/-- A file put into a directory, where no directory stands, changes one face. -/
theorem face?_place (sound : root.Sound) (leads : root.find? directory = some folder)
    (mapped : folder.children = some members) (bare : file.children = none)
    (free : root.standing? (directory ++ [name]) ≠ some .directory) (way : List String) :
    (place directory name file root).face? way =
      if way = directory ++ [name] then some file.face else root.face? way := by
  by_cases below : directory ++ [name] <+: way
  · obtain ⟨rest, rfl⟩ := below
    have placed : (place directory name file root).find? (directory ++ name :: rest) =
        file.find? rest :=
      find?_place_below leads mapped rest
    cases rest with
    | nil =>
        rw [List.append_nil, if_pos rfl, face?, placed, find?_nil, Option.map_some]
    | cons key more =>
        -- Nothing stands below the file, and nothing has stood there before.
        have longer : directory ++ [name] ++ key :: more ≠ directory ++ [name] := by simp
        have nothing := sound.standing?_append_cons free key more
        rw [standing?, Option.map_eq_none_iff] at nothing
        rw [if_neg longer, face?, face?, nothing, List.append_assoc, List.singleton_append, placed,
          find?_of_children_eq_none bare]
  · have different : way ≠ directory ++ [name] := by
      rintro rfl
      exact below (List.prefix_refl _)
    rw [if_neg different, face?, face?]
    rcases find?_place_cases below file root with ⟨rest, altered⟩ | same
    · rw [altered, Option.map_map]
      congr 1
      funext node
      exact face_changeAt (face_withChild name file) rest node
    · rw [same]

/-- Trees with the same face on every way. -/
def Alike (one two : Node) : Prop :=
  ∀ way, one.face? way = two.face? way

theorem Alike.face (alike : Alike one two) : one.face = two.face :=
  Option.some.inj (alike [])

/-- At the end of each way there are two such trees, or nothing on both sides. -/
theorem Alike.at (alike : Alike one two) (way : List String) :
    Option.Rel Alike (one.find? way) (two.find? way) := by
  have here := alike way
  cases inOne : one.find? way with
  | none =>
      rw [face?, inOne, face?, Option.map_none, eq_comm, Option.map_eq_none_iff] at here
      rw [here]
      exact .none
  | some child =>
      cases inTwo : two.find? way with
      | none => simp [face?, inOne, inTwo] at here
      | some other =>
          refine .some fun rest => ?_
          have further := alike (way ++ rest)
          rwa [face?, face?, find?_append, find?_append, inOne, inTwo] at further

theorem child?_eq_find? (key : String) (node : Node) : node.child? key = node.find? [key] := by
  rw [find?_cons]
  cases node.child? key <;> rfl

theorem head?_under_members (key : String) (node : Node) :
    (Entries.under key node.members).head? = node.child? key := by
  rw [Entries.head?_under, members, child?]
  cases node.children <;> rfl

/-- What is computed of the children, in the order of their keys, is the same for both if
it is the same for each two children that are alike. -/
theorem Alike.sortBy_map (alike : Alike one two) {shown : Node → β}
    (same : ∀ key child other, one.child? key = some child → two.child? key = some other →
      Alike child other → shown child = shown other) :
    Text.sortBy Prod.fst (one.members.map fun entry => (entry.1, shown entry.2)) =
      Text.sortBy Prod.fst (two.members.map fun entry => (entry.1, shown entry.2)) := by
  refine Entries.sortBy_eq_of_under fun key => ?_
  rw [Entries.under_map, Entries.under_map]
  -- The first node under a key is the one that is found; the others are the hidden ones.
  have tails : (Entries.under key one.members).tail = (Entries.under key two.members).tail :=
    congrFun (congrArg Face.hidden alike.face) key
  have heads := alike.at [key]
  rw [← child?_eq_find?, ← child?_eq_find?, ← head?_under_members, ← head?_under_members] at heads
  have same := same key
  simp only [← head?_under_members] at same
  cases inOne : Entries.under key one.members with
  | nil =>
      cases inTwo : Entries.under key two.members with
      | nil => rfl
      | cons other others => simp [inOne, inTwo] at heads
  | cons child children =>
      cases inTwo : Entries.under key two.members with
      | nil => simp [inOne, inTwo] at heads
      | cons other others =>
          rw [inOne, inTwo] at heads tails same
          obtain ⟨alike⟩ := heads
          rw [List.map_cons, List.map_cons, same child other rfl rfl alike]
          exact congrArg _ (congrArg _ tails)

theorem membersToJson_eq (members : List (String × Node)) :
    membersToJson members = members.map fun entry => (entry.1, entry.2.toJson) := by
  induction members with
  | nil => rfl
  | cons entry rest induction =>
      obtain ⟨key, child⟩ := entry
      rw [membersToJson, induction, List.map_cons]

theorem toJson_eq (node : Node) : node.toJson =
    .object (
      [("name", .text node.face.bare.name), ("type", .text node.face.bare.kind.name),
        ("permissions", .text node.face.bare.permissions), ("owner", .text node.face.bare.owner),
        ("group", .text node.face.bare.group), ("size", .int node.face.bare.size),
        ("modified", .text node.face.bare.modified.iso)] ++
      if node.face.mapped then
        [("children", .list ((Text.sortBy Prod.fst
          (node.members.map fun entry => (entry.1, entry.2.toJson))).map Prod.snd))]
      else []) := by
  obtain ⟨_, _, _, children, _, _, _, _, _⟩ := node
  cases children with
  | none => simp [toJson, face]
  | some members => simp [toJson, face, Node.members, membersToJson_eq]

theorem Alike.toJson_eq {one two : Node} (alike : Alike one two) : one.toJson = two.toJson := by
  have children : ∀ key child other, one.child? key = some child → two.child? key = some other →
      Alike child other → child.toJson = other.toJson :=
    fun key child other held _ alike => alike.toJson_eq
  rw [Node.toJson_eq, Node.toJson_eq, alike.face, alike.sortBy_map children]
termination_by one.weight
decreasing_by exact weight_lt_of_mem (mem_members_of_child? held)

end Node

end CyberRange
