import CyberRange.Proofs.FileTree.Soundness

namespace CyberRange.Node

/-! Putting a file into a directory of a tree: what is seen of the nodes on every
way, apart from their children. -/

variable {root found folder file : Node} {name : String} {directory way : List String}
  {members : List (String × Node)}

/-- What a way finds: a directory, or a file with its content. -/
inductive Standing where
  | directory
  | file (content : String)
deriving Repr, DecidableEq

def standing (node : Node) : Standing :=
  if node.isDirectory then .directory else .file node.content

def standing? (way : List String) (root : Node) : Option Standing :=
  (root.find? way).map standing

/-- Two nodes that differ in their children at most, and agree on having some. -/
structure LooksLike (one two : Node) : Prop where
  kind : one.kind = two.kind
  content : one.content = two.content
  mapped : one.children.isSome = two.children.isSome

theorem LooksLike.refl (node : Node) : LooksLike node node := ⟨rfl, rfl, rfl⟩

theorem LooksLike.isDirectory {one two : Node} (alike : LooksLike one two) :
    one.isDirectory = two.isDirectory := by
  rw [Node.isDirectory, Node.isDirectory, alike.kind]

theorem LooksLike.standing {one two : Node} (alike : LooksLike one two) :
    one.standing = two.standing := by
  rw [Node.standing, Node.standing, alike.isDirectory, alike.content]

theorem LooksLike.fitsKind {one two : Node} (alike : LooksLike one two) :
    one.fitsKind = two.fitsKind := by
  rw [Node.fitsKind, Node.fitsKind, alike.isDirectory, alike.mapped]

theorem looksLike_withChild (key : String) (child node : Node) :
    LooksLike (withChild key child node) node :=
  ⟨rfl, rfl, Option.isSome_map⟩

theorem looksLike_changeAt {change : Node → Node} (keeps : ∀ node, LooksLike (change node) node)
    (way : List String) (node : Node) : LooksLike (changeAt change way node) node := by
  cases way with
  | nil => exact keeps node
  | cons step rest => exact ⟨rfl, rfl, Option.isSome_map⟩

/-- The tree with a file put into one of its directories. -/
def place (directory : List String) (name : String) (file root : Node) : Node :=
  root.changeAt (withChild name file) directory

theorem find?_place_below (leads : root.find? directory = some folder)
    (mapped : folder.children = some members) (rest : List String) :
    (place directory name file root).find? (directory ++ name :: rest) = file.find? rest := by
  rw [place, find?_changeAt_append, leads, Option.bind_some, find?_cons,
    child?_withChild_self mapped, Option.bind_some]

/-- On all other ways there are the same nodes: above the directory with the file put
further down, and elsewhere as they were. -/
theorem find?_place_cases (elsewhere : ¬ directory ++ [name] <+: way) (file root : Node) :
    (∃ rest, (place directory name file root).find? way =
        (root.find? way).map (changeAt (withChild name file) rest)) ∨
      (place directory name file root).find? way = root.find? way := by
  by_cases above : way <+: directory
  · obtain ⟨rest, rfl⟩ := above
    exact .inl ⟨rest, find?_changeAt_of_append ..⟩
  · refine .inr ?_
    by_cases below : directory <+: way
    · obtain ⟨rest, rfl⟩ := below
      cases rest with
      | nil =>
          rw [List.append_nil] at above
          exact absurd (List.prefix_refl directory) above
      | cons key more =>
          have different : key ≠ name := by
            rintro rfl
            exact elsewhere ⟨more, by simp⟩
          rw [place, find?_changeAt_append, find?_append]
          congr 1
          funext node
          rw [find?_cons, child?_withChild_of_ne different, find?_cons]
    · rw [place, find?_changeAt_of_apart above below]

/-- On all other ways there are the same nodes, but for their children. -/
theorem find?_place_elsewhere (elsewhere : ¬ directory ++ [name] <+: way) (file root : Node) :
    ∃ alter : Node → Node, (∀ node, LooksLike (alter node) node) ∧
      (place directory name file root).find? way = (root.find? way).map alter := by
  rcases find?_place_cases elsewhere file root with ⟨rest, altered⟩ | same
  · exact ⟨_, looksLike_changeAt (looksLike_withChild name file) rest, altered⟩
  · exact ⟨id, LooksLike.refl, by rw [same, Option.map_id, id]⟩

/-- Nothing stands below a file or below a way that leads nowhere. -/
theorem Sound.standing?_append_cons (sound : root.Sound)
    (notDirectory : root.standing? way ≠ some .directory) (key : String) (rest : List String) :
    root.standing? (way ++ key :: rest) = none := by
  rw [standing?, find?_append]
  cases leads : root.find? way with
  | none => rfl
  | some found =>
      have isFile : found.isDirectory = false := by
        simpa [standing?, leads, standing] using notDirectory
      rw [Option.bind_some, find?_of_children_eq_none ((sound.at leads).children_of_file isFile)]
      rfl

/-- A file put into a directory, where no directory stands, is all that changes. -/
theorem standing?_place (sound : root.Sound) (leads : root.find? directory = some folder)
    (mapped : folder.children = some members) (isFile : file.isDirectory = false)
    (bare : file.children = none) (free : root.standing? (directory ++ [name]) ≠ some .directory)
    (way : List String) :
    (place directory name file root).standing? way =
      if way = directory ++ [name] then some (.file file.content) else root.standing? way := by
  by_cases below : directory ++ [name] <+: way
  · obtain ⟨rest, rfl⟩ := below
    have placed : (place directory name file root).find? (directory ++ name :: rest) =
        file.find? rest :=
      find?_place_below leads mapped rest
    cases rest with
    | nil =>
        rw [List.append_nil, if_pos rfl, standing?, placed, find?_nil, Option.map_some, standing,
          isFile]
        rfl
    | cons key more =>
        have longer : directory ++ [name] ++ key :: more ≠ directory ++ [name] := by simp
        rw [if_neg longer, sound.standing?_append_cons free, List.append_assoc, standing?,
          List.singleton_append, placed, find?_of_children_eq_none bare]
        rfl
  · obtain ⟨alter, keeps, altered⟩ := find?_place_elsewhere below file root
    have different : way ≠ directory ++ [name] := by
      rintro rfl
      exact below (List.prefix_refl _)
    rw [if_neg different, standing?, altered, Option.map_map, standing?]
    congr 1
    funext node
    exact (keeps node).standing

theorem Sound.place (sound : root.Sound) (leads : root.find? directory = some folder)
    (mapped : folder.children = some members) (fits : file.Sound) :
    (place directory name file root).Sound := by
  intro way found placed
  by_cases below : directory ++ [name] <+: way
  · obtain ⟨rest, rfl⟩ := below
    rw [List.append_assoc, List.singleton_append, find?_place_below leads mapped] at placed
    exact fits rest found placed
  · obtain ⟨alter, keeps, altered⟩ := find?_place_elsewhere below file root
    rw [altered, Option.map_eq_some_iff] at placed
    obtain ⟨original, there, rfl⟩ := placed
    rw [(keeps original).fitsKind]
    exact sound way original there

/-- A change that spares the children of a node, and whether it is a directory, keeps a
tree sound. -/
theorem Sound.changeAt (sound : root.Sound) {change : Node → Node}
    (keeps : ∀ node, LooksLike (change node) node)
    (spares : ∀ node, (change node).children = node.children) (way : List String) :
    (changeAt change way root).Sound := by
  have fits : (Node.changeAt change way root).fitsKind = true :=
    (looksLike_changeAt keeps way root).fitsKind.trans sound.fits
  have below {node child : Node} (sound : node.Sound) (key : String)
      (held : node.child? key = some child) : child.Sound := by
    have leads : node.find? [key] = some child := by
      rw [find?_cons, held]
      rfl
    exact sound.at leads
  induction way generalizing root with
  | nil =>
      refine sound_of_children fits fun key child held => below sound key ?_
      rw [← held, child?, child?, Node.changeAt, spares]
  | cons step rest induction =>
      refine sound_of_children fits fun key child held => ?_
      rw [child?_changeAt_cons] at held
      split at held
      · obtain ⟨original, there, rfl⟩ := Option.map_eq_some_iff.mp held
        have inner := below sound key there
        exact induction inner ((looksLike_changeAt keeps rest original).fitsKind.trans inner.fits)
      · exact below sound key held

end CyberRange.Node
