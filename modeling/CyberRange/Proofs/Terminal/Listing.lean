import CyberRange.Proofs.Shell.Listing
import CyberRange.Proofs.Terminal.Lasting

namespace CyberRange

/-! Listings in a terminal that lines have led to: no line brings a blank into what is
printed of a node, nor a key twice into a directory, so what `ls` prints can be read back. -/

namespace Node

open Text (IsWord)

variable {node : Node}

theorem children_of_members (filled : node.members ≠ []) : node.children = some node.members := by
  cases mapped : node.children with
  | none => exact absurd (by rw [members, mapped, Option.getD_none]) filled
  | some entries => rw [members, mapped, Option.getD_some]

/-- No key stands twice, and what is printed beside size, time and name are words. -/
structure Keyed (node : Node) : Prop where
  distinct : (Entries.keys node.members).Nodup
  permissions : IsWord node.permissions
  owner : IsWord node.owner
  group : IsWord node.group

/-- Owners and permissions of the files and directories that are ever made. -/
def presets : List String :=
  ["root", operatorName, filePermissions, directoryPermissions]

theorem isWord_of_mem_presets : ∀ text ∈ presets, IsWord text := by
  have plain : ∀ text ∈ presets, text ≠ "" ∧ text.toList.any Text.isBlank = false := by decide
  exact fun text member =>
    ⟨(plain text member).1, Text.isBlank_eq_false_of_any (plain text member).2⟩

theorem keyed_file (now : Timestamp) (name content : String) {owner : String}
    (word : IsWord owner) : (file now name content owner).Keyed :=
  ⟨List.nodup_nil, isWord_of_mem_presets filePermissions (by decide), word, word⟩

theorem everywhere_keyed_seed (now : Timestamp) : (seed now).Everywhere Keyed := by
  have word : ∀ owner ∈ ["root", operatorName], IsWord owner := fun owner member =>
    isWord_of_mem_presets owner (List.mem_append_left [filePermissions, directoryPermissions] member)
  refine everywhere_seed_of now (fun name _ content owner named => ?_)
    fun name _ children owner named below => ?_
  · exact everywhere_of_members (keyed_file now name content (word owner named))
      fun _ member => (nomatch member)
  · refine everywhere_of_members
      ⟨Entries.nodup_keys_ofPairs _, isWord_of_mem_presets directoryPermissions (by decide),
        word owner named, word owner named⟩ fun entry member => ?_
    obtain ⟨child, there, rfl⟩ := List.mem_map.mp (Entries.mem_of_mem_ofPairs member)
    exact (below child there).2

theorem lasting_keyed : Lasting Keyed where
  adjusted node step inner _ own := by
    refine ⟨?_, own.permissions, own.owner, own.group⟩
    rw [members_adjustChild, Entries.keys_adjust]
    exact own.distinct
  stamped _ _ own := ⟨own.distinct, own.permissions, own.owner, own.group⟩
  received node now name content own := by
    refine ⟨?_, own.permissions, own.owner, own.group⟩
    rcases members_withChild name (file now name content operatorName) node with same | added
    · rw [same]
      exact own.distinct
    · rw [added]
      exact Entries.nodup_keys_put own.distinct ..
  created now name content := keyed_file now name content (isWord_of_mem_presets operatorName (by decide))

end Node

/-- A line whose first word is `ls` lists, and does nothing else but to be recorded. -/
theorem Processor.execute_ls {line : String} {words : List String} (now : Timestamp)
    (processor : Processor) (parts : Text.words line = "ls" :: words) :
    processor.execute now line = (settle (processor.list words), processor.record line) := by
  have known : Verb.ofName? "ls" = some .ls := by decide
  simp only [execute, start, parts, known, dispatch, attempt, map_caught]
  rfl

namespace Terminal

variable {terminal : Terminal} {path : String} {folder : Node}

/-- What lines lead to from the tree that a session starts with. -/
def Reached (terminal : Terminal) : Prop :=
  ∃ (start : Terminal) (now : Timestamp) (uses : List Use),
    start.processor.files = .atHome (.seed now) ∧ (∀ use ∈ uses, use.isLine = true) ∧
      terminal = start.afterUses uses

theorem Reached.keyed (reached : terminal.Reached) :
    terminal.processor.files.root.Everywhere Node.Keyed := by
  obtain ⟨start, now, uses, started, -, rfl⟩ := reached
  refine everywhere_afterUses Node.lasting_keyed ?_ uses
  rw [started]
  exact Node.everywhere_keyed_seed now

theorem Reached.tidy (reached : terminal.Reached) :
    terminal.processor.files.Tidy fun c => Text.isBlank c = false := by
  obtain ⟨start, now, uses, started, lines, rfl⟩ := reached
  refine tidy_afterUses ?_ Path.typable_unblank (fun _ unblank => unblank) (.inl lines)
  rw [started]
  have atHome : (FileSystem.atHome (.seed now)).IsDirectory Path.home := rfl
  exact ⟨Node.everywhere_seed now, Path.typable_unblank.atHome, atHome⟩

theorem Reached.of_resolve (reached : terminal.Reached)
    (leads : terminal.processor.files.resolve path = some folder) :
    (∀ node ∈ folder.members.map Prod.snd, node.Legible) ∧
      ((folder.members.map Prod.snd).map Node.name).Nodup := by
  have keyed := reached.keyed.at leads
  have tidy := reached.tidy.root.at leads
  constructor
  · rw [List.forall_mem_map]
    intro entry member
    -- Permissions, owner and group are words in every tree, names only where lines made them.
    have own := (keyed.child member).here
    exact ⟨own.permissions, own.owner, own.group, (tidy.child member).here.spelled⟩
  · have names : (folder.members.map Prod.snd).map Node.name = Entries.keys folder.members := by
      rw [List.map_map, Entries.keys]
      exact List.map_congr_left tidy.here.named
    rw [names]
    exact keyed.here.distinct

/-- What `ls` prints of a directory: every line that asks for it gets it, it tells all there
is to tell of the children, and it is printed nowhere else that lines lead to where the
children differ in any of that. -/
structure Lists (terminal : Terminal) (path : String) (folder : Node) (output : String) : Prop where
  answered : ∀ words, words.headD "." = path →
    terminal.processor.list words = .ok (.success output)
  executed : ∀ now line words, Text.words line = "ls" :: words → words.headD "." = path →
    (terminal.processor.execute now line).1 = .ok (.success output)
  tells : Tells output (folder.members.map Prod.snd)
  apart : ∀ (other : Terminal) (another : Node), other.Reached →
    other.processor.files.resolve path = some another →
    other.processor.list [path] = .ok (.success output) →
    ((another.members.map Prod.snd).map Row.ofNode).Perm
      ((folder.members.map Prod.snd).map Row.ofNode)

theorem list_of_resolve (leads : terminal.processor.files.resolve path = some folder)
    {members : List (String × Node)} (mapped : folder.children = some members)
    (words : List String) (named : words.headD "." = path) :
    terminal.processor.list words = .ok (.success (Report.listing (members.map Prod.snd))) := by
  rw [Processor.list_eq, named, leads, Option.bind_some, mapped]

theorem output_of_list {output : String}
    (leads : terminal.processor.files.resolve path = some folder)
    (listed : terminal.processor.list [path] = .ok (.success output)) :
    output = Report.listing (folder.members.map Prod.snd) := by
  cases mapped : folder.children with
  | none =>
      rw [Processor.list_eq, List.headD_cons, leads, Option.bind_some, mapped] at listed
      cases listed
  | some members =>
      rw [list_of_resolve leads mapped [path] rfl] at listed
      rw [Node.members, mapped, Option.getD_some]
      exact (congrArg CommandResult.output (Except.ok.inj listed)).symm

/-- Wherever lines lead to, a directory that is not empty is listed in a way that can be
read back, whatever is in the names. -/
theorem lists_of_reached (reached : terminal.Reached)
    (leads : terminal.processor.files.resolve path = some folder) (filled : folder.members ≠ []) :
    ∃ output, terminal.Lists path folder output := by
  obtain ⟨legible, distinct⟩ := reached.of_resolve leads
  have answered := list_of_resolve leads (Node.children_of_members filled)
  refine ⟨Report.listing (folder.members.map Prod.snd), answered,
    fun now line words parts named => ?_,
    Report.tells_listing (by simpa using filled) legible distinct,
    fun other another too found same => ?_⟩
  · rw [Processor.execute_ls now _ parts, answered words named]
    rfl
  · exact Report.rows_perm_of_listing_eq (too.of_resolve found).1 legible
      (output_of_list found same).symm

/-- Files whose names look like colours, permissions and sizes, and one with a letter beyond
ASCII, listed from below. -/
theorem lists_of_reached_odd_names :
    let start := create default (.fresh default .instant (.constant 0.5))
    let terminal := start.afterUses
      [.submit default "touch \x1b[34mx\x1b[0m", .execute default "touch -rw-r--r--\t4096",
        .submit default "touch 4096", .execute default "touch ä\x1b[37m", .submit default "cd tools"]
    ∃ folder, terminal.processor.files.resolve ".." = some folder ∧ folder.members ≠ [] ∧
      terminal.Reached ∧ ∃ output, terminal.Lists ".." folder output := by
  intro start terminal
  have leads : (terminal.processor.files.resolve "..").isSome = true := by decide +kernel
  obtain ⟨folder, leads⟩ := Option.isSome_iff_exists.mp leads
  have counted : (terminal.processor.files.resolve "..").map (·.members.length) = some 6 := by
    decide +kernel
  have filled : folder.members ≠ [] := by
    intro empty
    rw [leads, Option.map_some, empty] at counted
    exact absurd counted (by decide)
  have reached : terminal.Reached := ⟨start, default, _, rfl, by decide, rfl⟩
  exact ⟨folder, leads, filled, reached, lists_of_reached reached leads filled⟩

end Terminal

end CyberRange
