import CyberRange.Proofs.FileTree.Rendering
import CyberRange.Proofs.Terminal.Directories

namespace CyberRange

/-! The directory on display.  What `pwd` prints and what the prompt shows, with home
shortened, both lead back to the directory they stand for when they are typed after `cd`,
wherever one has gone since.
-/

variable {allowed : Char → Prop} {way : List String} {path shown : String}

theorem Processor.execute_pwd (now : Timestamp) (processor : Processor) :
    (processor.execute now "pwd").1 = .ok (.success processor.files.currentPath) := rfl

theorem Processor.execute_cd {processor : Processor} (now : Timestamp) (filled : path ≠ "")
    (unblank : ∀ c ∈ path.toList, Text.isBlank c = false)
    (folder : processor.files.IsDirectory (processor.files.way path)) :
    (processor.execute now ("cd " ++ path)).1 = .ok (.success "") ∧
      (processor.execute now ("cd " ++ path)).2.files =
        { processor.files with current := processor.files.way path } := by
  have parts : Text.words ("cd " ++ path) = [Verb.name .cd, path] := by
    have cut := Text.words_append_space "cd" path
    rwa [Text.words_of_unblank filled unblank] at cut
  have entered : processor.files.enter path =
      .ok { processor.files with current := processor.files.way path } :=
    ((FileSystem.entersByMap processor.files path).succeeds _).mpr ⟨folder, rfl⟩
  constructor <;>
    simp only [execute, start, parts, Verb.ofName?_name, dispatch, attempt, map_caught, enter,
      record, List.headD_cons, entered, settle]

namespace Terminal

/-- What follows home and a slash is followed from home again behind the sign for it. -/
theorem shownPath_below_home (named : Path.Named allowed way)
    (elsewhere : Path.render way ≠ FileSystem.homePath)
    (below : Text.startsWith (Path.render way) (FileSystem.homePath ++ "/") = true) :
    ∃ rest, shownPath (Path.render way) = "~" ++ "/" ++ rest ∧
      way = Path.home ++ Path.components rest := by
  obtain ⟨tail, letters⟩ := List.isPrefixOf_iff_prefix.mp below
  have rendered : Path.render way = FileSystem.homePath ++ "/" ++ String.ofList tail :=
    String.toList_inj.mp (by simpa using letters.symm)
  refine ⟨String.ofList tail, ?_, ?_⟩
  · rw [shownPath, if_neg elsewhere, if_pos below, rendered]
    exact String.toList_inj.mp (by simp [← String.length_toList])
  · have parts := named.components_render
    rw [rendered, Path.components_append] at parts
    exact parts.symm

theorem normalize_shownPath (named : Path.Named allowed way) (current : List String) :
    Path.normalize current (shownPath (Path.render way)) = way := by
  by_cases atHome : Path.render way = FileSystem.homePath
  · have homes : Path.home = way := by
      rw [← named.components_render, atHome]
      decide
    rw [shownPath, if_pos atHome, ← homes]
    rfl
  · by_cases below : Text.startsWith (Path.render way) (FileSystem.homePath ++ "/") = true
    · obtain ⟨rest, shown, parts⟩ := shownPath_below_home named atHome below
      have steps : Path.Named allowed (Path.components rest) := fun step member =>
        named step (parts ▸ List.mem_append_right _ member)
      have typed : Path.components ("~" ++ "/" ++ rest) = "~" :: Path.components rest :=
        Path.components_append "~" rest
      have relative : Path.isAbsolute ("~" ++ "/" ++ rest) = false := by simp [Path.isAbsolute]
      simp only [shown, Path.normalize, Path.start, typed, relative, Bool.false_eq_true, if_false]
      rw [steps.foldl_follow_eq, ← parts]
    · rw [shownPath, if_neg atHome, if_neg below]
      exact named.normalize_render current

theorem spelled_shownPath (spelled : ∀ c ∈ path.toList, allowed c)
    (tilde : allowed '~') : ∀ c ∈ (shownPath path).toList, allowed c := by
  intro c member
  rw [shownPath] at member
  split at member
  · rw [List.mem_singleton.mp (member : c ∈ ['~'])]
    exact tilde
  · split at member
    · simp only [String.toList_append, String.toList_ofList, List.mem_append] at member
      rcases member with first | member
      · rw [List.mem_singleton.mp (first : c ∈ ['~'])]
        exact tilde
      · exact spelled c (List.mem_of_mem_drop member)
    · exact spelled c member

theorem shownPath_ne_empty (way : List String) : shownPath (Path.render way) ≠ "" := by
  intro empty
  have letters := congrArg String.toList empty
  rw [shownPath] at letters
  split at letters
  · simp at letters
  · split at letters <;> simp [Path.render] at letters

/-- What a terminal tells of its directory: the path that `pwd` prints, and what the prompt
shows between the host and its end. -/
structure Displays (terminal : Terminal) (now : Timestamp) (path shown : String) : Prop where
  printed : (terminal.processor.execute now "pwd").1 = .ok (.success path)
  prompted : terminal.prompt = "operator@cyber-coach:" ++ shown ++ "$"

variable {terminal : Terminal} {now : Timestamp}

theorem displays_iff :
    terminal.Displays now path shown ↔
      path = terminal.processor.files.currentPath ∧
        shown = shownPath terminal.processor.files.currentPath := by
  have host (text : String) :
      operatorName ++ "@" ++ hostName ++ ":" ++ text ++ "$" =
        "operator@cyber-coach:" ++ text ++ "$" := rfl
  have same (one two : String) :
      "operator@cyber-coach:" ++ one ++ "$" = "operator@cyber-coach:" ++ two ++ "$" ↔
        one = two := by
    simp [← String.toList_inj]
  constructor
  · rintro ⟨printed, prompted⟩
    rw [Processor.execute_pwd] at printed
    rw [prompt, host, same] at prompted
    exact ⟨(CommandResult.mk.inj (Except.ok.inj printed)).1.symm, prompted.symm⟩
  · rintro ⟨rfl, rfl⟩
    exact ⟨Processor.execute_pwd now _, host _⟩

/-- What is displayed in a directory leads there from wherever that directory still is one,
and is displayed there again. -/
theorem displayed_leads_back {reached : Terminal} {typed : String}
    (displayed : terminal.Displays now path shown) (located : terminal.processor.files.Located)
    (folder : reached.processor.files.IsDirectory terminal.processor.files.current)
    (onDisplay : typed = path ∨ typed = shown) (moment : Timestamp) :
    (reached.processor.execute moment ("cd " ++ typed)).1 = .ok (.success "") ∧
      ∀ later, (reached.afterUse (.execute moment ("cd " ++ typed))).Displays later path shown := by
  obtain ⟨rfl, rfl⟩ := displays_iff.mp displayed
  obtain ⟨leads, unblank, filled⟩ :
      reached.processor.files.way typed = terminal.processor.files.current ∧
        (∀ c ∈ typed.toList, Text.isBlank c = false) ∧ typed ≠ "" := by
    have rendered := located.current.spelled_render (by decide)
    rcases onDisplay with rfl | rfl
    · exact ⟨located.current.normalize_render _, rendered, Path.render_ne_empty _⟩
    · exact ⟨normalize_shownPath located.current _, spelled_shownPath rendered (by decide),
        shownPath_ne_empty _⟩
  rw [← leads] at folder
  obtain ⟨entered, files⟩ := Processor.execute_cd moment filled unblank folder
  refine ⟨entered, fun later => displays_iff.mpr ?_⟩
  simp only [afterUse, files, FileSystem.currentPath, leads, and_self]

theorem displayed_apart {one two : Terminal} {now later : Timestamp}
    {path other shown sign : String}
    (displayed : one.Displays now path shown) (otherwise : two.Displays later other sign)
    (located : one.processor.files.Located) (otherLocated : two.processor.files.Located)
    (different : one.processor.files.current ≠ two.processor.files.current) :
    path ≠ other ∧ shown ≠ sign := by
  obtain ⟨rfl, rfl⟩ := displays_iff.mp displayed
  obtain ⟨rfl, rfl⟩ := displays_iff.mp otherwise
  refine ⟨fun same => different ?_, fun same => different ?_⟩
  · rw [← located.current.normalize_render [], ← otherLocated.current.normalize_render []]
    exact congrArg _ same
  · rw [← normalize_shownPath located.current [], ← normalize_shownPath otherLocated.current []]
    exact congrArg _ same

/-- Over a sound tree in which home is a directory, after any lines, something is displayed;
it leads back to the directory from wherever any further lines have led, and no lines lead
to another directory where the same is displayed. -/
theorem displayed_directory_leads_back (terminal : Terminal) {root : Node} (sound : root.Sound)
    (homes : (FileSystem.atHome root).IsDirectory Path.home)
    (started : terminal.processor.files = .atHome root) (uses : List Use)
    (lines : ∀ use ∈ uses, use.isLine = true) :
    let reached := terminal.afterUses uses
    (∃ path shown, ∀ now, reached.Displays now path shown) ∧
      ∀ now path shown, reached.Displays now path shown →
        (∀ further : List Use, (∀ use ∈ further, use.isLine = true) →
          ∀ typed, typed = path ∨ typed = shown → ∀ moment,
            ((reached.afterUses further).processor.execute moment ("cd " ++ typed)).1 =
                .ok (.success "") ∧
              ∀ later, ((reached.afterUses further).afterUse
                (.execute moment ("cd " ++ typed))).Displays later path shown) ∧
        ∀ others : List Use, (∀ use ∈ others, use.isLine = true) →
          ∀ later other sign, (terminal.afterUses others).Displays later other sign →
            reached.processor.files.current ≠
              (terminal.afterUses others).processor.files.current →
            path ≠ other ∧ shown ≠ sign := by
  intro reached
  have located : terminal.processor.files.Located := by
    rw [started]
    exact FileSystem.located_atHome sound homes
  have here := (located_afterUses located lines).1
  refine ⟨⟨_, _, fun now => displays_iff.mpr ⟨rfl, rfl⟩⟩, fun now path shown displayed => ⟨?_, ?_⟩⟩
  · intro further further_lines typed onDisplay moment
    have directories := (located_afterUses here further_lines).2
    exact displayed_leads_back displayed here ((directories _).mpr here.here) onDisplay moment
  · intro others other_lines later other sign otherwise different
    have there := (located_afterUses located other_lines).1
    exact displayed_apart displayed otherwise here there different

/-- Back to the tools, by either path, after a file has taken their name elsewhere and the
line has gone to the accounts. -/
theorem displayed_directory_leads_back_to_tools :
    let terminal := create default (.fresh default .instant (.constant 0.5))
    let reached := terminal.afterUses [.execute default "cd tools"]
    let further := reached.afterUses
      [.execute default "touch /etc/tools", .submit default " cd /etc ",
        .execute default "cd tools"]
    (Node.seed default).Sound ∧ (FileSystem.atHome (.seed default)).IsDirectory Path.home ∧
      terminal.processor.files = .atHome (.seed default) ∧
      reached.Displays default "/home/operator/tools" "~/tools" ∧
      further.processor.files.current = ["etc"] ∧
      (further.processor.execute default "cd /home/operator/tools").1 = .ok (.success "") ∧
      (further.afterUse (.execute default "cd ~/tools")).Displays default
        "/home/operator/tools" "~/tools" ∧
      ∀ later path shown, terminal.Displays later path shown →
        "/home/operator/tools" ≠ path ∧ "~/tools" ≠ shown := by
  intro terminal reached further
  have sound := Node.sound_seed default
  have homes : (FileSystem.atHome (.seed default)).IsDirectory Path.home := by decide +kernel
  have displayed : reached.Displays default "/home/operator/tools" "~/tools" :=
    displays_iff.mpr (by decide +kernel)
  obtain ⟨-, back⟩ := displayed_directory_leads_back terminal sound homes rfl
    [.execute default "cd tools"] (by decide)
  obtain ⟨leads, apart⟩ := back default _ _ displayed
  refine ⟨sound, homes, rfl, displayed, by decide +kernel,
    (leads _ (by decide) _ (.inl rfl) default).1, (leads _ (by decide) _ (.inr rfl) default).2 _,
    fun later path shown started =>
      apart [] (by decide) later path shown started (by decide +kernel)⟩

end Terminal

end CyberRange
