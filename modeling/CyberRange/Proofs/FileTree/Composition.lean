import CyberRange.FileTree.FileSystem
import CyberRange.FileTree.Seed
import CyberRange.Proofs.FileTree.Rendering

namespace CyberRange

/-! Paths one after the other.

A path behind a slash is followed from where the path in front leads, so going to a directory
and on from there is going there at once.  What a path starts with decides whether the current
directory matters at all.
-/

namespace Path

variable {current way : List String} {path front back : String}

/-- Proper names alone, spelled in any way. -/
theorem named_iff :
    Named (fun _ => True) way ↔ ∀ step ∈ way, isProper step = true :=
  ⟨fun named step member => (named step member).1,
    fun proper step member => ⟨proper step member, fun _ _ => trivial⟩⟩

theorem named_home : Named (fun _ => True) home :=
  named_iff.mpr (by decide)

/-- A path that starts at the root or at home leads to the same place from everywhere. -/
theorem normalize_of_fixed
    (fixed : isAbsolute path = true ∨ (components path).head? = some "~")
    (one other : List String) : normalize one path = normalize other path := by
  have same : start one path = start other path := by
    by_cases absolute : isAbsolute path = true
    · simp only [start, if_pos absolute]
    · obtain ⟨rest, steps⟩ := List.head?_eq_some_iff.mp (fixed.resolve_left absolute)
      simp only [start, if_neg absolute, steps]
  rw [normalize, normalize, same]

theorem start_of_relative (relative : isAbsolute path = false)
    (notHome : (components path).head? ≠ some "~") :
    start current path = (current, components path) := by
  simp only [start, relative, Bool.false_eq_true, if_false]
  split
  · rename_i rest steps
    exact absurd (by rw [steps]; rfl) notHome
  · rfl

theorem start_append (filled : front ≠ "") :
    start current (front ++ "/" ++ back) =
      ((start current front).1, (start current front).2 ++ components back) := by
  have letters : front.toList ≠ [] := fun none => filled (String.toList_eq_nil_iff.mp none)
  have whole : String.ofList (front.toList ++ '/' :: back.toList) = front ++ "/" ++ back :=
    String.toList_inj.mp (by simp)
  have started := @start_append_slash current front.toList letters back.toList
  rwa [whole, String.ofList_toList, String.ofList_toList] at started

/-- A relative path behind another one is followed from where that one leads. -/
theorem normalize_append (filled : front ≠ "") (relative : isAbsolute back = false)
    (notHome : (components back).head? ≠ some "~") :
    normalize current (front ++ "/" ++ back) = normalize (normalize current front) back := by
  calc normalize current (front ++ "/" ++ back)
      = ((start current front).2 ++ components back).foldl follow (start current front).1 := by
        rw [normalize, start_append filled]
    _ = (components back).foldl follow (normalize current front) := List.foldl_append
    _ = normalize (normalize current front) back := by
        rw [normalize.eq_def (normalize current front), start_of_relative relative notHome]

end Path

namespace FileSystem

open CyberRange.Path

variable {files entered : FileSystem} {current : List String} {front back : String}

/-- What comes of going to a path goes by the way that it stands for, but for the text of the
path in the error. -/
theorem enter_eq (files : FileSystem) (path : String) :
    (files.enter path).mapError FileFault.reason =
      match files.root.find? (files.way path) with
      | none => .error .notFound
      | some node =>
          if node.isDirectory then .ok { files with current := files.way path }
          else .error .notDirectory := by
  rw [enter, resolve]
  cases files.root.find? (files.way path) with
  | none => rfl
  | some node => cases kind : node.isDirectory <;> simp [kind, Except.mapError]

theorem enter_of_ok (done : files.enter front = .ok entered) :
    entered = { files with current := files.way front } := by
  unfold enter at done
  split at done
  · contradiction
  · split at done
    · exact (Except.ok.inj done).symm
    · contradiction

/-- Going on from a directory comes to the same as going there at once. -/
theorem enter_append (filled : front ≠ "") (relative : isAbsolute back = false)
    (notHome : (components back).head? ≠ some "~") (done : files.enter front = .ok entered) :
    (entered.enter back).mapError FileFault.reason =
      (files.enter (front ++ "/" ++ back)).mapError FileFault.reason := by
  have onward : entered.way back = files.way (front ++ "/" ++ back) := by
    rw [enter_of_ok done]
    exact (normalize_append filled relative notHome).symm
  rw [enter_eq, enter_eq, onward, enter_of_ok done]

/-- The laws of paths: the way of a path consists of proper names and is read back from how it
is rendered, a path from the root or from home is the same everywhere, and a relative path
behind another one goes on where that one leads, also for changing directories. -/
theorem normalize_laws (proper : ∀ step ∈ current, isProper step = true) (front back : String) :
    (∀ step ∈ normalize current front, isProper step = true) ∧
    (∀ elsewhere, normalize elsewhere (render (normalize current front)) =
      normalize current front) ∧
    (isAbsolute front = true ∨ (components front).head? = some "~" →
      ∀ elsewhere, normalize elsewhere front = normalize current front) ∧
    (front ≠ "" → isAbsolute back = false → (components back).head? ≠ some "~" →
      normalize current (front ++ "/" ++ back) = normalize (normalize current front) back ∧
      ∀ (root : Node) (entered : FileSystem),
        FileSystem.enter { root, current } front = .ok entered →
        (entered.enter back).mapError FileFault.reason =
          (FileSystem.enter { root, current } (front ++ "/" ++ back)).mapError
            FileFault.reason) := by
  have named : Named (fun _ => True) (normalize current front) :=
    (named_iff.mpr proper).normalize named_home fun _ _ => trivial
  refine ⟨named_iff.mp named, named.normalize_render, ?_, ?_⟩
  · intro fixed elsewhere
    exact normalize_of_fixed fixed elsewhere current
  · intro filled relative notHome
    refine ⟨normalize_append filled relative notHome, fun root entered done => ?_⟩
    exact enter_append filled relative notHome done

/-- Up from the tools to the homes and on to the notes: a file is no directory, whether it is
gone to at once or not. -/
theorem normalize_laws_to_notes :
    let files := atHome (.seed default)
    let front := "~/tools/.././/.."
    let back := "operator//notes.txt"
    (∀ step ∈ files.current, isProper step = true) ∧
      (components front).head? = some "~" ∧ (∀ elsewhere, normalize elsewhere front = ["home"]) ∧
      normalize files.current (front ++ "/" ++ back) = ["home", "operator", "notes.txt"] ∧
      ∃ entered, files.enter front = .ok entered ∧ entered.current = ["home"] ∧
        (entered.enter back).mapError FileFault.reason =
          (files.enter (front ++ "/" ++ back)).mapError FileFault.reason := by
  intro files front back
  have proper : ∀ step ∈ files.current, isProper step = true := by decide
  have fixed : (components front).head? = some "~" := by decide
  obtain ⟨entered, done⟩ : ∃ entered, files.enter front = .ok entered := by
    have succeeds : (files.enter front).toBool = true := by decide +kernel
    cases outcome : files.enter front with
    | ok entered => exact ⟨entered, rfl⟩
    | error fault =>
        rw [outcome] at succeeds
        contradiction
  obtain ⟨-, -, everywhere, onward⟩ := normalize_laws proper front back
  obtain ⟨composed, steps⟩ := onward (by decide) (by decide) (by decide)
  refine ⟨proper, fixed, fun elsewhere => ?_, ?_, entered, done, ?_,
    steps files.root entered done⟩
  · exact (everywhere (.inr fixed) elsewhere).trans (by decide +kernel)
  · exact composed.trans (by decide +kernel)
  · rw [enter_of_ok done]
    decide +kernel

end FileSystem

end CyberRange
