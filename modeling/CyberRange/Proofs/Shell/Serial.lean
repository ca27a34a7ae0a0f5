import Mathlib.Data.List.Perm.Basic
import CyberRange.Proofs.Shell.Effects
import CyberRange.Shell.Overlap

namespace CyberRange

/-! Lines started at once over a processor that nothing guards come out as if they had been
executed one after the other.

All that a line does to the processor it does before it waits.  What it has to say when its
page arrives depends on the hosts alone, which no command changes, so the order in which
the pages arrive only orders the results.
-/

theorem pickFrom_perm {items rest : List α} {item : α} {pick : Nat}
    (picked : pickFrom pick items = some (item, rest)) : items.Perm (item :: rest) := by
  rw [pickFrom, Option.map_eq_some_iff] at picked
  obtain ⟨found, there, same⟩ := picked
  obtain ⟨rfl, rfl⟩ := Prod.mk.inj same
  obtain ⟨inside, rfl⟩ := List.getElem?_eq_some_iff.mp there
  exact (List.getElem_cons_eraseIdx_perm inside).symm

theorem pickFrom_ne_none {items : List α} (filled : items ≠ []) (pick : Nat) :
    pickFrom pick items ≠ none := by
  have some := List.length_pos_iff.mpr filled
  have inside : min pick (items.length - 1) < items.length := by omega
  simp [pickFrom, inside]

namespace Processor

variable {now : Timestamp} {processor : Processor} {lines : List String}

/-- The results of lines that are executed in turn, each under the position of its line. -/
def serialResults (now : Timestamp) (lines : List String) (processor : Processor) :
    List (Nat × Ending) :=
  (processor.executeAll now lines).1.mapIdx fun position result => (position, result)

namespace Overlap

variable {overlap : Overlap} {expected : List (Nat × Ending)} {picks : List Nat}

/-- The results to come, as the pages will give them. -/
def pending (overlap : Overlap) : List (Nat × Ending) :=
  overlap.awaiting.map fun waiting =>
    (waiting.position, .ok (waiting.download.finish overlap.processor.network.hosts))

/-- An overlap over a processor that has done all there is to do, with the expected results
there or to come. -/
structure Matches (after : Processor) (expected : List (Nat × Ending))
    (overlap : Overlap) : Prop where
  processor : overlap.processor = after
  results : (overlap.results ++ overlap.pending).Perm expected

/-- A line that is started ends at once or waits for its page; the processor and its result
are those of executing it in either case. -/
theorem start_cases (now : Timestamp) (overlap : Overlap) (position : Nat) (line : String) :
    overlap.start now (position, line) =
        ({ overlap with processor := (overlap.processor.execute now line).2 } : Overlap).finish
          position (overlap.processor.execute now line).1 ∨
      ∃ download,
        overlap.start now (position, line) =
          { overlap with
            processor := (overlap.processor.execute now line).2
            awaiting := overlap.awaiting ++ [{ position, line, download }] } ∧
        (overlap.processor.execute now line).1 =
          .ok (download.finish (overlap.processor.execute now line).2.network.hosts) := by
  cases began : overlap.processor.start now line with
  | mk progress after =>
      rcases progress with escape | reached
      · refine .inl ?_
        simp only [start, execute, began, Except.map]
      · cases reached with
        | finished result =>
            refine .inl ?_
            simp only [start, execute, began, Except.map, Progress.result]
        | fetching download =>
            by_cases delayed : after.network.isDelayed = true
            · refine .inr ⟨download, ?_⟩
              simp only [start, execute, began, Except.map, Progress.result, delayed, if_true,
                and_self]
            · refine .inl ?_
              simp only [start, execute, began, Except.map, Progress.result, delayed,
                Bool.false_eq_true, if_false]

theorem Matches.start {after : Processor} (agrees : Matches after expected overlap)
    (now : Timestamp) (position : Nat) (line : String) :
    Matches (after.execute now line).2
      (expected ++ [(position, (after.execute now line).1)])
      (overlap.start now (position, line)) := by
  obtain ⟨rfl, results⟩ := agrees
  have hosts := (network_execute now line overlap.processor).1
  rcases start_cases now overlap position line with ends | ⟨download, waits, result⟩
  · rw [ends]
    refine ⟨rfl, ?_⟩
    simp only [finish, pending, hosts, List.append_assoc]
    refine List.Perm.trans ?_ (results.append_right _)
    rw [List.append_assoc]
    exact .append_left _ List.perm_append_comm
  · rw [waits]
    refine ⟨rfl, ?_⟩
    rw [result, hosts]
    simp only [pending, hosts, List.map_append, List.map_cons, List.map_nil, ← List.append_assoc]
    exact results.append_right _

/-- An answer that arrives is one of the results to come. -/
theorem Matches.release {after : Processor} (agrees : Matches after expected overlap)
    (pick : Nat) : Matches after expected (overlap.release pick) := by
  obtain ⟨same, results⟩ := agrees
  rw [Overlap.release]
  split
  · exact ⟨same, results⟩
  · rename_i arrived rest picked
    refine ⟨same, List.Perm.trans ?_ results⟩
    simp only [finish, pending, List.append_assoc, List.singleton_append]
    refine .append_left _ ?_
    exact (pickFrom_perm picked).symm.map fun waiting =>
      (waiting.position, Except.ok (waiting.download.finish overlap.processor.network.hosts))

theorem Matches.of_mem_stages {after : Processor} {stage : Overlap}
    (agrees : Matches after expected overlap) (member : stage ∈ overlap.stages picks) :
    Matches after expected stage := by
  induction picks generalizing overlap with
  | nil =>
      rw [List.mem_singleton.mp member]
      exact agrees
  | cons pick later induction =>
      rw [stages] at member
      split at member
      · rw [List.mem_singleton.mp member]
        exact agrees
      · rcases List.mem_cons.mp member with rfl | member
        · exact agrees
        · exact induction (agrees.release pick) member

theorem length_awaiting_release (waits : overlap.awaiting ≠ []) (pick : Nat) :
    (overlap.release pick).awaiting.length + 1 = overlap.awaiting.length := by
  rw [release]
  split
  · rename_i none
    exact absurd none (pickFrom_ne_none waits pick)
  · rename_i arrived rest picked
    simpa [finish] using (pickFrom_perm picked).length_eq.symm

/-- With as many answers as there are lines that wait, all lines end. -/
theorem exists_last_stage (enough : overlap.awaiting.length ≤ picks.length) :
    ∃ stage, (overlap.stages picks).getLast? = some stage ∧ stage.awaiting = [] := by
  induction picks generalizing overlap with
  | nil => exact ⟨overlap, rfl, List.eq_nil_of_length_eq_zero (Nat.le_zero.mp enough)⟩
  | cons pick later induction =>
      rw [stages]
      split
      · rename_i done
        exact ⟨overlap, rfl, List.isEmpty_iff.mp done⟩
      · rename_i waits
        have fewer := length_awaiting_release (fun done => waits (List.isEmpty_iff.mpr done)) pick
        rw [List.length_cons] at enough
        have fits : (overlap.release pick).awaiting.length ≤ later.length := by omega
        obtain ⟨stage, last, done⟩ := induction fits
        exact ⟨stage, by rw [List.getLast?_cons, last]; rfl, done⟩

theorem length_awaiting_foldl_start (now : Timestamp) (entries : List (Nat × String))
    (overlap : Overlap) :
    (entries.foldl (start now) overlap).awaiting.length ≤
      overlap.awaiting.length + entries.length := by
  induction entries generalizing overlap with
  | nil => exact Nat.le_refl _
  | cons entry rest induction =>
      have later := induction (overlap.start now entry)
      have grown : (overlap.start now entry).awaiting.length ≤ overlap.awaiting.length + 1 := by
        rcases start_cases now overlap entry.1 entry.2 with ends | ⟨download, waits, -⟩
        · rw [ends]
          exact Nat.le_succ _
        · rw [waits]
          simp
      rw [List.foldl_cons, List.length_cons]
      omega

/-- Lines with any positions are started as they are executed in turn. -/
theorem Matches.foldl_start {after : Processor} (agrees : Matches after expected overlap)
    (now : Timestamp) (lines : List String) (place : Nat → Nat) :
    Matches (after.executeAll now lines).2
      (expected ++ (after.executeAll now lines).1.mapIdx fun index result =>
        (place index, result))
      ((lines.mapIdx fun index line => (place index, line)).foldl (Overlap.start now) overlap) := by
  induction lines generalizing after expected overlap place with
  | nil => simpa [executeAll] using agrees
  | cons line rest induction =>
      have later := induction (agrees.start now (place 0) line) fun index => place (index + 1)
      rw [List.append_assoc, List.singleton_append] at later
      simp only [executeAll, List.mapIdx_cons, List.foldl_cons]
      exact later

end Overlap

theorem matches_startAll (now : Timestamp) (lines : List String) (processor : Processor) :
    (processor.startAll now lines).Matches (processor.executeAll now lines).2
      (processor.serialResults now lines) := by
  have begun : (Overlap.create processor).Matches processor [] := ⟨rfl, .refl _⟩
  exact begun.foldl_start now lines id

/-- Lines started at once, with the pages arriving in any order: at every moment the
processor, with files, history, clock and drawn delays, is what executing the lines in turn
leaves behind, and the results are those of the lines that have ended. -/
theorem overlapping_executeAll (now : Timestamp) (lines : List String) (picks : List Nat)
    (processor : Processor) :
    (∀ stage ∈ processor.overlapping now lines picks,
        stage.processor = (processor.executeAll now lines).2 ∧
        (∀ answer ∈ stage.results, answer ∈ processor.serialResults now lines) ∧
        (stage.awaiting = [] → stage.results.Perm (processor.serialResults now lines))) ∧
      (lines.length ≤ picks.length → ∃ stage,
        (processor.overlapping now lines picks).getLast? = some stage ∧ stage.awaiting = []) := by
  refine ⟨fun stage member => ?_, fun enough => ?_⟩
  · obtain ⟨same, results⟩ := (matches_startAll now lines processor).of_mem_stages member
    refine ⟨same, fun answer there => ?_, fun done => ?_⟩
    · exact results.subset (List.mem_append_left _ there)
    · simpa [Overlap.pending, done] using results
  · have few := Overlap.length_awaiting_foldl_start now
      (lines.mapIdx fun position line => (position, line)) (.create processor)
    rw [List.length_mapIdx] at few
    exact Overlap.exists_last_stage (Nat.le_trans few (by simpa [Overlap.create] using enough))

/-- Two pages are awaited while the directory changes, and the newer one arrives first. -/
theorem overlapping_executeAll_two_downloads :
    let processor := fresh default .standard (.constant 0.5)
    let lines := ["curl http://academic.edu", "cd tools", "curl -i http://academic.edu"]
    ∃ stage, (processor.overlapping default lines [1, 0, 3]).getLast? = some stage ∧
      stage.awaiting = [] ∧ stage.processor = (processor.executeAll default lines).2 ∧
      stage.results.Perm (processor.serialResults default lines) := by
  intro processor lines
  obtain ⟨stages, ends⟩ := overlapping_executeAll default lines [1, 0, 3] processor
  obtain ⟨stage, final, done⟩ := ends (by decide)
  obtain ⟨same, -, results⟩ := stages stage (List.mem_of_getLast? final)
  exact ⟨stage, final, done, same, results done⟩

end Processor

end CyberRange
