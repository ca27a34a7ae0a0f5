import CyberRange.History

namespace CyberRange

/-! Lines recorded and recalled in any order.

The cursor stays between the oldest line and the place behind the newest one.  Moves in a row
add up as far as these two go, so moving back does not undo a move that was cut short; a recall
gives the line that the cursor has come to.
-/

namespace History

/-- What can be done with a history; a direction may be anything. -/
inductive Call where
  | append (line : String)
  | navigate (given : Json)

def Call.line? : Call → Option String
  | .append line => some line
  | .navigate _ => none

/-- A recall in a direction that there is. -/
def Call.step (direction : Direction) : Call :=
  .navigate (.text direction.name)

def afterCall (history : History) : Call → History
  | .append line => history.append line
  | .navigate given =>
      match history.navigate given with
      | .ok (_, moved) => moved
      | .error _ => history

def afterCalls (history : History) (calls : List Call) : History :=
  calls.foldl afterCall history

def Placed (history : History) : Prop :=
  history.cursor ≤ history.size

def withCursor (place : Nat) (history : History) : History :=
  { history with cursor := place }

variable {history : History} {given : Json}

theorem navigate_name (direction : Direction) (history : History) :
    history.navigate (.text direction.name) = .ok (history.recallLine direction) := by
  rw [navigate, Direction.read_name]
  rfl

theorem navigate_of_unknown (notUp : given ≠ .text "up") (notDown : given ≠ .text "down")
    (history : History) : history.navigate given = .error ⟨given⟩ := by
  rw [navigate, Direction.read_of_unknown notUp notDown]
  rfl

theorem afterCall_of_unknown (notUp : given ≠ .text "up") (notDown : given ≠ .text "down")
    (history : History) : history.afterCall (.navigate given) = history := by
  rw [afterCall, navigate_of_unknown notUp notDown]

theorem afterCall_step (direction : Direction) (history : History) :
    history.afterCall (.step direction) = (history.recallLine direction).2 := by
  rw [Call.step, afterCall, navigate_name]

/-- A call records a line, moves in a direction that there is, or does nothing. -/
theorem afterCall_cases (history : History) (call : Call) :
    (∃ line, call = .append line) ∨ (∃ direction, call = .step direction) ∨
      call.line? = none ∧ history.afterCall call = history := by
  cases call with
  | append line => exact .inl ⟨line, rfl⟩
  | navigate given =>
      by_cases up : given = .text "up"
      · exact .inr (.inl ⟨.up, by rw [up]; rfl⟩)
      · by_cases down : given = .text "down"
        · exact .inr (.inl ⟨.down, by rw [down]; rfl⟩)
        · exact .inr (.inr ⟨rfl, afterCall_of_unknown up down history⟩)

theorem entries_afterCall (history : History) (call : Call) :
    (history.afterCall call).entries = history.entries ++ call.line?.toList := by
  rcases afterCall_cases history call with ⟨line, rfl⟩ | ⟨direction, rfl⟩ | ⟨silent, same⟩
  · rfl
  · rw [afterCall_step, entries_recallLine]
    exact (List.append_nil _).symm
  · rw [same, silent]
    exact (List.append_nil _).symm

theorem entries_afterCalls (history : History) (calls : List Call) :
    (history.afterCalls calls).entries = history.entries ++ calls.filterMap Call.line? := by
  induction calls generalizing history with
  | nil => exact (List.append_nil _).symm
  | cons call rest induction =>
      have next : (history.afterCalls (call :: rest)).entries =
          (history.afterCall call).entries ++ rest.filterMap Call.line? := induction _
      rw [next, entries_afterCall, List.append_assoc]
      cases told : call.line? with
      | none => rw [List.filterMap_cons_none told]; rfl
      | some line => rw [List.filterMap_cons_some told]; rfl

theorem placed_append (line : String) (history : History) : (history.append line).Placed := by
  simp only [Placed, append, size, List.length_append, List.length_singleton, Nat.le_refl]

theorem Placed.move (placed : history.Placed) (direction : Direction) :
    (history.move direction).Placed := by
  cases direction with
  | up => exact Nat.le_trans (Nat.sub_le _ _) placed
  | down => exact Nat.min_le_left _ _

theorem Placed.recallLine_eq (placed : history.Placed) (direction : Direction) :
    history.recallLine direction =
      ((history.move direction).current, history.move direction) := by
  obtain ⟨entries, cursor⟩ := history
  cases entries with
  | cons line rest => rfl
  | nil =>
      -- both moves leave the cursor at the only place that there is
      obtain rfl : cursor = 0 := Nat.le_zero.mp placed
      cases direction <;> rfl

theorem Placed.afterCall_step (placed : history.Placed) (direction : Direction) :
    history.afterCall (.step direction) = history.move direction := by
  rw [History.afterCall_step, placed.recallLine_eq]

theorem Placed.afterCall (placed : history.Placed) (call : Call) :
    (history.afterCall call).Placed := by
  rcases afterCall_cases history call with ⟨line, rfl⟩ | ⟨direction, rfl⟩ | ⟨-, same⟩
  · exact placed_append line history
  · rw [placed.afterCall_step]
    exact placed.move direction
  · rwa [same]

theorem Placed.afterCalls (placed : history.Placed) (calls : List Call) :
    (history.afterCalls calls).Placed := by
  induction calls generalizing history with
  | nil => exact placed
  | cons call rest induction => exact induction (placed.afterCall call)

theorem Placed.afterSteps_succ (placed : history.Placed) (direction : Direction) (count : Nat) :
    history.afterCalls (List.replicate (count + 1) (.step direction)) =
      (history.move direction).afterCalls (List.replicate count (.step direction)) := by
  rw [List.replicate_succ, History.afterCalls, List.foldl_cons, placed.afterCall_step]
  rfl

theorem Placed.afterUps (placed : history.Placed) (count : Nat) :
    history.afterCalls (List.replicate count (.step .up)) =
      history.withCursor (history.cursor - count) := by
  induction count generalizing history with
  | zero => rfl
  | succ count induction =>
      have sum : history.cursor - 1 - count = history.cursor - (count + 1) := by omega
      rw [placed.afterSteps_succ, induction (placed.move .up), ← sum]
      rfl

theorem Placed.afterDowns (placed : history.Placed) (count : Nat) :
    history.afterCalls (List.replicate count (.step .down)) =
      history.withCursor (min history.size (history.cursor + count)) := by
  induction count generalizing history with
  | zero =>
      have here : min history.size (history.cursor + 0) = history.cursor := Nat.min_eq_right placed
      rw [here]
      rfl
  | succ count induction =>
      have sum : min history.size (min history.size (history.cursor + 1) + count) =
          min history.size (history.cursor + (count + 1)) := by omega
      rw [placed.afterSteps_succ, induction (placed.move .down), ← sum]
      rfl

theorem Placed.afterUps_afterDowns (placed : history.Placed) (ups downs : Nat) :
    history.afterCalls
        (List.replicate ups (.step .up) ++ List.replicate downs (.step .down)) =
      history.withCursor (min history.size (history.cursor - ups + downs)) := by
  have lifted : (history.withCursor (history.cursor - ups)).Placed :=
    Nat.le_trans (Nat.sub_le _ _) placed
  rw [History.afterCalls, List.foldl_append]
  have first : (List.replicate ups (Call.step .up)).foldl History.afterCall history =
      history.withCursor (history.cursor - ups) := placed.afterUps ups
  rw [first]
  exact lifted.afterDowns downs

theorem current_of_lt (inside : history.cursor < history.size) :
    history.entries[history.cursor]? = some history.current := by
  rw [current, List.getElem?_eq_getElem inside, Option.getD_some]

theorem current_behind (behind : history.cursor = history.size) : history.current = "" := by
  rw [current, behind, size, List.getElem?_eq_none (Nat.le_refl _), Option.getD_none]

theorem Placed.navigate_eq (placed : history.Placed) (direction : Direction) :
    history.navigate (.text direction.name) =
      .ok ((history.move direction).current, history.move direction) := by
  rw [navigate_name, placed.recallLine_eq]

/-- The lines back from a new one to the oldest, by the places where they are recalled. -/
theorem recent_eq (line : String) (history : History) (count : Nat) :
    (line :: history.entries.reverse)[min count history.size]? =
      some ((history.append line).withCursor (history.size - count)).current := by
  have newestFirst : line :: history.entries.reverse = (history.append line).entries.reverse := by
    rw [append, List.reverse_append, List.reverse_singleton, List.singleton_append]
  have longer : (history.append line).entries.length = history.size + 1 := List.length_append
  have inside : min count history.size < (history.append line).entries.length := by omega
  have mirrored : (history.append line).entries.length - 1 - min count history.size =
      history.size - count := by omega
  have back : ((history.append line).withCursor (history.size - count)).cursor <
      ((history.append line).withCursor (history.size - count)).size :=
    Nat.lt_of_le_of_lt (Nat.sub_le _ _) (Nat.lt_of_lt_of_eq (Nat.lt_succ_self _) longer.symm)
  rw [newestFirst, List.getElem?_reverse inside, mirrored]
  exact current_of_lt back

/-- After any calls on an empty history its lines are those recorded, in order, and the cursor
stands on one of them or behind the last.  An unknown direction fails and changes nothing.  Ups
and then downs move the cursor by their numbers as far as that goes.  An up on a history with
lines gives one of them, a down the one that it leads to, or the empty text behind the last; and
ups behind a recorded line give the lines from that one back to the oldest, which is then given
again and again. -/
theorem recalled_over_calls (calls : List Call) :
    let history := empty.afterCalls calls
    history.entries = calls.filterMap Call.line? ∧ history.cursor ≤ history.size ∧
    (∀ given : Json, given ≠ .text "up" → given ≠ .text "down" →
      history.navigate given = .error ⟨given⟩ ∧
        history.afterCall (.navigate given) = history) ∧
    (∀ ups downs : Nat,
      history.afterCalls
          (List.replicate ups (.navigate (.text "up")) ++
            List.replicate downs (.navigate (.text "down"))) =
        history.withCursor (min history.size (history.cursor - ups + downs))) ∧
    (history.entries ≠ [] → ∃ line moved, history.navigate (.text "up") = .ok (line, moved) ∧
      moved.entries = history.entries ∧ history.entries[moved.cursor]? = some line) ∧
    (∃ line moved, history.navigate (.text "down") = .ok (line, moved) ∧
      moved.entries = history.entries ∧
      (moved.cursor < history.size ∧ history.entries[moved.cursor]? = some line ∨
        moved.cursor = history.size ∧ line = "")) ∧
    ∀ (line : String) (count : Nat), ∃ recalled moved,
      ((history.append line).afterCalls
          (List.replicate count (.navigate (.text "up")))).navigate (.text "up") =
        .ok (recalled, moved) ∧
      (line :: history.entries.reverse)[min count history.size]? = some recalled := by
  intro history
  have unused : empty.Placed := Nat.le_refl 0
  have placed : history.Placed := unused.afterCalls calls
  refine ⟨entries_afterCalls empty calls, placed, fun given notUp notDown => ?_,
    placed.afterUps_afterDowns, fun filled => ?_, ?_, fun line count => ?_⟩
  · exact ⟨navigate_of_unknown notUp notDown history, afterCall_of_unknown notUp notDown history⟩
  · have some : 0 < history.size := List.length_pos_iff.mpr filled
    have inside : (history.move .up).cursor < (history.move .up).size := by
      have above : history.cursor ≤ history.size := placed
      change history.cursor - 1 < history.size
      omega
    exact ⟨_, _, placed.navigate_eq .up, rfl, current_of_lt inside⟩
  · refine ⟨_, _, placed.navigate_eq .down, rfl, ?_⟩
    rcases Nat.lt_or_eq_of_le (placed.move .down) with inside | behind
    · exact .inl ⟨inside, current_of_lt inside⟩
    · exact .inr ⟨behind, current_behind behind⟩
  · have behind : (history.append line).Placed := placed_append line history
    have walked : ((history.append line).withCursor (history.size + 1 - count)).Placed :=
      Nat.le_trans (Nat.sub_le _ _) behind
    have place : history.size + 1 - count - 1 = history.size - count := by omega
    have recalled := behind.afterUps count
    refine ⟨_, (history.append line).withCursor (history.size - count), ?_,
      recent_eq line history count⟩
    rw [← place]
    exact (congrArg (navigate (.text "up")) recalled).trans (walked.navigate_eq .up)

/-- The third up is cut short, so the down behind it does not lead back to where it started. -/
example :
    ((empty.append "ls").append "pwd").afterCalls
        [.step .up, .step .up, .step .up, .step .down] =
      { entries := ["ls", "pwd"], cursor := 1 } := rfl

end History

end CyberRange
