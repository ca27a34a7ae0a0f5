import CyberRange.Json.Display

namespace CyberRange

/-! The lines that were executed, and a cursor for recalling them.

The cursor stands on an entry or behind the last one; behind the last one it
recalls the empty text.
-/

inductive Direction where
  | up
  | down
deriving Repr, DecidableEq

def Direction.name : Direction → String
  | .up => "up"
  | .down => "down"

def Direction.family : List (String × Direction) :=
  [("up", .up), ("down", .down)]

structure UnknownDirection where
  given : Json

def UnknownDirection.message (unknown : UnknownDirection) : String :=
  "Unknown history direction: " ++ unknown.given.shown

def Direction.read (given : Json) : Except UnknownDirection Direction :=
  match given with
  | .text name =>
      match Entries.get? name Direction.family with
      | some direction => .ok direction
      | none => .error ⟨given⟩
  | _ => .error ⟨given⟩

theorem Direction.read_name (direction : Direction) :
    Direction.read (.text direction.name) = .ok direction := by
  cases direction <;> rfl

theorem Direction.read_of_unknown {given : Json} (notUp : given ≠ .text "up")
    (notDown : given ≠ .text "down") : Direction.read given = .error ⟨given⟩ := by
  cases given with
  | text name =>
      have up : ¬ "up" = name := fun same => notUp (congrArg Json.text same.symm)
      have down : ¬ "down" = name := fun same => notDown (congrArg Json.text same.symm)
      simp only [Direction.read, Direction.family, Entries.get?, if_neg up, if_neg down]
  | _ => rfl

structure History where
  entries : List String
  cursor : Nat
deriving Repr, DecidableEq

namespace History

def empty : History := { entries := [], cursor := 0 }

def size (history : History) : Nat :=
  history.entries.length

/-- Records a line and puts the cursor behind it. -/
def append (line : String) (history : History) : History :=
  { entries := history.entries ++ [line], cursor := history.entries.length + 1 }

def current (history : History) : String :=
  history.entries[history.cursor]?.getD ""

/-- Moves the cursor one step, as far as there are entries. -/
def move (direction : Direction) (history : History) : History :=
  match direction with
  | .up => { history with cursor := history.cursor - 1 }
  | .down => { history with cursor := min history.size (history.cursor + 1) }

def recallLine (direction : Direction) (history : History) : String × History :=
  let moved := if history.entries.isEmpty then history else history.move direction
  (moved.current, moved)

theorem entries_move (direction : Direction) (history : History) :
    (history.move direction).entries = history.entries := by
  cases direction <;> rfl

/-- Recalling moves the cursor at most. -/
theorem entries_recallLine (direction : Direction) (history : History) :
    (history.recallLine direction).2.entries = history.entries := by
  rw [recallLine]
  split
  · rfl
  · exact entries_move direction history

/-- Moves in a direction given by its name; an unknown one moves nothing. -/
def navigate (given : Json) (history : History) : Except UnknownDirection (String × History) :=
  (Direction.read given).map fun direction => history.recallLine direction

end History

end CyberRange
