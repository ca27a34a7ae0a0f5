import CyberRange.Validation.Issue

namespace CyberRange

/-! Data under validation.

Checking goes on after a failure, so that every issue of a record is reported;
`apply` therefore keeps the issues of both its sides, in reading order.  A rule
about a whole record is checked with `bind`, which needs the value.
-/

inductive Checked (α : Type) where
  | valid (value : α)
  | invalid (issues : List Issue)

namespace Checked

def map (change : α → β) : Checked α → Checked β
  | .valid value => .valid (change value)
  | .invalid issues => .invalid issues

def apply : Checked (α → β) → Checked α → Checked β
  | .valid change, .valid value => .valid (change value)
  | .valid _, .invalid issues => .invalid issues
  | .invalid issues, .valid _ => .invalid issues
  | .invalid first, .invalid second => .invalid (first ++ second)

def bind : Checked α → (α → Checked β) → Checked β
  | .valid value, next => next value
  | .invalid issues, _ => .invalid issues

/-- A single issue at the value itself. -/
def fail (problem : Problem) (input : Json) : Checked α :=
  .invalid [{ problem, place := [], input }]

/-- The same outcome seen from outside: one more step leads to each issue. -/
def under (step : Place) : Checked α → Checked α
  | .valid value => .valid value
  | .invalid issues => .invalid (issues.map (Issue.under step))

/-- The values of a list of outcomes, or all their issues. -/
def sequence : List (Checked α) → Checked (List α)
  | [] => .valid []
  | first :: rest => apply (map List.cons first) (sequence rest)

def issues : Checked α → List Issue
  | .valid _ => []
  | .invalid found => found

instance : Functor Checked := { map := map }

instance : Seq Checked := { seq := fun change value => apply change (value ()) }

@[simp] theorem map_eq (change : α → β) (outcome : Checked α) :
    change <$> outcome = outcome.map change := rfl

@[simp] theorem seq_eq (change : Checked (α → β)) (outcome : Checked α) :
    change <*> outcome = change.apply outcome := rfl

theorem issues_apply (change : Checked (α → β)) (outcome : Checked α) :
    (change.apply outcome).issues = change.issues ++ outcome.issues := by
  cases change <;> cases outcome <;> simp [apply, issues]

end Checked

end CyberRange
