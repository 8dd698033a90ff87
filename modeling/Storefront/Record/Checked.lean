import Storefront.Fault
/-!
# Checked readings

The reading of a record either gives a value or all the issues found, in the order of the fields.
Combining readings keeps the issues of every part; a later reading is never skipped because an
earlier one failed.
-/

namespace Storefront

/-- A value, or the issues that stand against it. -/
inductive Checked (α : Type) where
  | valid (value : α)
  | invalid (issues : List Issue)

namespace Checked

variable {α β : Type}

/-- Apply a function to a value. -/
def map (f : α → β) : Checked α → Checked β
  | .valid value => .valid (f value)
  | .invalid issues => .invalid issues

/-- Both readings, with the issues of both. -/
def both (f : α → β → γ) : Checked α → Checked β → Checked γ
  | .valid a, .valid b => .valid (f a b)
  | .valid _, .invalid issues => .invalid issues
  | .invalid issues, .valid _ => .invalid issues
  | .invalid first, .invalid second => .invalid (first ++ second)

instance : Applicative Checked where
  pure := .valid
  seq f x := both (fun g a => g a) f (x ())

/-- A reading that depends on an earlier one. -/
def andThen (reading : Checked α) (next : α → Checked β) : Checked β :=
  match reading with
  | .valid value => next value
  | .invalid issues => .invalid issues

/-- A reading of a part, with the step to the part put before its issues. -/
def under (step : Step) : Checked α → Checked α
  | .valid value => .valid value
  | .invalid issues => .invalid (issues.map fun issue => { issue with path := step :: issue.path })

/-- One issue with the whole value. -/
def fail (kind : IssueKind) : Checked α := .invalid [⟨[], kind⟩]

/-- The readings of a list's items, numbered from a position. -/
def itemsFrom (position : Nat) : List (Checked α) → Checked (List α)
  | [] => .valid []
  | reading :: rest =>
    both List.cons (reading.under (.item position)) (itemsFrom (position + 1) rest)

/-- The value, or a fault that holds all issues. -/
def toExcept : Checked α → Except Fault α
  | .valid value => .ok value
  | .invalid issues => .error (.invalid issues)

end Checked

end Storefront
