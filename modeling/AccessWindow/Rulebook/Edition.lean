import AccessWindow.Fault
import AccessWindow.Pattern.Reader
import AccessWindow.Pattern.Size
import AccessWindow.Rulebook.Basic

namespace AccessWindow

namespace Rulebook

def mandatory (book : Rulebook) : List (String × String) := [
  ("jiraProject", book.project),
  ("jiraIssueType", book.issueType),
  ("jiraWorkflowApproveStatus", book.approvedStatus),
  ("rejectedTransitionID", book.rejectTransition),
  ("completedTransitionID", book.completeTransition)]

def firstBlank? (book : Rulebook) : Option String :=
  (book.mandatory.find? fun entry => Text.blank entry.2).map (·.1)

def patternText? (book : Rulebook) : Option String :=
  book.namespacePattern.filter fun s => !Text.blank s

def badPattern (pattern complaint : String) : Fault :=
  .configuration ("invalid namespaceAllowedRegex '" ++ pattern ++ "': " ++ complaint)

def tooLarge : String :=
  "Compiled regex exceeds size limit of " ++ toString Pattern.largest ++ " bytes."

def pattern (book : Rulebook) : Except Fault (Option Pattern) :=
  match book.patternText? with
  | none => .ok none
  | some s =>
    match Pattern.ofText? s with
    | none => .error (badPattern s "regex parse error:")
    | some p => if p.size ≤ Pattern.largest then .ok (some p) else .error (badPattern s tooLarge)

end Rulebook

structure Edition where
  version : Nat
  rulebook : Rulebook
  pattern : Option Pattern
  filled : rulebook.firstBlank? = none
  compiled : rulebook.pattern = .ok pattern

namespace Edition

def ofRulebook (book : Rulebook) (version : Nat) : Except Fault Edition :=
  match filled : book.firstBlank? with
  | some name => .error (.configuration ("configuration field '" ++ name ++ "' must not be empty"))
  | none =>
    match compiled : book.pattern with
    | .ok pattern => .ok ⟨version, book, pattern, filled, compiled⟩
    | .error fault => .error fault

def allowsRole (e : Edition) (role : String) : Bool := e.rulebook.roles.contains role

def lastVersion : Nat := 18446744073709551615

end Edition

/-- Puts a rulebook in force after the current edition, and tells whether the rules have changed.
The same rulebook keeps its edition. -/
def Edition.succeed (current : Option Edition) (book : Rulebook) : Except Fault (Edition × Bool) :=
  match current with
  | none => (Edition.ofRulebook book 1).map fun e => (e, true)
  | some e =>
    if e.rulebook = book then .ok (e, false)
    else (Edition.ofRulebook book (min (e.version + 1) lastVersion)).map fun e => (e, true)

end AccessWindow
