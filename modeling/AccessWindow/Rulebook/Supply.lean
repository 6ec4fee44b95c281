import AccessWindow.Program

namespace AccessWindow.Rulebook

open Program

def seed : Program (Option Edition) := do
  match ← call .recallRulebook with
  | none => return none
  | some book => return some (← adopt book).1

/-- Fetches the rulebook and puts it in force; without one the standard rules apply. A source that
fails leaves the edition in force as it is. A changed rulebook is copied, and the copy may fail. -/
def refresh : Program Edition := do
  match ← ask .fetchRulebook with
  | .error f =>
    match ← perform .edition with
    | some current => return current
    | none => fail f
  | .ok found =>
    let (current, changed) ← adopt (found.getD .standard)
    if changed then
      let _ ← ask (.keepRulebook current.rulebook)
    return current

end AccessWindow.Rulebook
