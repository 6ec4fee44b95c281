import AccessWindow.Text.Blank

namespace AccessWindow

inductive Fault
  | invalid (message : String)
  | notFound (message : String)
  | alreadyExists (message : String)
  | conflict (message : String)
  | conflictExhausted (attempts : Nat) (message : String)
  | external (status : Option Nat) (message : String)
  | configuration (message : String)
  | internal (message : String)
  deriving DecidableEq

namespace Fault

def text : Fault → String
  | .invalid m => "validation error: " ++ m
  | .notFound m => "not found: " ++ m
  | .alreadyExists m => "already exists: " ++ m
  | .conflict m => "conflict: " ++ m
  | .conflictExhausted n m =>
    "conflict retries exhausted after " ++ toString n ++ " attempt(s): " ++ m
  | .external none m => "external service error: " ++ m
  | .external (some status) m => "external service error (status " ++ toString status ++ "): " ++ m
  | .configuration m => "configuration error: " ++ m
  | .internal m => "internal error: " ++ m

def isAbsent : Fault → Bool
  | .notFound _ => true
  | _ => false

def isTaken : Fault → Bool
  | .alreadyExists _ => true
  | _ => false

def isStale : Fault → Bool
  | .conflict _ => true
  | _ => false

end Fault

/-- A text with something besides blanks in it. -/
structure Filled where
  text : String
  filled : Text.blank text = false
  deriving DecidableEq

def Filled.ofText (s : String) : Except Fault Filled :=
  if h : Text.blank s = false then .ok ⟨s, h⟩
  else .error (.invalid "value must not be empty or whitespace")

end AccessWindow
