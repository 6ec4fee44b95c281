import AccessWindow.Fault
import AccessWindow.Number.Unsigned

namespace AccessWindow.Settings

abbrev Environment := String → Option String

namespace Environment

variable (env : Environment) (name : String)

/-- The value as it is, or another for a variable that is not set. -/
def textOr (value : String) : String := (env name).getD value

/-- The value without the blanks around it, if that leaves anything. -/
def trimmed? : Option String := ((env name).map Text.trim).filter (· ≠ "")

def needed : Except Fault String :=
  match env name with
  | none => .error (.invalid (name ++ " is required"))
  | some s => if Text.blank s then .error (.invalid (name ++ " must not be empty")) else .ok s

def misread (value reason : String) : Fault :=
  .invalid ("invalid " ++ name ++ " value '" ++ value ++ "': " ++ reason)

def numberOr (limit value : Nat) : Except Fault Nat :=
  match env name with
  | none => .ok value
  | some s =>
    match Number.Unsigned.read limit s with
    | .ok n => .ok n
    | .error complaint => .error (misread name s complaint.text)

def isTrue : Bool := ((env name).map fun s => Text.eqIgnoreCase s "true").getD false

def flagOf? (s : String) : Option Bool :=
  let word := Text.asciiLower (Text.trim s)
  if word = "true" ∨ word = "1" ∨ word = "yes" then some true
  else if word = "false" ∨ word = "0" ∨ word = "no" ∨ word = "" then some false
  else none

def flag : Except Fault Bool :=
  match env name with
  | none => .ok false
  | some s =>
    match flagOf? s with
    | some b => .ok b
    | none => .error (misread name s "expected true or false")

def positive (n : Nat) : Except Fault Unit :=
  if n = 0 then .error (.invalid (name ++ " must be greater than zero")) else .ok ()

end Environment

end AccessWindow.Settings
