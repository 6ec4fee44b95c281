import AccessWindow.Fault
import AccessWindow.Url.Reader

namespace AccessWindow.Url

/-- The address that others are built on. A slash at its end makes its last name a folder. -/
def base (title raw : String) : Except Fault Url :=
  let trimmed := Text.trim raw
  let slashed := if trimmed.toList.getLast? = some '/' then trimmed else trimmed ++ "/"
  match read slashed with
  | .ok u => .ok u
  | .error flaw => .error (.invalid ("invalid " ++ title ++ " '" ++ raw ++ "': " ++ flaw.text))

def below (u : Url) (path : String) : Except Fault Url :=
  match u.follow path with
  | .ok v => .ok v
  | .error flaw => .error (.internal ("failed to build URL for '" ++ path ++ "': " ++ flaw.text))

/-- A name that would lead to another place than one of its own. -/
def isIdle (name : String) : Bool := ["", ".", ".."].contains (Text.trim name)

def within (u : Url) (names : List String) : Except Fault Url :=
  match names.find? isIdle with
  | some name => .error (.invalid ("invalid URL path segment '" ++ name ++ "'"))
  | none =>
    match u.extend? names with
    | some v => .ok v
    | none => .error (.internal ("base URL '" ++ u.text ++ "' cannot carry a path"))

end AccessWindow.Url
