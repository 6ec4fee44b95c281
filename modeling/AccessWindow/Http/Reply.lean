import AccessWindow.Fault
import AccessWindow.Json.Value

namespace AccessWindow

inductive Http.Body
  | json (value : Json)
  | text (value : String)

structure Http.Reply where
  status : Nat
  body : Http.Body

namespace Fault

def httpStatus : Fault → Nat
  | .invalid _ => 400
  | .notFound _ => 404
  | .alreadyExists _ | .conflict _ | .conflictExhausted _ _ => 409
  | .external _ _ => 502
  | .configuration _ => 503
  | .internal _ => 500

def reply (f : Fault) : Http.Reply := ⟨f.httpStatus, .json (.object [("message", .string f.text)])⟩

end Fault

end AccessWindow
