import AccessWindow.Number.Double

namespace AccessWindow

inductive Json.Number
  | whole (value : Int)
  | double (value : Number.Double)
  deriving DecidableEq

inductive Json
  | null
  | bool (value : Bool)
  | number (value : Json.Number)
  | string (value : String)
  | array (items : List Json)
  | object (members : List (String × Json))

namespace Json

instance : Inhabited Json := ⟨.null⟩

def Number.text : Number → String
  | .whole n => toString n
  | .double x => x.text

def nat (n : Nat) : Json := .number (.whole n)

def get? (key : String) : Json → Option Json
  | .object members => members.lookup key
  | _ => none

end Json

end AccessWindow
