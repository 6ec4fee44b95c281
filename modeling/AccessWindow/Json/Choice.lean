import AccessWindow.Json.Codec

namespace AccessWindow.Json.Codec

variable {α : Type}

def named (options : List (String × α)) (name : String) : Except Flaw α :=
  match options.lookup name with
  | some a => .ok a
  | none => .error (.mismatch (.unknownVariant name (options.map (·.1))))

def nothing : Doc → Except Flaw Unit
  | .null => .ok ()
  | d => .error (d.unexpected "unit")

def choiceInText (options : List (String × α)) : Doc → Except Flaw α
  | .string (some name) => named options name
  | .object ((some name, d) :: rest) closed => do
    let a ← named options name
    nothing d
    if rest.isEmpty ∧ closed then return a else throw .malformed
  | _ => .error .malformed

def choiceInValue (options : List (String × α)) : Doc → Except Flaw α
  | .string (some name) => named options name
  | .object [(some name, d)] _ => do
    let a ← named options name
    nothing d
    return a
  | .object _ _ => .error (.mismatch (.wrongValue .map "map with a single key"))
  | d => .error (d.unexpected "string or map")

def choice (options : List (String × α)) (name : α → String) : Codec α where
  read
    | .text levels, d => do
      if let .object _ _ := d then
        let _ ← Route.deeper (.text levels)
      choiceInText options d
    | .value, d => choiceInValue options d
  write a := .string (name a)

end AccessWindow.Json.Codec
