import AccessWindow.Json.Document
import AccessWindow.Text.Blank
import AccessWindow.Text.Literal

namespace AccessWindow.Json

inductive Found
  | null
  | bool (value : Bool)
  | number (value : Number)
  | string (value : String)
  | sequence
  | map
  deriving DecidableEq

inductive Mismatch
  | wrongType (found : Found) (expected : String)
  | wrongValue (found : Found) (expected : String)
  | wrongLength (length : Nat) (expected : String)
  | unknownVariant (variant : String) (known : List String)
  | missing (field : String)
  | duplicate (field : String)
  | refused (reason : String)
  deriving DecidableEq

inductive Flaw
  | malformed
  | mismatch (reason : Mismatch)
  deriving DecidableEq

namespace Found

def text : Found → String
  | .null => "null"
  | .bool true => "boolean `true`"
  | .bool false => "boolean `false`"
  | .number (.whole n) => "integer `" ++ toString n ++ "`"
  | .number (.double x) => "floating point `" ++ x.text ++ "`"
  | .string s => "string " ++ Text.literal s
  | .sequence => "sequence"
  | .map => "map"

end Found

namespace Mismatch

def oneOf (known : List String) : String :=
  let ticked := known.map fun k => "`" ++ k ++ "`"
  match ticked with
  | [] => "there are no variants"
  | [a] => "expected " ++ a
  | [a, b] => "expected " ++ a ++ " or " ++ b
  | many => "expected one of " ++ Text.join ", " many

def text : Mismatch → String
  | .wrongType found expected => "invalid type: " ++ found.text ++ ", expected " ++ expected
  | .wrongValue found expected => "invalid value: " ++ found.text ++ ", expected " ++ expected
  | .wrongLength n expected => "invalid length " ++ toString n ++ ", expected " ++ expected
  | .unknownVariant v known => "unknown variant `" ++ v ++ "`, " ++ oneOf known
  | .missing field => "missing field `" ++ field ++ "`"
  | .duplicate field => "duplicate field `" ++ field ++ "`"
  | .refused reason => reason

end Mismatch

def Flaw.text : Flaw → String
  | .malformed => "malformed JSON"
  | .mismatch reason => reason.text

namespace Doc

def found? : Doc → Option Found
  | .broken => none
  | .null => some .null
  | .bool b => some (.bool b)
  | .number n => n.map .number
  | .string s => s.map .string
  | .array _ _ => some .sequence
  | .object _ _ => some .map

def unexpected (d : Doc) (expected : String) : Flaw :=
  match d.found? with
  | some found => .mismatch (.wrongType found expected)
  | none => .malformed

end Doc

end AccessWindow.Json
