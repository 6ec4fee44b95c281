import AccessWindow.Pattern.Basic
import AccessWindow.Unicode.Folding
import AccessWindow.Unicode.Script

namespace AccessWindow.Pattern

open Unicode

def posixClasses : List (String × Intervals) := [
  ("alnum", [(0x30, 0x39), (0x41, 0x5A), (0x61, 0x7A)]),
  ("alpha", [(0x41, 0x5A), (0x61, 0x7A)]),
  ("ascii", [(0, 0x7F)]),
  ("blank", [(9, 9), (0x20, 0x20)]),
  ("cntrl", [(0, 0x1F), (0x7F, 0x7F)]),
  ("digit", [(0x30, 0x39)]),
  ("graph", [(0x21, 0x7E)]),
  ("lower", [(0x61, 0x7A)]),
  ("print", [(0x20, 0x7E)]),
  ("punct", [(0x21, 0x2F), (0x3A, 0x40), (0x5B, 0x60), (0x7B, 0x7E)]),
  ("space", [(9, 13), (0x20, 0x20)]),
  ("upper", [(0x41, 0x5A)]),
  ("word", asciiWord),
  ("xdigit", [(0x30, 0x39), (0x41, 0x46), (0x61, 0x66)])]

def letterClass (unicode : Bool) (c : Char) : Intervals :=
  if c = 'd' then (if unicode then Property.digit else [(0x30, 0x39)])
  else if c = 's' then (if unicode then Property.whiteSpace else [(9, 13), (0x20, 0x20)])
  else if unicode then Property.word
  else asciiWord

def asciiFold (s : Intervals) : Intervals :=
  let shift (low high up : Nat) (r : Nat × Nat) : Option (Nat × Nat) :=
    let a := max r.1 low
    let b := min r.2 high
    if a ≤ b then some (a + up - 32, b + up - 32) else none
  (s ++ s.filterMap (shift 0x41 0x5A 64) ++ s.filterMap (shift 0x61 0x7A 0)).normal

def fold (unicode : Bool) (s : Intervals) : Intervals :=
  if unicode then Folding.close s else asciiFold s

def plainName (cs : List Char) : String :=
  let isIs := (cs.take 2).map Char.toLower = ['i', 's']
  let rest := (if isIs then cs.drop 2 else cs).filter fun c =>
    c ≠ ' ' && c ≠ '_' && c ≠ '-' && c.toNat < 0x80
  let name := String.ofList (rest.map Char.toLower)
  if isIs ∧ name = "c" then "isc" else name

/-- A property that holds or not, a general category, or a script, in this order; the names that
abbreviate both a property and a category mean the category. -/
def propertyNamed? (name : String) : Option Intervals :=
  (if ["cf", "sc", "lc"].contains name then none else Property.named? name)
    <|> Category.named? name <|> Script.named? name

def propertyWithValue? (name value : String) : Option Intervals :=
  if ["generalcategory", "gc"].contains name then Category.named? value
  else if ["script", "sc", "scriptextensions", "scx"].contains name then Script.named? value
  else none

def splitAtFirst? (mark : List Char) : List Char → Option (List Char × List Char)
  | [] => none
  | c :: cs =>
    if mark.isPrefixOf (c :: cs) then some ([], (c :: cs).drop mark.length)
    else (splitAtFirst? mark cs).map fun (a, b) => (c :: a, b)

def property? (cs : List Char) : Option Intervals :=
  match splitAtFirst? ['!', '='] cs <|> splitAtFirst? [':'] cs <|> splitAtFirst? ['='] cs with
  | some (name, value) => propertyWithValue? (plainName name) (plainName value)
  | none => propertyNamed? (plainName cs)

end AccessWindow.Pattern
