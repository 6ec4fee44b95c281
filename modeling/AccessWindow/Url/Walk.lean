import AccessWindow.Url.Basic

namespace AccessWindow.Url

def dot : List String := [".", "%2e", "%2E"]

def twoDots : List String :=
  ["..", ".%2e", ".%2E", "%2e.", "%2E.", "%2e%2e", "%2e%2E", "%2E%2e", "%2E%2E"]

def isDrive (name : String) : Bool :=
  match name.toList with
  | [letter, mark] => letter.isAlpha && (mark = ':' || mark = '|')
  | _ => false

def back (names : List String) : List String :=
  if names.getLast?.any isDrive then names else names.dropLast

def walk (before : List String) : List String → List String
  | [] => before
  | [name] =>
    if twoDots.contains name then back before ++ [""]
    else if dot.contains name then before ++ [""]
    else before ++ [name]
  | name :: next :: rest =>
    if twoDots.contains name then walk (back before) (next :: rest)
    else if dot.contains name then walk before (next :: rest)
    else walk (before ++ [name]) (next :: rest)

/-- The names written in a path. In known schemes a backslash separates like a slash. -/
def namesOf (known : Bool) (cs : List Char) : List String :=
  let cs := if known then cs.map fun c => if c = '\\' then '/' else c else cs
  (Text.pieces '/' cs).map fun name => String.ofList (Text.Percent.encode inPath name)

def isDropped (c : Char) : Bool := c = '\t' || c = '\n' || c = '\r'

def isEdge (c : Char) : Bool := c.toNat ≤ 0x20

/-- The text that counts: without controls and spaces around it, without line ends and tabs. -/
def clean (s : String) : List Char :=
  (((s.toList.dropWhile isEdge).reverse.dropWhile isEdge).reverse).filter (!isDropped ·)

structure Cut where
  path : List Char
  query : Option (List Char)
  fragment : Option (List Char)
  deriving DecidableEq

def cut (cs : List Char) : Cut :=
  let main := cs.takeWhile (· ≠ '#')
  let rest : Char → List Char → Option (List Char) := fun mark cs =>
    match cs.dropWhile (· ≠ mark) with
    | [] => none
    | _ :: after => some after
  ⟨main.takeWhile (· ≠ '?'), rest '?' main, rest '#' cs⟩

def queryText (known : Bool) (cs : List Char) : String :=
  String.ofList (Text.Percent.encode (if known then inKnownQuery else inQuery) cs)

def fragmentText (cs : List Char) : String := String.ofList (Text.Percent.encode inFragment cs)

end AccessWindow.Url
