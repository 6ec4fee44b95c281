import AccessWindow.Text.Blank
import AccessWindow.Url.Host
import AccessWindow.Url.Walk

namespace AccessWindow.Url

def isSchemeChar (c : Char) : Bool := c.isAlphanum || c = '+' || c = '-' || c = '.'

def scheme? (cs : List Char) : Option (String × List Char) :=
  let name := cs.takeWhile isSchemeChar
  match cs.dropWhile isSchemeChar with
  | ':' :: rest =>
    if name.head?.any Char.isAlpha then some (String.ofList (name.map Char.toLower), rest) else none
  | _ => none

def isSlash (known : Bool) (c : Char) : Bool := c = '/' || (known && c = '\\')

def endsAuthority (known : Bool) (c : Char) : Bool := isSlash known c || c = '?' || c = '#'

def lastAt? (cs : List Char) : Option (List Char × List Char) :=
  if cs.contains '@' then
    let backwards := cs.reverse
    some (((backwards.dropWhile (· ≠ '@')).drop 1).reverse, (backwards.takeWhile (· ≠ '@')).reverse)
  else none

def login? (cs : List Char) : Option Login :=
  let name := cs.takeWhile (· ≠ ':')
  let secret := (cs.dropWhile (· ≠ ':')).drop 1
  if name = [] ∧ secret = [] then none
  else some ⟨String.ofList name, if secret = [] then none else some (String.ofList secret)⟩

def hostChars : Bool → List Char → List Char
  | _, [] => []
  | inside, c :: cs =>
    if c = ':' ∧ inside = false then []
    else c :: hostChars (if c = '[' then true else if c = ']' then false else inside) cs

/-- The number of a service, unless it is the one that the scheme stands for. -/
def service? (usual : Option Nat) (cs : List Char) : Except Flaw (Option Nat) :=
  if cs.all Char.isDigit then
    let n := cs.foldl (fun n c => n * 10 + (c.toNat - 48)) 0
    if 65536 ≤ n then .error .badService
    else if cs = [] ∨ some n = usual then .ok none
    else .ok (some n)
  else .error .badService

def usualService (scheme : String) : Option Nat :=
  [("http", 80), ("https", 443), ("ws", 80), ("wss", 443), ("ftp", 21)].lookup scheme

structure Authority where
  login : Option Login
  host : String
  service : Option Nat
  deriving DecidableEq

/-- Reads the part of an address that names its host; the flag tells whether anything follows it. -/
def authority (scheme : String) (cs : List Char) (followed : Bool) : Except Flaw Authority := do
  let known := isKnown scheme
  let (secret, place) := (lastAt? cs).getD ([], cs)
  if cs.contains '@' ∧ secret = [] ∧ place = [] ∧ followed then throw .emptyHost
  let login := login? secret
  let name := hostChars false place
  let host ← if known then Host.readKnown name else Host.readOther name
  let rest := place.drop name.length
  if host = "" ∧ (rest ≠ [] ∨ login.isSome) then throw .emptyHost
  let service ← service? (usualService scheme) (rest.drop 1)
  return ⟨login, host, service⟩

def pathOf (known : Bool) (cs : List Char) : Path :=
  match cs with
  | [] => if known then .rooted [""] else .loose ""
  | c :: rest => .rooted (walk [] (namesOf known (if isSlash known c then rest else c :: rest)))

def withAuthority (scheme : String) (cs : List Char) : Except Flaw Url := do
  let known := isKnown scheme
  let front := cs.takeWhile (!endsAuthority known ·)
  let rest := cs.dropWhile (!endsAuthority known ·)
  let a ← authority scheme front (rest ≠ [])
  let parts := cut rest
  let query := parts.query.map (queryText known)
  let path := pathOf known parts.path
  return ⟨scheme, a.login, some a.host, a.service, path, query, parts.fragment.map fragmentText⟩

def ofFile (cs : List Char) : Except Flaw Url := do
  let (front, rest) :=
    match cs with
    | a :: b :: rest =>
      if isSlash true a && isSlash true b then
        (rest.takeWhile (!endsAuthority true ·), rest.dropWhile (!endsAuthority true ·))
      else ([], cs)
    | cs => ([], cs)
  let host ← if front = [] then pure "" else Host.readKnown front
  let parts := cut rest
  let path : Path :=
    match pathOf true parts.path with
    | .rooted names =>
      let named := names.dropWhile (· = "")
      .rooted (if named = [] then [""] else named)
    | .loose s => .loose s
  return ⟨"file", none, some (if host = "localhost" then "" else host), none, path,
    parts.query.map (queryText true), parts.fragment.map fragmentText⟩

def withoutHost (scheme : String) (cs : List Char) : Url :=
  let parts := cut cs
  let path : Path :=
    match parts.path with
    | '/' :: rest => .rooted (walk [] (namesOf false rest))
    | cs => .loose (String.ofList (Text.Percent.encode isPlain cs))
  let query := parts.query.map (queryText false)
  ⟨scheme, none, none, none, path, query, parts.fragment.map fragmentText⟩

def read (s : String) : Except Flaw Url :=
  match scheme? (clean s) with
  | none => .error .noBase
  | some (scheme, rest) =>
    if scheme = "file" then ofFile rest
    else if isKnown scheme then withAuthority scheme (rest.dropWhile (isSlash true))
    else
      match rest with
      | '/' :: '/' :: rest => withAuthority scheme rest
      | rest => .ok (withoutHost scheme rest)

/-- The address that a path leads to from the folder of another address. The path begins with a name
and may end with a query and a fragment. -/
def follow (base : Url) (reference : String) : Except Flaw Url :=
  match base.path with
  | .loose _ => .error .noFolder
  | .rooted names =>
    let known := isKnown base.scheme
    let parts := cut (clean reference)
    .ok { base with
      path := .rooted (walk names.dropLast (namesOf known parts.path))
      query := parts.query.map (queryText known)
      fragment := parts.fragment.map fragmentText }

def nameText (known : Bool) (name : String) : String :=
  String.ofList (Text.Percent.encode (if known then inKnownName else inName)
    (name.toList.filter (!isDropped ·)))

def enter (known : Bool) (before : List String) (name : String) : List String :=
  walk (if before = [""] then [] else before) [nameText known name]

def closed (names : List String) : List String :=
  if names.length ≠ 1 ∧ names.getLast? = some "" then names.dropLast else names

def extend? (base : Url) (names : List String) : Option Url :=
  match base.path with
  | .loose _ => none
  | .rooted before =>
    some { base with path := .rooted (names.foldl (enter (isKnown base.scheme)) (closed before)) }

def formText (s : String) : String :=
  let keep (c : Char) : Bool := c.isAlphanum || ['*', '-', '.', '_', ' '].contains c
  String.ofList ((Text.Percent.encode keep s.toList).map fun c => if c = ' ' then '+' else c)

def ask (u : Url) (key value : String) : Url :=
  let pair := formText key ++ "=" ++ formText value
  let query :=
    match u.query with
    | none => pair
    | some q => if q = "" then pair else q ++ "&" ++ pair
  { u with query := some query }

example : (read " HTTP://u:p@Example.com:80/a/../b c/?q ").toOption.map text =
    some "http://u:p@example.com/b%20c/?q" := by decide +kernel
example : (read "http://0x7f.1/").toOption.map text = some "http://127.0.0.1/" := by decide +kernel
example : ((read "http://h//a//").toOption.bind (extend? · ["x/", "%"])).map target =
    some "//a//x%2F/%25" := by decide +kernel

end AccessWindow.Url
