import AccessWindow.Text.Pieces

/-! Paths of files. Empty names and single dots say nothing, except for a single dot at the very
start of a path that does not begin at the root. -/

namespace AccessWindow.Files

structure Path where
  rooted : Bool
  names : List String
  deriving DecidableEq

namespace Path

def ofText (s : String) : Path :=
  match s.toList with
  | '/' :: cs => ⟨true, (Text.pieces '/' cs).map String.ofList⟩
  | cs => ⟨false, (Text.pieces '/' cs).map String.ofList⟩

def text (p : Path) : String :=
  let cs := Text.glue '/' (p.names.map String.toList)
  String.ofList (if p.rooted then '/' :: cs else cs)

/-- The names from the last to the first, from the last one that says something on. -/
def settle (rooted : Bool) : List String → List String
  | [] => []
  | n :: rest =>
    if n = "" ∨ (n = "." ∧ (rooted ∨ rest ≠ [])) then settle rooted rest else n :: rest

def parent? (p : Path) : Option Path :=
  match settle p.rooted p.names.reverse with
  | [] => none
  | _ :: rest => some { p with names := (settle p.rooted rest).reverse }

def fileName? (p : Path) : Option String :=
  match settle p.rooted p.names.reverse with
  | [] => none
  | n :: _ => if n = "." ∨ n = ".." then none else some n

def push (p : Path) (name : String) : Path :=
  match p.names.reverse with
  | "" :: rest => { p with names := (name :: rest).reverse }
  | names => { p with names := (name :: names).reverse }

def withFileName (p : Path) (name : String) : Path :=
  match p.fileName? with
  | some _ => (p.parent?.getD p).push name
  | none => p.push name

def ancestors : Nat → Path → List Path
  | 0, _ => []
  | n + 1, p =>
    match p.parent? with
    | none => []
    | some up => p :: ancestors n up

def lineage (p : Path) : List Path := ancestors (p.names.length + 1) p

def isEmpty (p : Path) : Bool := p.text = ""

def endsWithSlash (p : Path) : Bool := p.names.length ≠ 1 && p.names.getLast? = some ""

def steps (p : Path) : List String := p.names.filter (· ≠ "")

example : (ofText "a//b/./c").parent?.map text = some "a//b" := by decide +kernel
example : (ofText "./c.json").parent?.map text = some "." := by decide +kernel
example : ((ofText "a/.").withFileName "b").text = "b" := by decide +kernel
example : ((ofText "a/..").withFileName "b").text = "a/../b" := by decide +kernel

end Path

end AccessWindow.Files
