import AccessWindow.Files.Path

namespace AccessWindow.Files

inductive Trouble
  | missing
  | occupied
  | busy
  | notFolder
  | isFolder
  | longName
  | zeroByte
  deriving DecidableEq

def Trouble.text : Trouble → String
  | .missing => "No such file or directory (os error 2)"
  | .occupied => "File exists (os error 17)"
  | .busy => "Device or resource busy (os error 16)"
  | .notFolder => "Not a directory (os error 20)"
  | .isFolder => "Is a directory (os error 21)"
  | .longName => "File name too long (os error 36)"
  | .zeroByte => "file name contained an unexpected NUL byte"

inductive Node
  | file (bytes : List UInt8)
  | folder
  deriving DecidableEq

/-- Where something is: its name, the name of the folder it is in, and so on up to the root. -/
abbrev Place := List String

/-- Everything but the root is listed by its place; paths that do not begin at the root begin at
home. -/
structure Disk where
  home : Place
  nodes : List (Place × Node)
  deriving DecidableEq

namespace Disk

def fresh : Disk := ⟨["home"], [(["home"], .folder)]⟩

def node? (d : Disk) (place : Place) : Option Node :=
  if place = [] then some .folder else d.nodes.lookup place

def erase (d : Disk) (place : Place) : Disk :=
  { d with nodes := d.nodes.filter fun n => n.1 ≠ place }

def put (d : Disk) (place : Place) (node : Node) : Disk :=
  { d with nodes := (place, node) :: (d.erase place).nodes }

def longestName : Nat := 255

def longestPath : Nat := 4095

def enter (d : Disk) : Place → List String → Except Trouble Place
  | place, [] => .ok place
  | place, n :: rest =>
    if n = "." then enter d place rest
    else if n = ".." then enter d place.tail rest
    else if longestName < n.utf8ByteSize then .error .longName
    else
      match d.node? (n :: place) with
      | none => .error .missing
      | some (.file _) => .error .notFolder
      | some .folder => enter d (n :: place) rest

inductive Target
  | named (name : String) (within : Place)
  | folder (place : Place)
  deriving DecidableEq

def locate (d : Disk) (p : Path) : Except Trouble Target :=
  if p.text.toList.contains (Char.ofNat 0) then .error .zeroByte
  else if p.isEmpty then .error .missing
  else if longestPath < p.text.utf8ByteSize then .error .longName
  else
    let start := if p.rooted then [] else d.home
    match p.steps.reverse with
    | [] => .ok (.folder start)
    | last :: before =>
      match d.enter start before.reverse with
      | .error t => .error t
      | .ok place =>
        if last = "." then .ok (.folder place)
        else if last = ".." then .ok (.folder place.tail)
        else if longestName < last.utf8ByteSize then .error .longName
        else .ok (.named last place)

def isFolder (d : Disk) (p : Path) : Bool :=
  match d.locate p with
  | .error _ => false
  | .ok (.folder _) => true
  | .ok (.named name within) => d.node? (name :: within) = some .folder

def read (d : Disk) (p : Path) : Except Trouble (List UInt8) :=
  match d.locate p with
  | .error t => .error t
  | .ok (.folder _) => .error .isFolder
  | .ok (.named name within) =>
    match d.node? (name :: within) with
    | none => .error .missing
    | some .folder => .error .isFolder
    | some (.file bytes) => if p.endsWithSlash then .error .notFolder else .ok bytes

def write (d : Disk) (p : Path) (bytes : List UInt8) : Except Trouble Disk :=
  match d.locate p with
  | .error t => .error t
  | .ok (.folder _) => .error .isFolder
  | .ok (.named name within) =>
    if p.endsWithSlash ∨ d.node? (name :: within) = some .folder then .error .isFolder
    else .ok (d.put (name :: within) (.file bytes))

def makeFolder (d : Disk) (p : Path) : Except Trouble Disk :=
  match d.locate p with
  | .error t => .error t
  | .ok (.folder _) => .error .occupied
  | .ok (.named name within) =>
    if (d.node? (name :: within)).isSome then .error .occupied
    else .ok (d.put (name :: within) .folder)

def move (d : Disk) (source target : Path) : Except Trouble Disk :=
  match d.locate source, d.locate target with
  | .error t, _ => .error t
  | _, .error t => .error t
  | .ok (.named name within), .ok (.named name' within') =>
    match d.node? (name :: within) with
    | none => .error .missing
    | some .folder => .error .isFolder
    | some (.file bytes) =>
      if source.endsWithSlash ∨ target.endsWithSlash then .error .notFolder
      else if d.node? (name' :: within') = some .folder then .error .isFolder
      else .ok ((d.erase (name :: within)).put (name' :: within') (.file bytes))
  | _, _ => .error .busy

def files (d : Disk) : List (String × List UInt8) :=
  d.nodes.filterMap fun (place, node) =>
    match node with
    | .folder => none
    | .file bytes =>
      if d.home.isSuffixOf place then
        some ("/".intercalate (place.take (place.length - d.home.length)).reverse, bytes)
      else none

end Disk

end AccessWindow.Files
