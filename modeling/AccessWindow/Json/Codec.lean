import AccessWindow.Dict
import AccessWindow.Json.Flaw

namespace AccessWindow.Json

/-- Where a document comes from: a text, with the number of levels it may still nest, or a value
that has been read before. -/
inductive Route
  | text (levels : Nat)
  | value
  deriving DecidableEq

def Route.deepest : Nat := 127

def Route.deeper : Route → Except Flaw Route
  | .text 0 => .error .malformed
  | .text (levels + 1) => .ok (.text levels)
  | .value => .ok .value

structure Codec (α : Type) where
  read : Route → Doc → Except Flaw α
  write : α → Json

namespace Codec

variable {α β : Type}

def text : Codec String where
  read _ d :=
    match d with
    | .string (some s) => .ok s
    | d => .error (d.unexpected "a string")
  write := .string

def flag : Codec Bool where
  read _ d :=
    match d with
    | .bool b => .ok b
    | d => .error (d.unexpected "a boolean")
  write := .bool

def map (c : Codec α) (f : α → β) (g : β → α) : Codec β where
  read route d := (c.read route d).map f
  write b := c.write (g b)

def option (c : Codec α) : Codec (Option α) where
  read route d :=
    match d with
    | .null => .ok none
    | d => (c.read route d).map some
  write
    | none => .null
    | some a => c.write a

def readItems (c : Codec α) (route : Route) (closed : Bool) : List Doc → Except Flaw (List α)
  | [] => if closed then .ok [] else .error .malformed
  | d :: ds => do
    let a ← c.read route d
    return a :: (← readItems c route closed ds)

def list (c : Codec α) : Codec (List α) where
  read route d :=
    match d with
    | .array items closed => do readItems c (← route.deeper) closed items
    | d => .error (d.unexpected "a sequence")
  write items := .array (items.map c.write)

def readEntries (c : Codec α) (route : Route) (closed : Bool) :
    List (Option String × Doc) → Dict α → Except Flaw (Dict α)
  | [], d => if closed then .ok d else .error .malformed
  | (none, _) :: _, _ => .error .malformed
  | (some key, doc) :: rest, d => do
    readEntries c route closed rest (d.insert key (← c.read route doc))

/-- Of two members with one key the later counts. -/
def dict (c : Codec α) : Codec (Dict α) where
  read route d :=
    match d with
    | .object members closed => do readEntries c (← route.deeper) closed members .empty
    | d => .error (d.unexpected "a map")
  write d := .object (d.entries.map fun e => (e.1, c.write e.2))

end Codec

mutual

def ofDoc (route : Route) : Doc → Except Flaw Json
  | .broken => .error .malformed
  | .null => .ok .null
  | .bool b => .ok (.bool b)
  | .number none => .error .malformed
  | .number (some n) => .ok (.number n)
  | .string none => .error .malformed
  | .string (some s) => .ok (.string s)
  | .array items closed => do
    let js ← ofDocs (← route.deeper) closed items
    return .array js
  | .object members closed => do
    let js ← ofMembers (← route.deeper) closed members
    return .object (Dict.ofList js).entries

def ofDocs (route : Route) (closed : Bool) : List Doc → Except Flaw (List Json)
  | [] => if closed then .ok [] else .error .malformed
  | d :: ds => do
    let j ← ofDoc route d
    return j :: (← ofDocs route closed ds)

def ofMembers (route : Route) (closed : Bool) :
    List (Option String × Doc) → Except Flaw (List (String × Json))
  | [] => if closed then .ok [] else .error .malformed
  | (none, _) :: _ => .error .malformed
  | (some key, d) :: ds => do
    let j ← ofDoc route d
    return (key, j) :: (← ofMembers route closed ds)

end

namespace Codec

def json : Codec Json where
  read := ofDoc
  write j := j

variable {α : Type}

def decodeText (c : Codec α) (bs : List UInt8) : Except Flaw α := do
  let (d, rest) := Doc.read bs
  let a ← c.read (.text Route.deepest) d
  if Doc.skipSpace rest = [] then return a else throw .malformed

def decodeValue (c : Codec α) (j : Json) : Except Flaw α := c.read .value j.toDoc

end Codec

end AccessWindow.Json
