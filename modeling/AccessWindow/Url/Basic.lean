import AccessWindow.Text.Pieces
import AccessWindow.Text.Percent

namespace AccessWindow

inductive Url.Flaw
  | noBase
  | noFolder
  | emptyHost
  | badName
  | badService
  | badFour
  | badSix
  | badCharacter
  deriving DecidableEq

def Url.Flaw.text : Url.Flaw → String
  | .noBase => "relative URL without a base"
  | .noFolder => "relative URL with a cannot-be-a-base base"
  | .emptyHost => "empty host"
  | .badName => "invalid international domain name"
  | .badService => "invalid port number"
  | .badFour => "invalid IPv4 address"
  | .badSix => "invalid IPv6 address"
  | .badCharacter => "invalid domain character"

structure Url.Login where
  username : String
  password : Option String
  deriving DecidableEq

inductive Url.Path
  | rooted (names : List String)
  | loose (text : String)
  deriving DecidableEq

/-- The names of the path and the query are kept as they are sent. A host may be known to be
empty. -/
structure Url where
  scheme : String
  login : Option Url.Login
  host : Option String
  service : Option Nat
  path : Url.Path
  query : Option String
  fragment : Option String
  deriving DecidableEq

namespace Url

def isControl (c : Char) : Bool := c.toNat < 0x20 || c.toNat = 0x7F

def isPlain (c : Char) : Bool := 0x20 ≤ c.toNat && c.toNat < 0x7F

def quote : Char := Char.ofNat 0x60

def inFragment (c : Char) : Bool := isPlain c && !([' ', '"', '<', '>', quote].contains c)

def inQuery (c : Char) : Bool := isPlain c && !([' ', '"', '#', '<', '>'].contains c)

def inKnownQuery (c : Char) : Bool := inQuery c && c ≠ '\''

def inPath (c : Char) : Bool := inFragment c && !(['#', '?', '\x7b', '\x7d'].contains c)

/-- Within one name of a path, escapes are not taken as such and separators separate nothing. -/
def inName (c : Char) : Bool := inPath c && !(['/', '%'].contains c)

def inKnownName (c : Char) : Bool := inName c && c ≠ '\\'

def inLogin (c : Char) : Bool :=
  inPath c && !(['/', ':', ';', '=', '@', '[', '\\', ']', '^', '|'].contains c)

def knownSchemes : List String := ["http", "https", "ws", "wss", "ftp", "file"]

def isKnown (scheme : String) : Bool := knownSchemes.contains scheme

def Path.text : Path → String
  | .rooted names => String.ofList ('/' :: Text.glue '/' (names.map String.toList))
  | .loose s => s

def target (u : Url) : String := u.path.text ++ (u.query.map ("?" ++ ·)).getD ""

def escaped (keep : Char → Bool) (s : String) : String :=
  String.ofList (Text.Percent.encode keep s.toList)

def Login.text (l : Login) : String :=
  escaped inLogin l.username ++ (l.password.map fun p => ":" ++ escaped inLogin p).getD "" ++ "@"

/-- A path that begins with two slashes would read as a host. -/
def Path.isAmbiguous : Path → Bool
  | .rooted ("" :: _ :: _) => true
  | _ => false

def text (u : Url) : String :=
  let authority :=
    match u.host with
    | some host =>
      "//" ++ (u.login.map Login.text).getD "" ++ host
        ++ (u.service.map fun n => ":" ++ toString n).getD ""
    | none => if u.path.isAmbiguous then "/." else ""
  u.scheme ++ ":" ++ authority ++ u.target ++ (u.fragment.map ("#" ++ ·)).getD ""

def hasHost (u : Url) : Bool := u.host.any (· ≠ "")

end Url

end AccessWindow
