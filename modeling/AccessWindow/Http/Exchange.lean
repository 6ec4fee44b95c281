import AccessWindow.Fault
import AccessWindow.Json.Codec
import AccessWindow.Text.Base64
import AccessWindow.Text.Charset
import AccessWindow.Url.Reader

namespace AccessWindow.Http

structure Outgoing where
  method : String
  url : Url
  authorization : String
  body : Option Json

structure Response where
  status : Nat
  body : Option (List UInt8)
  deriving DecidableEq

def basic (username password : String) : String :=
  "Basic " ++ Text.Base64.encode (Text.Utf8.encode (username ++ ":" ++ password))

def isHeaderChar (c : Char) : Bool := c = '\t' || !Url.isControl c

def bearer? (token : String) : Option String :=
  if token.toList.all isHeaderChar then some ("Bearer " ++ token) else none

/-- The user that an address names comes before any other. -/
def login? (u : Url) : Option String := do
  let l ← u.login
  let decoded (s : String) : Option String := Text.Utf8.decode? (Text.Percent.decode s.toList)
  let username ← decoded l.username
  let password := l.password.bind decoded
  if username = "" ∧ password = none then none else some (basic username (password.getD ""))

structure Exchange (α : Type) where
  context : String
  request : Outgoing
  interpret : Response → Except Fault α

def lost (context : String) : Fault := .external none (context ++ ": builder error")

namespace Exchange

variable {α β : Type}

/-- An exchange with the server that the URL names. Clients also refuse to send to other schemes
than `http` and `https`, which is left out here. -/
def prepare (context method : String) (url : Url) (credential : Option String) (body : Option Json)
    (interpret : Response → Except Fault α) : Except Fault (Exchange α) :=
  if url.hasHost = false then
    .error (.external none (context ++ ": builder error for url (" ++ url.text ++ ")"))
  else
    match credential with
    | none => .error (lost context)
    | some own => .ok ⟨context, ⟨method, url, (login? url).getD own, body⟩, interpret⟩

def settle (e : Exchange α) : Option Response → Except Fault α
  | none => .error (lost e.context)
  | some r => e.interpret r

end Exchange

namespace Response

variable {α : Type}

def isSuccess (r : Response) : Bool := 200 ≤ r.status && r.status < 300

def bodyText (r : Response) : String :=
  match r.body with
  | none => "<response body unavailable>"
  | some bs => Text.Charset.decode bs

def succeed (context : String) (r : Response) : Except Fault Unit :=
  if r.isSuccess then .ok ()
  else
    let message := context ++ ": " ++ r.bodyText
    if r.status = 404 then .error (.notFound message)
    else if r.status = 409 then .error (.conflict message)
    else .error (.external (some r.status) message)

def decode (context : String) (codec : Json.Codec α) (r : Response) : Except Fault α :=
  match r.body.map codec.decodeText with
  | some (.ok a) => .ok a
  | _ =>
    .error (.external (some r.status)
      (context ++ ": malformed response body: error decoding response body"))

def result (context : String) (codec : Json.Codec α) (r : Response) : Except Fault α := do
  r.succeed context
  r.decode context codec

end Response

end AccessWindow.Http
