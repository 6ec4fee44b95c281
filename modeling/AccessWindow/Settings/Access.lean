import AccessWindow.Files.Disk
import AccessWindow.Settings.Environment
import AccessWindow.Text.Utf8
import AccessWindow.Time.Instant

namespace AccessWindow.Settings

open Environment Files Time

def limit16 : Nat := 65536

def limit32 : Nat := 4294967296

def limit64 : Nat := 18446744073709551616

structure TrackerAccess where
  url : String
  username : String
  token : String
  timeout : Duration
  deriving DecidableEq

def TrackerAccess.load (env : Environment) : Except Fault TrackerAccess := do
  let url ← needed env "JIRA_BASE_URL"
  let username ← needed env "JIRA_USERNAME"
  let token ← needed env "JIRA_API_TOKEN"
  let seconds ← numberOr env "JIRA_TIMEOUT_SECONDS" limit64 15
  return ⟨url, username, token, Duration.ofSeconds seconds⟩

inductive TokenPlace
  | inline (token : String)
  | file (path : String)
  deriving DecidableEq

def TokenPlace.resolve (source : TokenPlace) (d : Disk) : Except Fault String :=
  match source with
  | .inline token => .ok token
  | .file path =>
    let failed (reason : String) : Fault :=
      .configuration ("failed to read Kubernetes token from '" ++ path ++ "': " ++ reason)
    match d.read (.ofText path) with
    | .error t => .error (failed t.text)
    | .ok bytes =>
      match Text.Utf8.decode? bytes with
      | none => .error (failed "stream did not contain valid UTF-8")
      | some s => .ok (Text.trim s)

structure ClusterAccess where
  url : String
  token : TokenPlace
  acceptsAnyCertificate : Bool
  timeout : Duration
  deriving DecidableEq

def standardUrl : String := "https://kubernetes.default.svc"

def standardTokenFile : String := "/var/run/secrets/kubernetes.io/serviceaccount/token"

def standardRulebookName : String := "jitgate-config"

def standardCachePath : String := "/tmp/jitgate/config.json"

end AccessWindow.Settings
