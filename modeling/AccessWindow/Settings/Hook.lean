import AccessWindow.Net.Address
import AccessWindow.Settings.Access

namespace AccessWindow.Settings

open Environment Time

/-- The file of the token is known even if there is a token without it. -/
structure HookSettings where
  host : String
  service : Nat
  clusterUrl : String
  token : Option String
  tokenFile : String
  acceptsAnyCertificate : Bool
  clusterTimeout : Duration
  rulebookName : String
  cachePath : String
  refreshPause : Duration
  tracker : TrackerAccess
  selfApproval : Bool
  deriving DecidableEq

namespace HookSettings

def load (env : Environment) : Except Fault HookSettings := do
  let service ← numberOr env "API_PORT" limit16 9443
  let seconds ← numberOr env "KUBE_TIMEOUT_SECONDS" limit64 30
  let refreshPause ← numberOr env "CONFIG_REFRESH_INTERVAL_MS" limit64 30000
  positive "CONFIG_REFRESH_INTERVAL_MS" refreshPause
  let tracker ← TrackerAccess.load env
  return {
    host := textOr env "API_HOST" "0.0.0.0"
    service
    clusterUrl := textOr env "KUBE_API_URL" standardUrl
    token := trimmed? env "KUBE_TOKEN"
    tokenFile := textOr env "KUBE_TOKEN_FILE" standardTokenFile
    acceptsAnyCertificate := isTrue env "KUBE_ACCEPT_INVALID_CERTS"
    clusterTimeout := Duration.ofSeconds seconds
    rulebookName := textOr env "JIT_CONFIG_NAME" standardRulebookName
    cachePath := textOr env "JIT_CONFIG_CACHE_PATH" standardCachePath
    refreshPause := Duration.ofMillis refreshPause
    tracker
    selfApproval := isTrue env "JIT_ALLOW_SELF_APPROVE" }

def tokenSource (s : HookSettings) : TokenPlace :=
  match s.token with
  | some token => .inline token
  | none => .file s.tokenFile

def cluster (s : HookSettings) : ClusterAccess :=
  ⟨s.clusterUrl, s.tokenSource, s.acceptsAnyCertificate, s.clusterTimeout⟩

def socket (s : HookSettings) : Except Fault String :=
  match Net.Address.ofText? s.host with
  | some a => .ok (a.withService s.service)
  | none => .error (.invalid ("invalid API_HOST '" ++ s.host ++ "': invalid IP address syntax"))

end HookSettings

end AccessWindow.Settings
