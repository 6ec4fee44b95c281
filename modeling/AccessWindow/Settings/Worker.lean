import AccessWindow.Settings.Access

namespace AccessWindow.Settings

open Environment Time

structure WorkerSettings where
  cluster : ClusterAccess
  requestNamespace : String
  operatorNamespace : String
  rulebookName : String
  cachePath : String
  tracker : TrackerAccess
  webhooks : Bool
  poll : Duration
  concurrency : Nat
  failurePause : Duration
  attempts : Nat
  retryPause : Duration
  deriving DecidableEq

namespace WorkerSettings

def tokenSource (env : Environment) : TokenPlace :=
  match trimmed? env "KUBE_TOKEN" with
  | some token => .inline token
  | none => .file ((trimmed? env "KUBE_TOKEN_FILE").getD standardTokenFile)

def loadCluster (env : Environment) : Except Fault ClusterAccess := do
  let accepts ← flag env "KUBE_ACCEPT_INVALID_CERTS"
  let seconds ← numberOr env "KUBE_TIMEOUT_SECONDS" limit64 30
  let url := textOr env "KUBE_API_URL" standardUrl
  return ⟨url, tokenSource env, accepts, Duration.ofSeconds seconds⟩

def load (env : Environment) : Except Fault WorkerSettings := do
  let cluster ← loadCluster env
  let requestNamespace := (trimmed? env "JIT_NAMESPACE").getD "default"
  let tracker ← TrackerAccess.load env
  let webhooks ← flag env "ENABLE_WEBHOOKS"
  let poll ← numberOr env "WORKER_POLL_INTERVAL_MS" limit64 5000
  let concurrency ← numberOr env "WORKER_MAX_CONCURRENT_RECONCILES" limit64 4
  let failurePause ← numberOr env "WORKER_ERROR_BACKOFF_MS" limit64 10000
  let attempts ← numberOr env "STATUS_UPDATE_MAX_ATTEMPTS" limit32 3
  let retryPause ← numberOr env "STATUS_UPDATE_BACKOFF_MS" limit64 2000
  positive "WORKER_POLL_INTERVAL_MS" poll
  positive "WORKER_MAX_CONCURRENT_RECONCILES" concurrency
  positive "STATUS_UPDATE_MAX_ATTEMPTS" attempts
  return {
    cluster
    requestNamespace
    operatorNamespace := (trimmed? env "OPERATOR_NAMESPACE").getD requestNamespace
    rulebookName := (trimmed? env "JIT_CONFIG_NAME").getD standardRulebookName
    cachePath := (trimmed? env "JIT_CONFIG_CACHE_PATH").getD standardCachePath
    tracker
    webhooks
    poll := Duration.ofMillis poll
    concurrency
    failurePause := Duration.ofMillis failurePause
    attempts
    retryPause := Duration.ofMillis retryPause }

end WorkerSettings

end AccessWindow.Settings
