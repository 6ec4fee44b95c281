import AccessWindow.Cluster.Wire
import AccessWindow.Http.Exchange
import AccessWindow.Url.Place

namespace AccessWindow

structure Cluster where
  base : Url
  token : String
  requestScope : String
  eventScope : String
  rulebookName : String
  deriving DecidableEq

namespace Cluster

open Http

variable {α : Type}

def ofText (url token : String) : Except Fault Cluster := do
  return ⟨← Url.base "KUBE_API_URL" url, token, "default", "default", "jitgate-config"⟩

def exchange (c : Cluster) (context method : String) (url : Url) (body : Option Json)
    (interpret : Response → Except Fault α) : Except Fault (Exchange α) :=
  Exchange.prepare context method url (bearer? c.token) body interpret

def pathOfRequests (c : Cluster) : String :=
  "apis/" ++ requestVersion ++ "/namespaces/" ++ c.requestScope ++ "/jitrequests"

def pathOfRequest (c : Cluster) (name : String) : String := c.pathOfRequests ++ "/" ++ name

def grantsPath (scope : String) : String :=
  "apis/" ++ accessGroup ++ "/v1/namespaces/" ++ scope ++ "/rolebindings"

def allRequests (c : Cluster) : Except Fault (Exchange (List Request)) := do
  let context := "listing access requests failed"
  let url ← c.base.below c.pathOfRequests
  c.exchange context "GET" url none fun r => do
    return (← r.result context (items RequestObject.record.codec).codec).map RequestObject.request

def requestNamed (c : Cluster) (name : String) : Except Fault (Exchange Request) := do
  let context := "reading access request '" ++ name ++ "' failed"
  let url ← c.base.below (c.pathOfRequest name)
  c.exchange context "GET" url none fun r => do
    return (← r.result context RequestObject.record.codec).request

def putStatus (c : Cluster) (request : Request) : Except Fault (Exchange Request) := do
  let context := "updating status of access request '" ++ request.name ++ "' failed"
  let url ← c.base.below (c.pathOfRequest request.name ++ "/status")
  let object := RequestObject.ofRequest request c.requestScope
  c.exchange context "PUT" url (some (RequestObject.record.codec.write object)) fun r => do
    return (← r.result context RequestObject.record.codec).request

def removeRequest (c : Cluster) (name : String) : Except Fault (Exchange Unit) := do
  let context := "deleting access request '" ++ name ++ "' failed"
  let url ← c.base.below (c.pathOfRequest name)
  c.exchange context "DELETE" url none (·.succeed context)

/-- A conflict over a new grant means that there is one already. -/
def addGrant (c : Cluster) (g : Grant) : Except Fault (Exchange Unit) := do
  let context := "creating role binding '" ++ g.name ++ "' in '" ++ g.scope ++ "' failed"
  let url ← c.base.below (grantsPath g.scope)
  c.exchange context "POST" url (some (Binding.record.codec.write (.ofGrant g))) fun r =>
    match r.succeed context with
    | .error (.conflict message) => .error (.alreadyExists message)
    | outcome => outcome

def grantsWithin (c : Cluster) (scope : String) : Except Fault (Exchange (List Grant)) := do
  let context := "listing role bindings in '" ++ scope ++ "' failed"
  let url ← c.base.below (grantsPath scope)
  c.exchange context "GET" url none fun r =>
    match r.succeed context with
    | .error (.notFound _) => .ok []
    | .error f => .error f
    | .ok () => do
      return (← r.decode context (items Binding.record.codec).codec).map (·.grant scope)

def removeGrant (c : Cluster) (scope name : String) : Except Fault (Exchange Unit) := do
  let context := "deleting role binding '" ++ name ++ "' in '" ++ scope ++ "' failed"
  let url ← c.base.below (grantsPath scope ++ "/" ++ name)
  c.exchange context "DELETE" url none (·.succeed context)

def selector (labels : Dict String) : String :=
  Text.join "," (labels.entries.map fun (key, value) => key ++ "=" ++ value)

def namespacesWith (c : Cluster) (labels : Dict String) :
    Except Fault (Exchange (List String)) := do
  let context := "listing namespaces by label failed"
  let url ← c.base.below "api/v1/namespaces"
  c.exchange context "GET" (url.ask "labelSelector" (selector labels)) none fun r => do
    let names ← r.result context (items namespaceName.codec).codec
    return (Dict.ofList (names.map fun name => (name, ()))).keys

def fetchRulebook (c : Cluster) : Except Fault (Exchange (Option Rulebook)) := do
  let context := "reading configuration '" ++ c.rulebookName ++ "' failed"
  let url ← c.base.below ("apis/" ++ requestVersion ++ "/justintimeconfigs/" ++ c.rulebookName)
  c.exchange context "GET" url none fun r =>
    match r.succeed context with
    | .error (.notFound _) => .ok none
    | .error f => .error f
    | .ok () => do return some (← rulebook (← r.decode context rulesObject.codec))

def publishEvent (c : Cluster) (e : Event) (stamp : Stamp) : Except Fault (Exchange Unit) := do
  let context := "recording event for '" ++ e.subject ++ "' failed"
  let url ← c.base.below ("api/v1/namespaces/" ++ c.eventScope ++ "/events")
  let object := eventObject e stamp c.eventScope c.requestScope
  c.exchange context "POST" url (some object) (·.succeed context)

end Cluster

end AccessWindow
