import AccessWindow.Event
import AccessWindow.Fault
import AccessWindow.Grant
import AccessWindow.Request.Wire
import AccessWindow.Rulebook.Wire

namespace AccessWindow.Cluster

open Json

def requestVersion : String := "jitgate.dev/v1"

def requestKind : String := "JitRequest"

def accessGroup : String := "rbac.authorization.k8s.io"

def accessVersion : String := "rbac.authorization.k8s.io/v1"

def expiryKey : String := "jitgate.dev/expiry"

structure OwnerLink where
  apiVersion : String
  kind : String
  name : String
  uid : String
  controls : Bool
  deriving DecidableEq

structure Metadata where
  name : String
  scope : Option String
  uid : Option String
  version : Option String
  annotations : Dict String
  owners : List OwnerLink
  deriving DecidableEq

def OwnerLink.record : Record OwnerLink where
  title := "an owner"
  Maker := _
  make := OwnerLink.mk
  layout :=
    .field (.required "apiVersion" .text OwnerLink.apiVersion) <|
    .field (.required "kind" .text OwnerLink.kind) <|
    .field (.required "name" .text OwnerLink.name) <|
    .field (.required "uid" .text OwnerLink.uid) <|
    .field (.defaulted "controller" .flag OwnerLink.controls false) <|
    .done

def Metadata.record : Record Metadata where
  title := "metadata"
  Maker := _
  make := Metadata.mk
  layout :=
    .field (.required "name" .text Metadata.name) <|
    .field (.sparse "namespace" (.option .text) Metadata.scope none Option.isNone) <|
    .field (.sparse "uid" (.option .text) Metadata.uid none Option.isNone) <|
    .field (.sparse "resourceVersion" (.option .text) Metadata.version none Option.isNone) <|
    .field (.sparse "annotations" (.dict .text) Metadata.annotations .empty Dict.isEmpty) <|
    .field (.sparse "ownerReferences" (.list OwnerLink.record.codec) Metadata.owners []
      List.isEmpty) <|
    .done

def items {α : Type} (c : Codec α) : Record (List α) where
  title := "a list of objects"
  Maker := _
  make := id
  layout := .field (.defaulted "items" (.list c) id []) <| .done

structure RequestObject where
  apiVersion : String
  kind : String
  metadata : Metadata
  spec : Request.Spec
  status : Request.Status
  deriving DecidableEq

namespace RequestObject

def record : Record RequestObject where
  title := "a request"
  Maker := _
  make := RequestObject.mk
  layout :=
    .field (.defaulted "apiVersion" .text apiVersion requestVersion) <|
    .field (.defaulted "kind" .text kind requestKind) <|
    .field (.required "metadata" Metadata.record.codec metadata) <|
    .field (.required "spec" Request.Spec.record.codec spec) <|
    .field (.defaulted "status" Request.Status.record.codec status .initial) <|
    .done

def request (o : RequestObject) : Request :=
  ⟨o.metadata.name, o.metadata.uid.getD "", o.metadata.version, o.spec, o.status⟩

def ofRequest (r : Request) (scope : String) : RequestObject :=
  ⟨requestVersion, requestKind,
    ⟨r.name, some scope, if r.uid = "" then none else some r.uid, r.version, .empty, []⟩,
    r.spec, r.status⟩

end RequestObject

structure Subject where
  kind : String
  name : String
  group : Option String
  deriving DecidableEq

structure RoleLink where
  group : String
  kind : String
  name : String
  deriving DecidableEq

structure Binding where
  apiVersion : String
  kind : String
  metadata : Metadata
  subjects : List Subject
  role : RoleLink
  deriving DecidableEq

def Subject.record : Record Subject where
  title := "a subject"
  Maker := _
  make := Subject.mk
  layout :=
    .field (.required "kind" .text Subject.kind) <|
    .field (.required "name" .text Subject.name) <|
    .field (.sparse "apiGroup" (.option .text) Subject.group none Option.isNone) <|
    .done

def RoleLink.record : Record RoleLink where
  title := "a role"
  Maker := _
  make := RoleLink.mk
  layout :=
    .field (.required "apiGroup" .text RoleLink.group) <|
    .field (.required "kind" .text RoleLink.kind) <|
    .field (.required "name" .text RoleLink.name) <|
    .done

namespace Binding

def record : Record Binding where
  title := "a role binding"
  Maker := _
  make := Binding.mk
  layout :=
    .field (.defaulted "apiVersion" .text apiVersion accessVersion) <|
    .field (.defaulted "kind" .text kind "RoleBinding") <|
    .field (.required "metadata" Metadata.record.codec metadata) <|
    .field (.defaulted "subjects" (.list Subject.record.codec) subjects []) <|
    .field (.required "roleRef" RoleLink.record.codec role) <|
    .done

def ofGrant (g : Grant) : Binding where
  apiVersion := accessVersion
  kind := "RoleBinding"
  metadata :=
    { name := g.name
      scope := some g.scope
      uid := none
      version := none
      annotations := .ofList (g.expires.toList.map fun t => (expiryKey, Time.Rfc3339.offsetText t))
      owners := g.owner.toList.map fun o => ⟨requestVersion, o.kind, o.name, o.uid, true⟩ }
  subjects := g.subjects.map fun name => ⟨"User", name, some accessGroup⟩
  role := ⟨accessGroup, "ClusterRole", g.role⟩

/-- The owner that is in control, or else the first one. -/
def owner? (b : Binding) : Option Owner :=
  ((b.metadata.owners.find? (·.controls)).or b.metadata.owners.head?).map fun o =>
    ⟨o.kind, o.name, o.uid⟩

def expiry? (b : Binding) : Option Instant :=
  (b.metadata.annotations.get? expiryKey).bind Time.Rfc3339.readStrict?

def grant (b : Binding) (scope : String) : Grant where
  name := b.metadata.name
  scope := b.metadata.scope.getD scope
  subjects := b.subjects.map Subject.name
  role := b.role.name
  expires := b.expiry?
  owner := b.owner?

end Binding

def namespaceName : Record String where
  title := "a namespace"
  Maker := _
  make := Metadata.name
  layout :=
    .field (.required "metadata" Metadata.record.codec fun name =>
      ⟨name, none, none, none, .empty, []⟩) <|
    .done

def rulesObject : Record Json where
  title := "a configuration object"
  Maker := _
  make := id
  layout := .field (.required "spec" .json id) <| .done

def rulebook (rules : Json) : Except Fault Rulebook :=
  match Rulebook.record.codec.decodeValue rules with
  | .ok book => .ok book
  | .error flaw => .error (.configuration ("failed to parse configuration object: " ++ flaw.text))

structure Stamp where
  id : String
  time : String
  deriving DecidableEq

def eventObject (e : Event) (stamp : Stamp) (eventScope requestScope : String) : Json :=
  .object [
    ("apiVersion", .string "v1"),
    ("kind", .string "Event"),
    ("metadata", .object [
      ("name", .string (e.subject ++ "." ++ stamp.id)), ("namespace", .string eventScope)]),
    ("involvedObject", .object [
      ("apiVersion", .string requestVersion), ("kind", .string requestKind),
      ("name", .string e.subject), ("namespace", .string requestScope), ("uid", .string e.uid)]),
    ("reason", .string e.reason.name),
    ("message", .string e.message),
    ("type", .string e.severity.name),
    ("source", .object [("component", .string "jitgate")]),
    ("firstTimestamp", .string stamp.time),
    ("lastTimestamp", .string stamp.time),
    ("count", .nat 1)]

end AccessWindow.Cluster
