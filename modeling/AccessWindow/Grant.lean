import AccessWindow.Request.Basic

namespace AccessWindow

structure Owner where
  kind : String
  name : String
  uid : String
  deriving DecidableEq

structure Grant where
  name : String
  scope : String
  subjects : List String
  role : String
  expires : Option Instant
  owner : Option Owner
  deriving DecidableEq

namespace Grant

def ownerKind : String := "JitRequest"

def nameFor (request : String) : String := request ++ "-jit"

def ofRequest (r : Request) : List Grant :=
  r.spec.namespaces.map fun ns =>
    { name := nameFor r.name
      scope := ns
      subjects := r.spec.subjects
      role := r.spec.role
      expires := some r.closes
      owner := some ⟨ownerKind, r.name, r.uid⟩ }

def belongsTo (g : Grant) (request : String) : Bool :=
  match g.owner with
  | some owner => owner.kind = ownerKind && owner.name = request
  | none => false

end Grant

end AccessWindow
