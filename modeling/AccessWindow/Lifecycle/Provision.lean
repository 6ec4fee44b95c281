import AccessWindow.Program

namespace AccessWindow.Lifecycle

open Program

def createAll : List Grant → Program Unit
  | [] => return
  | g :: gs => do
    match ← ask (.addGrant g) with
    | .ok () | .error (.alreadyExists _) => createAll gs
    | .error f => fail f

def grantAll (r : Request) : Program Unit := createAll (Grant.ofRequest r)

def anyGrant (owner : String) : List String → Program Bool
  | [] => return false
  | ns :: rest => do
    let grants ← call (.grantsWithin ns)
    if grants.any (·.belongsTo owner) then return true else anyGrant owner rest

def holdsGrant (r : Request) : Program Bool := anyGrant r.name r.spec.namespaces

def deleteAll (ns : String) : List Grant → Program Nat
  | [] => return 0
  | g :: gs => do
    match ← ask (.removeGrant ns g.name) with
    | .ok () => return (← deleteAll ns gs) + 1
    | .error (.notFound _) => deleteAll ns gs
    | .error f => fail f

def revokeIn (owner : String) : List String → Program Nat
  | [] => return 0
  | ns :: rest => do
    let grants ← call (.grantsWithin ns)
    let here ← deleteAll ns (grants.filter (·.belongsTo owner))
    return here + (← revokeIn owner rest)

def revokeAll (r : Request) : Program Nat := revokeIn r.name r.spec.namespaces

end AccessWindow.Lifecycle
