import AccessWindow.Lifecycle.Opening
import AccessWindow.Lifecycle.Review

namespace AccessWindow.Lifecycle.Keeper

open Program

def proceed (keeper : Keeper) (r : Request) (edition : Edition) : Program Outcome :=
  match r.status.phase with
  | .rejected => clearRejected r edition
  | .fresh => keeper.review r edition
  | .preApproved => keeper.openWindow r edition
  | .succeeded | .unrecognized _ => expire r

/-- Looks at the request of a name. If it is gone, its grants are taken back in the namespaces it
was last known to name. -/
def reconcile (keeper : Keeper) (name : String) (lastKnown : List String) : Program Outcome := do
  match ← ask (.requestNamed name) with
  | .ok r => keeper.proceed r (← edition)
  | .error (.notFound _) =>
    let _ ← revokeIn name lastKnown
    return .done
  | .error f => fail f

end AccessWindow.Lifecycle.Keeper
