import AccessWindow.Proofs.Conduct.Opening
import AccessWindow.Proofs.Conduct.Review

namespace AccessWindow.Lifecycle.Keeper

open Program

variable {name : String} {lastKnown : List String} {keeper : Keeper}

theorem proceed_abides {r : Request} {e : Edition} (hn : r.name = name) :
    (keeper.proceed r e).Abides (Permitted name lastKnown) (Ends (Concludes name lastKnown))
      [⟨.call (.requestNamed name), .ok r⟩, ⟨.edition, some e⟩] := by
  have h : Attending name [⟨.call (.requestNamed name), .ok r⟩, ⟨.edition, some e⟩] r e r :=
    attending_of_begun hn
  have spares : Only Operation.sparesGrants
      [⟨.call (.requestNamed name), .ok r⟩, ⟨.edition, some e⟩] := by
    simp [Only, Operation.sparesGrants, Operation.isGrant]
  rw [proceed]
  cases hp : r.status.phase with
  | rejected => exact clearRejected_abides h (.inl hp)
  | fresh => exact review_abides hp hn rfl
  | preApproved => exact openWindow_abides ⟨h, hp, by simp [Silent]⟩ spares
  | succeeded => exact expire_abides h (.succeeded hp)
  | unrecognized => exact expire_abides h (.unrecognized hp)

theorem reconcile_abides :
    (keeper.reconcile name lastKnown).Abides (Permitted name lastKnown)
      (Ends (Concludes name lastKnown)) [] := by
  refine abides_bind.2 (abides_ask.2 ⟨.find rfl, fun answer hn => ?_⟩)
  cases answer with
  | error f =>
    cases f with
    | notFound message =>
      have missed : Missed name [⟨.call (.requestNamed name), .error (.notFound message)⟩] :=
        ⟨message, List.prefix_refl _⟩
      apply adds_ends (revokeIn_abides (.gone missed) fun _ h => h)
      intro n said only swept
      exact .gone missed.append ⟨_, said, rfl, only, swept⟩
    | _ => exact upset_last rfl
  | ok r =>
    refine abides_bind.2 ⟨.consult rfl, fun edition _ => ?_⟩
    cases edition with
    | none => exact ⟨⟨.edition, none⟩, by simp, trivial⟩
    | some e => exact proceed_abides hn

end AccessWindow.Lifecycle.Keeper
