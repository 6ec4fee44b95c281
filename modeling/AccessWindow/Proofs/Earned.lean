import AccessWindow.Proofs.Conduct.Confinement
import AccessWindow.Proofs.History

namespace AccessWindow

def Operation.sparesRevocations : Operation → Bool
  | .call (.removeGrant _ _) => false
  | _ => true

def Operation.isNeutral : Operation → Bool
  | .call (.removeGrant _ _) | .call (.stateOfTicket _) => false
  | _ => true

theorem isNeutral_of_provides {op : Operation} (h : op.provides) : op.isNeutral := by
  cases op with
  | call c => cases c <;> first | rfl | cases h
  | _ => rfl

theorem sparesRevocations_of_isNeutral {op : Operation} (h : op.isNeutral) :
    op.sparesRevocations := by
  cases op with
  | call c => cases c <;> first | rfl | cases h
  | _ => rfl

namespace Lifecycle

open Program

variable {name key : String} {past said : List Turn} {r held : Request} {e : Edition}
  {u : Request.Update} {keeper : Keeper}

structure Earned (past : List Turn) (r : Request) (e : Edition) : Prop where
  spares : Only Operation.sparesRevocations past
  completed : ∀ key, r.status.ticket = .issue key →
    Heard past (.stateOfTicket key) (.ok e.rulebook.approvedStatus) → Completed past e key

def Credited (name : String) (past : List Turn) (op : Operation) : Prop :=
  ∀ w, op = .call (.putStatus w) → w.status.phase = .succeeded →
    ∃ r e, Found name past r e ∧ Earned past r e

theorem credited_of_spares (past : List Turn) (op : Operation) (h : op.sparesSuccess) :
    Credited name past op := by
  rintro w rfl hw
  simp [Operation.sparesSuccess, hw] at h

theorem credited_of_provides (past : List Turn) (op : Operation) (h : op.provides) :
    Credited name past op := credited_of_spares past op (sparesSuccess_of_provides h)

theorem heard_stateOfTicket_append {answer : Except Fault String}
    (only : Only Operation.isNeutral said) :
    Heard (past ++ said) (.stateOfTicket key) answer ↔ Heard past (.stateOfTicket key) answer := by
  refine ⟨fun h => ?_, Heard.append⟩
  refine (List.mem_append.1 h).resolve_right fun hx => ?_
  cases only _ hx

theorem Earned.append (h : Earned past r e) (only : Only Operation.isNeutral said) :
    Earned (past ++ said) r e where
  spares := only_append.2
    ⟨h.spares, fun x hx => sparesRevocations_of_isNeutral (only x hx)⟩
  completed key hk heard :=
    (h.completed key hk ((heard_stateOfTicket_append only).1 heard)).mono
      (List.prefix_append past said)

theorem Earned.append_provides (h : Earned past r e) (only : Only Operation.provides said) :
    Earned (past ++ said) r e :=
  h.append fun x hx => isNeutral_of_provides (only x hx)

theorem earned_of_neutral (only : Only Operation.isNeutral past) : Earned past r e where
  spares x hx := sparesRevocations_of_isNeutral (only x hx)
  completed key _ heard := by cases only _ heard

theorem writeStatus_credited {retry : Retry} {left : Nat} (found : Found name past r e)
    (earned : Earned past r e) :
    (writeStatus retry u left held).Abides (Credited name)
      (fun _ _ => True) past := by
  induction left generalizing past held with
  | zero =>
    rw [writeStatus]
    refine abides_bind.2 (abides_ask.2 ⟨fun _ _ _ => ⟨r, e, found, earned⟩, fun answer _ => ?_⟩)
    cases answer with
    | error f => cases f <;> trivial
    | ok => trivial
  | succ left ih =>
    rw [writeStatus]
    refine abides_bind.2 (abides_ask.2 ⟨fun _ _ _ => ⟨r, e, found, earned⟩, fun answer _ => ?_⟩)
    cases answer with
    | ok => trivial
    | error f =>
      cases f with
      | conflict message =>
        refine abides_bind.2 (abides_perform.2 ⟨credited_of_spares _ _ rfl, fun _ _ => ?_⟩)
        refine abides_bind.2 (abides_ask.2 ⟨credited_of_spares _ _ rfl, fun newer _ => ?_⟩)
        cases newer with
        | error => trivial
        | ok newer =>
          simp only [andThen, List.append_assoc]
          have only : Only Operation.isNeutral ([⟨.call (.putStatus (held.record u)),
              .error (.conflict message)⟩] ++ ([⟨.sleep (retry.pauseAfter
                (retry.attempts - (left + 1))), ()⟩] ++
              [⟨.call (.requestNamed held.name), .ok newer⟩])) := by
            simp [Only, Operation.isNeutral]
          exact ih (found.mono (List.prefix_append past _)) (earned.append only)
      | _ => trivial

theorem finishTicket_credited :
    (finishTicket key e).Abides (Credited name) (fun result past' => ∃ said, past' = past ++ said ∧
      Only Operation.provides said ∧ (result = .ok () → Completed said e key)) past := by
  refine abides_bind.2 (abides_ask.2 ⟨credited_of_spares _ _ rfl, fun note _ => ?_⟩)
  cases note with
  | error f =>
    cases f with
    | notFound message =>
      exact ⟨_, rfl, only_singleton.2 rfl, fun _ => .inr ⟨message, by simp [Heard]⟩⟩
    | _ => exact ⟨_, rfl, only_singleton.2 rfl, by simp⟩
  | ok =>
    refine abides_bind.2 (abides_ask.2 ⟨credited_of_spares _ _ rfl, fun answer _ => ?_⟩)
    have ends {done : Prop} (h : done → Moved [⟨.call (.commentOn key Ticket.doneNote), .ok ()⟩,
        ⟨.call (.transition key e.rulebook.completeTransition), answer⟩] key
          e.rulebook.completeTransition) :
        ∃ said, past ++ [⟨.call (.commentOn key Ticket.doneNote), .ok ()⟩] ++
            [⟨.call (.transition key e.rulebook.completeTransition), answer⟩] = past ++ said ∧
          Only Operation.provides said ∧ (done → Completed said e key) :=
      ⟨_, List.append_assoc _ _ _, by simp [Only, Operation.provides],
        fun hd => .inl ⟨by simp [Heard], h hd⟩⟩
    cases answer with
    | error f =>
      cases f with
      | notFound message => exact ends fun _ => .inr ⟨message, by simp [Heard]⟩
      | _ => exact ends (by simp)
    | ok => exact ends fun _ => .inl (by simp [Heard])

namespace Keeper

theorem record_credited (found : Found name past r e) (earned : Earned past r e) :
    (keeper.record r ⟨.succeeded, Ticket.grantedMessage, r.status.ticket⟩).Abides (Credited name)
      (fun _ _ => True) past := by
  apply Abides.bind (writeStatus_credited found earned)
  · rintro ⟨stored, result⟩ past' _ _
    cases result <;> trivial
  · intros
    trivial

theorem recordAccess_credited (found : Found name past r e) (earned : Earned past r e) :
    (keeper.recordAccess r).Abides (Credited name) (fun _ _ => True) past := by
  apply Abides.bind (record_credited found earned)
  · intro stored past' _ _
    exact (expire_confined.abides credited_of_spares).imp fun _ _ _ _ => trivial
  · intros
    trivial

theorem resume_credited (found : Found name past r e) (earned : Earned past r e) :
    (do
      if ← holdsGrant r then
        keeper.giveAccess r
        keeper.recordAccess r
      else
        keeper.reject r .ticketNotApproved "Jira ticket has not been approved"
          r.status.ticket).Abides (Credited name) (fun _ _ => True) past := by
  apply anyGrant_confined.bind_abides credited_of_provides
  intro any looked only
  replace found := found.mono (List.prefix_append past looked)
  replace earned := earned.append_provides only
  split
  · apply giveAccess_confined.bind_abides credited_of_provides
    intro _ given only
    exact recordAccess_credited (found.mono (List.prefix_append _ given))
      (earned.append_provides only)
  · exact (reject_confined.abides credited_of_spares).imp fun _ _ _ _ => trivial

theorem complete_credited (found : Found name past r e) (hk : r.status.ticket = .issue key)
    (spares : Only Operation.sparesRevocations past) :
    (do
      keeper.giveAccess r
      finishTicket key e
      keeper.recordAccess r).Abides (Credited name) (fun _ _ => True) past := by
  apply giveAccess_confined.bind_abides credited_of_provides
  intro _ given only
  apply Abides.bind finishTicket_credited
  · rintro _ _ _ ⟨told, rfl, only', completed⟩
    have neutral : Only Operation.isNeutral (given ++ told) :=
      only_append.2 ⟨fun x hx => isNeutral_of_provides (only x hx),
        fun x hx => isNeutral_of_provides (only' x hx)⟩
    refine recordAccess_credited (found.mono ?_) ⟨?_, fun key' hk' _ => ?_⟩
    · simp
    · rw [List.append_assoc]
      exact only_append.2 ⟨spares, fun x hx => sparesRevocations_of_isNeutral (neutral x hx)⟩
    · obtain rfl : key = key' := by simpa [hk] using hk'
      exact (completed rfl).prepend
  · intros
    trivial

theorem openWindow_credited (found : Found name past r e)
    (neutral : Only Operation.isNeutral past) :
    (keeper.openWindow r e).Abides (Credited name) (fun _ _ => True) past := by
  refine abides_bind.2 (abides_now.2 ⟨credited_of_spares _ _ rfl, fun t => ?_⟩)
  simp only [andThen]
  replace found := found.mono (List.prefix_append past [⟨.clock, t⟩])
  replace neutral : Only Operation.isNeutral (past ++ [⟨.clock, t⟩]) :=
    only_append.2 ⟨neutral, only_singleton.2 rfl⟩
  generalize past ++ [⟨.clock, t⟩] = past at *
  split
  · trivial
  · cases hk : r.status.ticket.key? with
    | none => exact resume_credited found (earned_of_neutral neutral)
    | some key =>
      rw [TicketLink.key?_eq_some] at hk
      refine abides_bind.2 (abides_bind.2 (abides_ask.2
        ⟨credited_of_spares _ _ rfl, fun answer _ => ?_⟩))
      have found := found.mono (List.prefix_append past [⟨.call (.stateOfTicket key), answer⟩])
      have spares : Only Operation.sparesRevocations
          (past ++ [⟨.call (.stateOfTicket key), answer⟩]) :=
        only_append.2 ⟨fun x hx => sparesRevocations_of_isNeutral (neutral x hx),
          only_singleton.2 rfl⟩
      -- an answer that is no approval leaves nothing to be completed
      have unapproved (h : answer ≠ .ok e.rulebook.approvedStatus) :
          Earned (past ++ [⟨.call (.stateOfTicket key), answer⟩]) r e := by
        refine ⟨spares, fun key' hk' heard => ?_⟩
        cases List.mem_append.1 heard with
        | inl hx => cases neutral _ hx
        | inr hx =>
          cases List.mem_singleton.1 hx
          exact absurd rfl h
      cases answer with
      | error f =>
        cases f with
        | notFound message => exact resume_credited found (unapproved (by simp))
        | _ => trivial
      | ok status =>
        change Program.Abides _ _ (if decide (status = _) = true then _ else _) _
        split
        · next happ =>
          obtain rfl := of_decide_eq_true happ
          exact complete_credited found hk spares
        · next happ =>
          exact resume_credited found (unapproved fun h => happ (by simpa using h))

theorem proceed_credited (hp : Found name past r e) (neutral : Only Operation.isNeutral past) :
    (keeper.proceed r e).Abides (Credited name) (fun _ _ => True) past := by
  have spared {p : Program Outcome} (h : p.Confined Operation.sparesSuccess) :
      p.Abides (Credited name) (fun _ _ => True) past :=
    (h.abides credited_of_spares).imp fun _ _ _ _ => trivial
  rw [proceed]
  split
  · exact spared clearRejected_confined
  · exact spared review_confined
  · exact openWindow_credited hp neutral
  · exact spared expire_confined
  · exact spared expire_confined

theorem reconcile_credited {lastKnown : List String} :
    (keeper.reconcile name lastKnown).Abides (Credited name) (fun _ _ => True) [] := by
  refine abides_bind.2 (abides_ask.2 ⟨credited_of_spares _ _ rfl, fun answer _ => ?_⟩)
  cases answer with
  | error f =>
    cases f with
    | notFound message =>
      exact revokeIn_confined.bind_abides
        (fun past op h => credited_of_spares past op (sparesSuccess_of_revokes h))
        fun _ _ _ => trivial
    | _ => trivial
  | ok r =>
    refine abides_bind.2 ⟨credited_of_spares _ _ rfl, fun edition _ => ?_⟩
    cases edition with
    | none => trivial
    | some e =>
      exact proceed_credited (List.prefix_refl _) (by simp [Only, Operation.isNeutral])

end Keeper

end Lifecycle

open Lifecycle

theorem Visit.earned {name : String} {v : Visit name} {m : Moment} {before after : List Moment}
    {w : Request} (hv : v.moments = before ++ m :: after) (hop : m.op = .call (.putStatus w))
    (hw : w.status.phase = .succeeded) :
    ∃ r e, Found name (before.map Moment.said) r e ∧ Earned (before.map Moment.said) r e ∧
      r.status.phase = .preApproved ∧ w.status.ticket = r.status.ticket ∧
      Provided (before.map Moment.said) r ∧
      ((∃ key, Approved (before.map Moment.said) r e key) ∨
        Holding (before.map Moment.said) r) := by
  have credited : Credited name (before.map Moment.said) m.op := by
    have := (v.talk.abides Keeper.reconcile_credited v.faithful).1
      (before.map Moment.said) m.said (after.map Moment.said) (by simp [hv])
    rwa [List.nil_append] at this
  obtain ⟨r, e, found, earned⟩ := credited w hop hw
  obtain ⟨r', e', found', -, u, held, rfl, -, dec, -⟩ := v.found_of_write hv hop
  obtain ⟨rfl, rfl⟩ := found'.unique found (List.prefix_refl _)
  have hu : u.phase = .succeeded := hw
  have hp : r'.status.phase = .preApproved := by
    cases dec <;> first | assumption | cases hu
  obtain ⟨rfl, provided, why⟩ := dec.of_succeeded hu
  exact ⟨r', e', found, earned, hp, rfl, provided, why⟩

end AccessWindow
