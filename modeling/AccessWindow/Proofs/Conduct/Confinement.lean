import AccessWindow.Proofs.Conduct.Permission

namespace AccessWindow

namespace Program

variable {α β : Type} {p : Program α} {f : α → Program β} {kind : Operation → Bool}
  {may : List Turn → Operation → Prop} {past : List Turn}

def Confined (kind : Operation → Bool) : Program α → Prop
  | done _ => True
  | step op next => kind op ∧ ∀ answer, (next answer).Confined kind

@[simp] theorem confined_perform {op : Operation} : (perform op).Confined kind ↔ kind op := by
  simp [perform, Confined]

@[simp] theorem confined_ask {c : Call} : (ask c).Confined kind ↔ kind (.call c) :=
  confined_perform

@[simp] theorem confined_call {c : Call} : (call c).Confined kind ↔ kind (.call c) := by
  simp [call, Confined]

namespace Confined

theorem bind (h : p.Confined kind) (next : ∀ a, (f a).Confined kind) :
    (p >>= f).Confined kind := by
  change (p.bind f).Confined kind
  induction p with
  | done result =>
    cases result with
    | ok a => exact next a
    | error => trivial
  | step op k ih => exact ⟨h.1, fun answer => ih answer (h.2 answer)⟩

theorem attempt (h : p.Confined kind) : p.attempt.Confined kind := by
  induction p with
  | done => trivial
  | step op k ih => exact ⟨h.1, fun answer => ih answer (h.2 answer)⟩

theorem mono {wider : Operation → Bool} (h : p.Confined kind) (imp : ∀ op, kind op → wider op) :
    p.Confined wider := by
  induction p with
  | done => trivial
  | step op k ih => exact ⟨imp op h.1, fun answer => ih answer (h.2 answer)⟩

theorem abides (h : p.Confined kind) (admits : ∀ past op, kind op → may past op) :
    p.Abides may (fun _ past' => ∃ said, past' = past ++ said ∧ Only kind said) past := by
  induction p generalizing past with
  | done => exact ⟨[], by simp, by simp⟩
  | step op k ih =>
    refine ⟨admits past op h.1, fun answer _ => ?_⟩
    apply (ih answer (h.2 answer)).imp
    rintro _ _ _ ⟨said, rfl, only⟩
    exact ⟨⟨op, answer⟩ :: said, by simp, List.forall_mem_cons.2 ⟨h.1, only⟩⟩

theorem bind_abides (h : p.Confined kind) (admits : ∀ past op, kind op → may past op)
    (next : ∀ a said, Only kind said →
      (f a).Abides may (fun _ _ => True) (past ++ said)) :
    (p >>= f).Abides may (fun _ _ => True) past := by
  apply Abides.bind (h.abides admits)
  · rintro a _ _ ⟨said, rfl, only⟩
    exact next a said only
  · intros
    trivial

end Confined

end Program

def Operation.sparesSuccess : Operation → Bool
  | .call (.putStatus w) => w.status.phase ≠ .succeeded
  | _ => true

def Operation.provides : Operation → Bool
  | .call (.addGrant _) | .call (.grantsWithin _) | .call (.publishEvent _)
  | .call (.commentOn _ _) | .call (.transition _ _) => true
  | _ => false

def Operation.sparesRequest : Operation → Bool
  | .call (.putStatus _) | .call (.removeRequest _) => false
  | _ => true

def Operation.revokes : Operation → Bool
  | .call (.grantsWithin _) | .call (.removeGrant _ _) => true
  | _ => false

theorem sparesSuccess_of_sparesRequest {op : Operation} (h : op.sparesRequest) :
    op.sparesSuccess := by
  cases op with
  | call c => cases c <;> first | rfl | cases h
  | _ => rfl

theorem sparesRequest_of_provides {op : Operation} (h : op.provides) : op.sparesRequest := by
  cases op with
  | call c => cases c <;> first | rfl | cases h
  | _ => rfl

theorem sparesSuccess_of_provides {op : Operation} (h : op.provides) : op.sparesSuccess :=
  sparesSuccess_of_sparesRequest (sparesRequest_of_provides h)

theorem sparesRequest_of_revokes {op : Operation} (h : op.revokes) : op.sparesRequest := by
  cases op with
  | call c => cases c <;> first | rfl | cases h
  | _ => rfl

theorem sparesSuccess_of_revokes {op : Operation} (h : op.revokes) : op.sparesSuccess :=
  sparesSuccess_of_sparesRequest (sparesRequest_of_revokes h)

namespace Validator

open Program

variable {kind : Operation → Bool}

theorem account?_confined {handle : String} (asks : kind (.call (.accountOf handle))) :
    (account? handle).Confined kind := by
  refine .bind (confined_ask.2 asks) fun answer => ?_
  split <;> trivial

theorem scopeViolation?_confined {spec : Request.Spec} {e : Edition} {withLabels : Bool}
    (asks : kind (.call (.namespacesWith spec.labels))) :
    (scopeViolation? spec e withLabels).Confined kind := by
  rw [scopeViolation?]
  split
  · trivial
  · split
    · trivial
    · exact .bind (confined_call.2 asks) fun _ => trivial

end Validator

namespace Lifecycle

open Program

variable {key : String} {r : Request} {e : Edition} {u : Request.Update} {keeper : Keeper}

theorem createAll_confined {grants : List Grant} :
    (createAll grants).Confined Operation.provides := by
  induction grants with
  | nil => trivial
  | cons g grants ih =>
    refine .bind (confined_ask.2 rfl) fun answer => ?_
    split
    · exact ih
    · exact ih
    · trivial

theorem anyGrant_confined {owner : String} {scopes : List String} :
    (anyGrant owner scopes).Confined Operation.provides := by
  induction scopes with
  | nil => trivial
  | cons scope scopes ih =>
    refine .bind (confined_call.2 rfl) fun grants => ?_
    split
    · trivial
    · exact ih

theorem Keeper.announce_confined {reason : Event.Reason} {message : String} :
    (keeper.announce r reason message).Confined Operation.provides := by
  rw [announce]
  split
  · exact .bind (confined_ask.2 rfl) fun _ => trivial
  · trivial

theorem Keeper.giveAccess_confined : (keeper.giveAccess r).Confined Operation.provides := by
  refine .bind createAll_confined.attempt fun result => ?_
  split
  · trivial
  · exact .bind announce_confined fun _ => trivial

theorem deleteAll_confined {scope : String} {grants : List Grant} :
    (deleteAll scope grants).Confined Operation.revokes := by
  induction grants with
  | nil => trivial
  | cons g grants ih =>
    refine .bind (confined_ask.2 rfl) fun answer => ?_
    split
    · exact .bind ih fun _ => trivial
    · exact ih
    · trivial

theorem revokeIn_confined {owner : String} {scopes : List String} :
    (revokeIn owner scopes).Confined Operation.revokes := by
  induction scopes with
  | nil => trivial
  | cons scope scopes ih =>
    exact .bind (confined_call.2 rfl) fun _ => .bind deleteAll_confined fun _ =>
      .bind ih fun _ => trivial

theorem removeRequest_confined : (removeRequest r).Confined Operation.sparesSuccess := by
  refine .bind (confined_ask.2 rfl) fun answer => ?_
  split <;> trivial

theorem declineTicket_confined : (declineTicket r key e).Confined Operation.sparesRequest := by
  refine .bind (confined_ask.2 rfl) fun answer => ?_
  split
  · exact .bind (confined_ask.2 rfl) fun _ => trivial
  · trivial
  · trivial

theorem clearRejected_confined : (clearRejected r e).Confined Operation.sparesSuccess := by
  refine .bind (revokeIn_confined.mono fun _ => sparesSuccess_of_revokes) fun _ => ?_
  split
  · exact .bind (declineTicket_confined.mono fun _ => sparesSuccess_of_sparesRequest) fun _ =>
      removeRequest_confined
  · exact removeRequest_confined

theorem expire_confined : (expire r).Confined Operation.sparesSuccess := by
  refine .bind (confined_perform.2 rfl) fun t => ?_
  split
  · trivial
  · exact .bind (revokeIn_confined.mono fun _ => sparesSuccess_of_revokes) fun _ =>
      removeRequest_confined

theorem writeStatus_confined {retry : Retry} {left : Nat} (hu : u.phase ≠ .succeeded) :
    (writeStatus retry u left r).Confined Operation.sparesSuccess := by
  have write {r : Request} : Operation.sparesSuccess (.call (.putStatus (r.record u))) :=
    decide_eq_true hu
  induction left generalizing r with
  | zero =>
    rw [writeStatus]
    refine .bind (confined_ask.2 write) fun answer => ?_
    split <;> trivial
  | succ left ih =>
    rw [writeStatus]
    refine .bind (confined_ask.2 write) fun answer => ?_
    split
    · trivial
    · refine .bind (confined_perform.2 rfl) fun _ => .bind (confined_ask.2 rfl) fun newer => ?_
      split
      · exact ih
      · trivial
    · trivial

namespace Keeper

theorem record_confined (hu : u.phase ≠ .succeeded) :
    (keeper.record r u).Confined Operation.sparesSuccess := by
  refine .bind (writeStatus_confined hu) fun written => ?_
  split <;> trivial

theorem reject_confined {reason : Event.Reason} {message : String} {ticket : TicketLink} :
    (keeper.reject r reason message ticket).Confined Operation.sparesSuccess :=
  .bind (announce_confined.mono fun _ => sparesSuccess_of_provides) fun _ =>
    .bind (record_confined (by simp)) fun _ => trivial

theorem requestApproval_confined :
    (keeper.requestApproval r e).Confined Operation.sparesSuccess := by
  refine .bind (Validator.account?_confined rfl) fun account => ?_
  split
  · exact .bind reject_confined fun _ => trivial
  · exact .bind (confined_call.2 rfl) fun key => .bind (record_confined (by simp)) fun _ => trivial

theorem awaitWindow_confined : (keeper.awaitWindow r key e).Confined Operation.sparesSuccess := by
  refine .bind (confined_perform.2 rfl) fun t => ?_
  split
  · exact reject_confined
  · exact .bind (confined_call.2 rfl) fun _ =>
      .bind (announce_confined.mono fun _ => sparesSuccess_of_provides) fun _ =>
        .bind (record_confined (by simp)) fun _ => trivial

theorem judge_confined : (keeper.judge r key e).Confined Operation.sparesSuccess := by
  rw [judge]
  split
  · exact reject_confined
  · split
    · exact reject_confined
    · refine .bind (Validator.scopeViolation?_confined rfl) fun violation => ?_
      split
      · exact reject_confined
      · exact awaitWindow_confined

theorem review_confined : (keeper.review r e).Confined Operation.sparesSuccess := by
  rw [review]
  split
  · exact clearRejected_confined
  · split
    · exact reject_confined
    · split
      · exact judge_confined
      · refine .bind requestApproval_confined fun asked => ?_
        split
        · exact judge_confined
        · trivial

end Keeper

end Lifecycle

end AccessWindow
