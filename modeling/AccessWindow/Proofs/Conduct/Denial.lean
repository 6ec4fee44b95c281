import AccessWindow.Proofs.Conduct.Failure

namespace AccessWindow

open Lifecycle Program

def Call.denies : Call → Fault → Bool
  | .addGrant _, f => f.isTaken
  | .requestNamed _, f | .putStatus _, f | .removeRequest _, f | .removeGrant _ _, f
  | .commentOn _ _, f | .transition _ _, f | .stateOfTicket _, f | .accountOf _, f => f.isAbsent
  | _, _ => false

/-- An edition is in force, and a call that fails is denied because of what there is. -/
def Turn.Civil : Turn → Prop
  | ⟨.call c, .error f⟩ => c.denies f
  | ⟨.edition, none⟩ => False
  | _ => True

/-- The calls whose denial ends a visit: a step cannot be put on record, or the ticket of a request
under review cannot be commented on. -/
def Call.Binds (reviewing : Prop) : Call → Prop
  | .putStatus _ => True
  | .commentOn _ _ => reviewing
  | _ => False

def Denied (reviewing : Prop) (talk : List Turn) (f : Fault) : Prop :=
  ∃ c : Call, c.Binds reviewing ∧ Heard talk c (.error f)

variable {α β : Type} {talk past said : List Turn} {f : Fault} {c : Call} {reviewing : Prop}

theorem eq_notFound_of_isAbsent (h : f.isAbsent) : ∃ message, f = .notFound message := by
  cases f with
  | notFound message => exact ⟨message, rfl⟩
  | _ => cases h

theorem eq_alreadyExists_of_isTaken (h : f.isTaken) : ∃ message, f = .alreadyExists message := by
  cases f with
  | alreadyExists message => exact ⟨message, rfl⟩
  | _ => cases h

@[simp] theorem denied_append :
    Denied reviewing (past ++ said) f ↔ Denied reviewing past f ∨ Denied reviewing said f := by
  simp only [Denied, Heard, List.mem_append, and_or_left, exists_or]

@[simp] theorem not_denied_nil : ¬Denied reviewing [] f := by
  simp [Denied, Heard]

theorem not_denied_singleton {x : Turn} (h : ∀ c, c.Binds reviewing → x.1 ≠ .call c) :
    ¬Denied reviewing [x] f := by
  rintro ⟨c, hc, heard⟩
  exact h c hc (congrArg Sigma.fst (List.mem_singleton.1 heard)).symm

theorem denied_singleton (h : c.Binds reviewing) {answer : Except Fault c.Answer} :
    Denied reviewing [⟨.call c, answer⟩] f ↔ answer = .error f := by
  constructor
  · rintro ⟨c', -, heard⟩
    cases List.mem_singleton.1 heard
    rfl
  · rintro rfl
    exact ⟨c, h, List.mem_singleton.2 rfl⟩

namespace Program

variable {p : Program α} {next : α → Program β}

/-- As long as everything is civil, the program fails just when a call that binds it is denied. -/
def FailsBy (reviewing : Prop) (p : Program α) : Prop :=
  ∀ talk result, p.Dialogue talk (some result) → (∀ x ∈ talk, x.Civil) →
    ∀ f, result = .error f ↔ Denied reviewing talk f

theorem failsBy_pure {a : α} : (pure a : Program α).FailsBy reviewing := by
  intro talk result d civil f
  obtain ⟨rfl, rfl⟩ := d.of_done
  simp

theorem FailsBy.bind (h : p.FailsBy reviewing) (rest : ∀ a, (next a).FailsBy reviewing) :
    (p >>= next).FailsBy reviewing := by
  intro talk result d civil f
  cases d.of_bind with
  | inl parts =>
    obtain ⟨a, said, later, rfl, first, second⟩ := parts
    have ⟨civil, civil'⟩ := List.forall_mem_append.1 civil
    have passed : ¬Denied reviewing said f := fun denied => nomatch (h _ _ first civil f).2 denied
    rw [denied_append, rest a _ _ second civil' f, or_iff_right passed]
  | inr failed =>
    obtain ⟨fault, first, rfl⟩ := failed
    rw [← h _ _ first civil f]
    simp

theorem failsBy_perform {op : Operation} (h : ∀ c, c.Binds reviewing → op ≠ .call c) :
    (perform op).FailsBy reviewing := by
  intro talk result d civil f
  obtain ⟨answer, rest, rfl, later⟩ := Dialogue.of_step d
  obtain ⟨rfl, rfl⟩ := later.of_done
  have nothing : ¬Denied reviewing [(⟨op, answer⟩ : Turn)] f := not_denied_singleton h
  simp [nothing]

theorem failsBy_now : now.FailsBy reviewing := failsBy_perform fun _ _ h => nomatch h

theorem failsBy_ask {next : Except Fault c.Answer → Program α} (h : ¬c.Binds reviewing)
    (rest : ∀ answer, Turn.Civil ⟨.call c, answer⟩ → (next answer).FailsBy reviewing) :
    (ask c >>= next).FailsBy reviewing := by
  intro talk result d civil f
  obtain ⟨answer, said, rfl, later⟩ := d.of_ask
  have ⟨civil, civil'⟩ := List.forall_mem_cons.1 civil
  have passed : ¬Denied reviewing [⟨.call c, answer⟩] f :=
    not_denied_singleton fun c' hc heq => h (by cases heq; exact hc)
  rw [rest answer civil _ _ later civil' f, ← List.singleton_append, denied_append,
    or_iff_right passed]

theorem failsBy_ask_absent {next : Except Fault c.Answer → Program α} (h : ¬c.Binds reviewing)
    (absent : ∀ f, c.denies f → f.isAbsent) (ok : ∀ a, (next (.ok a)).FailsBy reviewing)
    (gone : ∀ message, (next (.error (.notFound message))).FailsBy reviewing) :
    (ask c >>= next).FailsBy reviewing := by
  refine failsBy_ask h fun answer civil => ?_
  cases answer with
  | ok a => exact ok a
  | error f =>
    obtain ⟨message, rfl⟩ := eq_notFound_of_isAbsent (absent f civil)
    exact gone message

theorem failsBy_call (h : c.Binds reviewing ∨ ∀ f, c.denies f = false) :
    (call c).FailsBy reviewing := by
  intro talk result d civil f
  obtain ⟨answer, rest, rfl, later⟩ := d.of_step
  obtain ⟨rfl, he⟩ := later.of_done
  rw [he]
  cases h with
  | inl binds => exact (denied_singleton binds).symm
  | inr never =>
    have served : answer ≠ .error f := by
      rintro rfl
      have : c.denies f := civil _ List.mem_cons_self
      simp [never f] at this
    refine iff_of_false served fun ⟨c', _, heard⟩ => served ?_
    cases List.mem_singleton.1 heard
    rfl

theorem Dialogue.of_attempt {result : Except Fault (Except Fault α)}
    (d : p.attempt.Dialogue talk (some result)) :
    ∃ inner, result = .ok inner ∧ p.Dialogue talk (some inner) := by
  induction p generalizing talk with
  | done inner =>
    obtain ⟨rfl, rfl⟩ := d.of_done
    exact ⟨inner, rfl, .ended⟩
  | step op k ih =>
    obtain ⟨answer, rest, rfl, later⟩ := Dialogue.of_step d
    obtain ⟨inner, rfl, attempted⟩ := ih answer later
    exact ⟨inner, rfl, .said attempted⟩

end Program

namespace Validator

theorem account?_failsBy {handle : String} : (account? handle).FailsBy reviewing :=
  failsBy_ask_absent id (fun _ => id) (fun _ => failsBy_pure) fun _ => failsBy_pure

theorem scopeViolation?_failsBy {spec : Request.Spec} {e : Edition} {withLabels : Bool} :
    (scopeViolation? spec e withLabels).FailsBy reviewing := by
  rw [scopeViolation?]
  split
  · exact failsBy_pure
  · split
    · exact failsBy_pure
    · exact (failsBy_call (.inr fun _ => rfl)).bind fun _ => failsBy_pure

end Validator

namespace Lifecycle

variable {r stored : Request} {e : Edition} {u : Request.Update} {key : String} {keeper : Keeper}

theorem createAll_failsBy {grants : List Grant} : (createAll grants).FailsBy reviewing := by
  induction grants with
  | nil => exact failsBy_pure
  | cons g grants ih =>
    refine failsBy_ask id fun answer civil => ?_
    cases answer with
    | ok => exact ih
    | error f =>
      obtain ⟨message, rfl⟩ := eq_alreadyExists_of_isTaken civil
      exact ih

theorem anyGrant_failsBy {owner : String} {scopes : List String} :
    (anyGrant owner scopes).FailsBy reviewing := by
  induction scopes with
  | nil => exact failsBy_pure
  | cons scope scopes ih =>
    refine (failsBy_call (.inr fun _ => rfl)).bind fun grants => ?_
    split
    · exact failsBy_pure
    · exact ih

theorem deleteAll_failsBy {scope : String} {grants : List Grant} :
    (deleteAll scope grants).FailsBy reviewing := by
  induction grants with
  | nil => exact failsBy_pure
  | cons g grants ih =>
    exact failsBy_ask_absent id (fun _ => id) (fun _ => ih.bind fun _ => failsBy_pure) fun _ => ih

theorem revokeIn_failsBy {owner : String} {scopes : List String} :
    (revokeIn owner scopes).FailsBy reviewing := by
  induction scopes with
  | nil => exact failsBy_pure
  | cons scope scopes ih =>
    exact (failsBy_call (.inr fun _ => rfl)).bind fun _ => deleteAll_failsBy.bind fun _ =>
      ih.bind fun _ => failsBy_pure

theorem removeRequest_failsBy : (removeRequest r).FailsBy reviewing :=
  failsBy_ask_absent id (fun _ => id) (fun _ => failsBy_pure) fun _ => failsBy_pure

theorem declineTicket_failsBy (h : ¬reviewing) : (declineTicket r key e).FailsBy reviewing :=
  failsBy_ask_absent id (fun _ => id) (fun _ => failsBy_ask h fun _ _ => failsBy_pure) fun _ =>
    failsBy_pure

theorem clearRejected_failsBy (h : ¬reviewing) : (clearRejected r e).FailsBy reviewing := by
  refine revokeIn_failsBy.bind fun _ => ?_
  split
  · exact (declineTicket_failsBy h).bind fun _ => removeRequest_failsBy
  · exact removeRequest_failsBy

theorem expire_failsBy : (expire r).FailsBy reviewing := by
  refine failsBy_now.bind fun t => ?_
  split
  · exact failsBy_pure
  · exact revokeIn_failsBy.bind fun _ => removeRequest_failsBy

theorem ticketApproved_failsBy : (ticketApproved key e).FailsBy reviewing :=
  failsBy_ask_absent id (fun _ => id) (fun _ => failsBy_pure) fun _ => failsBy_pure

theorem finishTicket_failsBy (h : ¬reviewing) : (finishTicket key e).FailsBy reviewing := by
  refine failsBy_ask_absent h (fun _ => id) (fun _ => ?_) fun _ => failsBy_pure
  exact failsBy_ask_absent id (fun _ => id) (fun _ => failsBy_pure) fun _ => failsBy_pure

theorem writeStatus_civil {retry : Retry} {left : Nat} {result : Except Fault _}
    (d : (writeStatus retry u left r).Dialogue talk (some result)) (civil : ∀ x ∈ talk, x.Civil) :
    ∃ (answer : Except Fault Request) (q : Request),
      talk = [⟨.call (.putStatus (r.record u)), answer⟩] ∧
        result = .ok (q, answer.map fun _ => ()) := by
  cases left <;>
    · rw [writeStatus] at d
      obtain ⟨answer, rest, rfl, later⟩ := d.of_ask
      cases answer with
      | ok stored =>
        obtain ⟨rfl, rfl⟩ := later.of_done
        exact ⟨.ok stored, stored, rfl, rfl⟩
      | error f =>
        obtain ⟨message, rfl⟩ := eq_notFound_of_isAbsent (civil _ List.mem_cons_self)
        obtain ⟨rfl, rfl⟩ := later.of_done
        exact ⟨_, r, rfl, rfl⟩

namespace Keeper

variable {reason : Event.Reason} {message : String} {ticket : TicketLink}

theorem record_failsBy : (keeper.record r u).FailsBy reviewing := by
  intro talk result d civil f
  cases d.of_bind with
  | inl parts =>
    obtain ⟨written, said, rest, rfl, first, second⟩ := parts
    have ⟨civil, civil'⟩ := List.forall_mem_append.1 civil
    obtain ⟨answer, q, rfl, he⟩ := writeStatus_civil first civil
    cases he
    have binds : (Call.putStatus (r.record u)).Binds reviewing := trivial
    cases answer with
    | ok stored =>
      obtain ⟨rfl, rfl⟩ := second.of_done
      simp [denied_singleton binds]
    | error f' =>
      obtain ⟨rfl, rfl⟩ := second.of_done
      simp [denied_singleton binds]
  | inr failed =>
    obtain ⟨_, first, -⟩ := failed
    obtain ⟨_, _, _, he⟩ := writeStatus_civil first civil
    cases he

theorem announce_failsBy : (keeper.announce r reason message).FailsBy reviewing := by
  rw [announce]
  split
  · exact failsBy_ask id fun _ _ => failsBy_pure
  · exact failsBy_pure

theorem reject_failsBy : (keeper.reject r reason message ticket).FailsBy reviewing :=
  announce_failsBy.bind fun _ => record_failsBy.bind fun _ => failsBy_pure

theorem giveAccess_failsBy (h : ¬reviewing) : (keeper.giveAccess r).FailsBy reviewing := by
  intro talk result d civil f
  have confined : (grantAll r).attempt.Confined Operation.provides := createAll_confined.attempt
  cases d.of_bind with
  | inr failed =>
    obtain ⟨_, first, -⟩ := failed
    obtain ⟨_, he, -⟩ := Dialogue.of_attempt first
    cases he
  | inl parts =>
    obtain ⟨outcome, said, rest, rfl, first, second⟩ := parts
    have ⟨civil, civil'⟩ := List.forall_mem_append.1 civil
    obtain ⟨inner, he, created⟩ := Dialogue.of_attempt first
    cases he
    have free {f : Fault} : ¬Denied reviewing said f := by
      rintro ⟨c, binds, heard⟩
      have provides := confined.only first _ heard
      cases c with
      | putStatus => cases provides
      | commentOn => exact h binds
      | _ => exact binds
    cases outcome with
    | error f' => exact absurd ((createAll_failsBy _ _ created civil f').1 rfl) free
    | ok =>
      obtain ⟨rfl, rfl⟩ := second.of_done
      simp [free]

theorem recordAccess_failsBy : (keeper.recordAccess r).FailsBy reviewing :=
  record_failsBy.bind fun _ => expire_failsBy

theorem openWindow_failsBy (h : ¬reviewing) : (keeper.openWindow r e).FailsBy reviewing := by
  have unapproved : (do
      if ← holdsGrant r then
        keeper.giveAccess r
        keeper.recordAccess r
      else
        keeper.reject r .ticketNotApproved "Jira ticket has not been approved"
          r.status.ticket).FailsBy reviewing := by
    refine anyGrant_failsBy.bind fun holds => ?_
    split
    · exact (giveAccess_failsBy h).bind fun _ => recordAccess_failsBy
    · exact reject_failsBy
  refine failsBy_now.bind fun t => ?_
  split
  · exact failsBy_pure
  · cases r.status.ticket.key? with
    | none => exact unapproved
    | some key =>
      refine ticketApproved_failsBy.bind fun approved => ?_
      dsimp only
      split
      · exact (giveAccess_failsBy h).bind fun _ => (finishTicket_failsBy h).bind fun _ =>
          recordAccess_failsBy
      · exact unapproved

theorem awaitWindow_failsBy (h : reviewing) : (keeper.awaitWindow r key e).FailsBy reviewing := by
  have noted {body : String} : (call (.commentOn key body)).FailsBy reviewing :=
    failsBy_call (.inl h)
  refine failsBy_now.bind fun t => ?_
  split
  · exact reject_failsBy
  · exact noted.bind fun _ => announce_failsBy.bind fun _ =>
      record_failsBy.bind fun _ => failsBy_pure

theorem judge_failsBy (h : reviewing) : (keeper.judge r key e).FailsBy reviewing := by
  rw [judge]
  split
  · exact reject_failsBy
  · split
    · exact reject_failsBy
    · refine Validator.scopeViolation?_failsBy.bind fun violation => ?_
      split
      · exact reject_failsBy
      · exact awaitWindow_failsBy h

theorem requestApproval_failsBy : (keeper.requestApproval r e).FailsBy reviewing := by
  refine Validator.account?_failsBy.bind fun account => ?_
  split
  · exact reject_failsBy.bind fun _ => failsBy_pure
  · exact (failsBy_call (.inr fun _ => rfl)).bind fun key => record_failsBy.bind fun _ =>
      failsBy_pure

theorem review_failsBy (hp : r.status.phase = .fresh) :
    (keeper.review r e).FailsBy (Reviewable r e) := by
  rw [review]
  split
  · next hskip => exact clearRejected_failsBy fun reviewable => reviewable.ticket hskip
  · next hskip =>
    split
    · exact reject_failsBy
    · next hfield =>
      have reviewable : Reviewable r e := ⟨hp, hskip, Option.eq_none_iff_forall_ne_some.2 hfield⟩
      split
      · exact judge_failsBy reviewable
      · refine requestApproval_failsBy.bind fun asked => ?_
        split
        · exact judge_failsBy reviewable
        · exact failsBy_pure

theorem proceed_failsBy : (keeper.proceed r e).FailsBy (Reviewable r e) := by
  have other (h : r.status.phase ≠ .fresh) : ¬Reviewable r e := fun reviewable =>
    h reviewable.fresh
  rw [proceed]
  split
  · next hp => exact clearRejected_failsBy (other (by simp [hp]))
  · next hp => exact review_failsBy hp
  · next hp => exact openWindow_failsBy (other (by simp [hp]))
  · exact expire_failsBy
  · exact expire_failsBy

theorem reconcile_failsBy {name : String} {lastKnown : List String}
    {result : Except Fault Outcome}
    (d : (keeper.reconcile name lastKnown).Dialogue talk (some result))
    (civil : ∀ x ∈ talk, x.Civil) :
    result = .error f ↔ Denied (∃ r e, Found name talk r e ∧ Reviewable r e) talk f := by
  obtain ⟨answer, rest, rfl, later⟩ := d.of_ask
  have ⟨here, after⟩ := List.forall_mem_cons.1 civil
  cases answer with
  | error f' =>
    obtain ⟨message, rfl⟩ := eq_notFound_of_isAbsent here
    rw [← List.singleton_append, denied_append, or_iff_right]
    · exact (revokeIn_failsBy.bind fun _ => failsBy_pure) _ _ later after f
    · exact not_denied_singleton fun c hc heq => by cases heq; exact hc
  | ok r =>
    obtain ⟨current, rest, rfl, last⟩ := Dialogue.of_step later
    have ⟨loaded, rest_civil⟩ := List.forall_mem_cons.1 after
    cases current with
    | none => exact loaded.elim
    | some e =>
      have found : Found name (⟨.call (.requestNamed name), .ok r⟩ :: ⟨.edition, some e⟩ :: rest)
          r e := List.prefix_append [_, _] rest
      have same : (∃ r' e', Found name (⟨.call (.requestNamed name), .ok r⟩ ::
          ⟨.edition, some e⟩ :: rest) r' e' ∧ Reviewable r' e') ↔ Reviewable r e := by
        constructor
        · rintro ⟨r', e', found', reviewable⟩
          obtain ⟨rfl, rfl⟩ := found'.unique found (List.prefix_refl _)
          exact reviewable
        · exact fun reviewable => ⟨r, e, found, reviewable⟩
      rw [same, ← List.singleton_append, denied_append, or_iff_right, ← List.singleton_append,
        denied_append, or_iff_right]
      · exact proceed_failsBy _ _ last rest_civil f
      · exact not_denied_singleton fun c hc heq => nomatch heq
      · exact not_denied_singleton fun c hc heq => by cases heq; exact hc

end Keeper

end Lifecycle

end AccessWindow
