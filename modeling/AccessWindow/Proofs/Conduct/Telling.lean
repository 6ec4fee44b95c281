import AccessWindow.Proofs.Conduct.Confinement

namespace AccessWindow

namespace Lifecycle

def JustMoved (past : List Turn) (key : String) : Prop :=
  ∃ id, past.getLast? = some ⟨.call (.transition key id), .ok ()⟩

/-- The operation only tells people of something: of an event, or why a ticket has just been moved,
which a visit tells only of a ticket that it declines. -/
def Tells (past : List Turn) : Operation → Prop
  | .call (.publishEvent _) => True
  | .call (.commentOn key _) => JustMoved past key
  | _ => False

def Unmoved (past : List Turn) : Prop := ∀ key, ¬JustMoved past key

end Lifecycle

def Operation.isDiscreet : Operation → Bool
  | .call (.publishEvent _) | .call (.commentOn _ _) | .call (.transition _ _) => false
  | _ => true

theorem isDiscreet_of_revokes {op : Operation} (h : op.revokes) : op.isDiscreet := by
  cases op with
  | call c => cases c <;> first | rfl | cases h
  | _ => rfl

open Lifecycle

variable {α β : Type} {past : List Turn} {op : Operation} {key : String}

theorem Lifecycle.not_tells_of_isDiscreet (h : op.isDiscreet) : ¬Tells past op := by
  cases op with
  | call c => cases c <;> first | exact id | cases h
  | _ => exact id

theorem Lifecycle.unmoved_concat {answer : op.Answer}
    (still : ∀ key id, op ≠ .call (.transition key id)) : Unmoved (past ++ [⟨op, answer⟩]) := by
  rintro key ⟨id, h⟩
  rw [List.getLast?_concat] at h
  exact still key id (congrArg Sigma.fst (Option.some.inj h))

theorem Lifecycle.unmoved_of_isDiscreet {answer : op.Answer} (h : op.isDiscreet) :
    Unmoved (past ++ [⟨op, answer⟩]) :=
  unmoved_concat fun _ _ hop => by cases hop ▸ h

namespace Program

variable {p : Program α} {f : α → Program β} {post mid : List Turn → Prop}

/-- However the program is answered, what comes of telling people makes no difference to how it goes
on, and `post` holds of what was said if it ends well. -/
def Unheeding (post : List Turn → Prop) : Program α → List Turn → Prop
  | done (.ok _), past => post past
  | done (.error _), _ => True
  | step op next, past =>
    (Tells past op → ∀ answer answer', next answer' = next answer) ∧
      ∀ answer, (next answer).Unheeding post (past ++ [⟨op, answer⟩])

namespace Unheeding

theorem bind (h : p.Unheeding mid past)
    (next : ∀ a past', mid past' → (f a).Unheeding post past') :
    (p >>= f).Unheeding post past := by
  change (p.bind f).Unheeding post past
  induction p generalizing past with
  | done result =>
    cases result with
    | ok a => exact next a past h
    | error => trivial
  | step op k ih =>
    refine ⟨fun tells answer answer' => ?_, fun answer => ih answer (h.2 answer)⟩
    exact congrArg (Program.bind · f) (h.1 tells answer answer')

theorem perform (plain : ¬Tells past op) {f : op.Answer → Program α}
    (next : ∀ answer, (f answer).Unheeding post (past ++ [⟨op, answer⟩])) :
    (Program.perform op >>= f).Unheeding post past :=
  ⟨fun tells => absurd tells plain, next⟩

theorem ask {c : Call} (plain : ¬Tells past (.call c)) {f : Except Fault c.Answer → Program α}
    (next : ∀ answer, (f answer).Unheeding post (past ++ [⟨.call c, answer⟩])) :
    (Program.ask c >>= f).Unheeding post past := perform plain next

theorem call {c : Call} (plain : ¬Tells past (.call c)) {f : c.Answer → Program α}
    (next : ∀ answer, (f answer).Unheeding post (past ++ [⟨.call c, .ok answer⟩])) :
    (Program.call c >>= f).Unheeding post past := by
  refine ⟨fun tells => absurd tells plain, fun answer => ?_⟩
  cases answer with
  | ok answer => exact next answer
  | error => trivial

end Unheeding

def Heedless (p : Program α) : Prop := ∀ past, p.Unheeding (fun _ => True) past

theorem heedless_done {result : Except Fault α} : (done result).Heedless :=
  fun _ => by cases result <;> trivial

theorem Heedless.bind (h : p.Heedless) (next : ∀ a, (f a).Heedless) : (p >>= f).Heedless :=
  fun past => .bind (h past) fun a past' _ => next a past'

theorem Confined.unheeding_of (h : p.Confined Operation.isDiscreet) (now : post past)
    (later : ∀ (past : List Turn) (op : Operation) (answer : op.Answer), op.isDiscreet →
      post (past ++ [⟨op, answer⟩])) :
    p.Unheeding post past := by
  induction p generalizing past with
  | done result =>
    cases result with
    | ok => exact now
    | error => trivial
  | step op k ih =>
    refine ⟨fun tells => absurd tells (not_tells_of_isDiscreet h.1), fun answer => ?_⟩
    exact ih answer (h.2 answer) (later past op answer h.1)

theorem Confined.heedless (h : p.Confined Operation.isDiscreet) : p.Heedless :=
  fun _ => h.unheeding_of trivial fun _ _ _ _ => trivial

theorem Confined.unheeding (h : p.Confined Operation.isDiscreet) (unmoved : Unmoved past) :
    p.Unheeding Unmoved past := h.unheeding_of unmoved fun _ _ _ => unmoved_of_isDiscreet

end Program

namespace Lifecycle

open Program

variable {r : Request} {e : Edition} {keeper : Keeper} {reason : Event.Reason} {message : String}

theorem createAll_discreet {grants : List Grant} :
    (createAll grants).Confined Operation.isDiscreet := by
  induction grants with
  | nil => trivial
  | cons g grants ih =>
    refine .bind (confined_ask.2 rfl) fun answer => ?_
    split
    · exact ih
    · exact ih
    · trivial

theorem anyGrant_discreet {owner : String} {scopes : List String} :
    (anyGrant owner scopes).Confined Operation.isDiscreet := by
  induction scopes with
  | nil => trivial
  | cons scope scopes ih =>
    refine .bind (confined_call.2 rfl) fun grants => ?_
    split
    · trivial
    · exact ih

theorem revokeIn_discreet {owner : String} {scopes : List String} :
    (revokeIn owner scopes).Confined Operation.isDiscreet :=
  revokeIn_confined.mono fun _ => isDiscreet_of_revokes

theorem removeRequest_discreet : (removeRequest r).Confined Operation.isDiscreet := by
  refine .bind (confined_ask.2 rfl) fun answer => ?_
  split <;> trivial

theorem expire_discreet : (expire r).Confined Operation.isDiscreet := by
  refine .bind (confined_perform.2 rfl) fun t => ?_
  split
  · trivial
  · exact .bind revokeIn_discreet fun _ => removeRequest_discreet

theorem ticketApproved_discreet : (ticketApproved key e).Confined Operation.isDiscreet := by
  refine .bind (confined_ask.2 rfl) fun answer => ?_
  split <;> trivial

theorem writeStatus_discreet {retry : Retry} {u : Request.Update} {left : Nat} :
    (writeStatus retry u left r).Confined Operation.isDiscreet := by
  induction left generalizing r with
  | zero =>
    rw [writeStatus]
    refine .bind (confined_ask.2 rfl) fun answer => ?_
    split <;> trivial
  | succ left ih =>
    rw [writeStatus]
    refine .bind (confined_ask.2 rfl) fun answer => ?_
    split
    · trivial
    · refine .bind (confined_perform.2 rfl) fun _ => .bind (confined_ask.2 rfl) fun newer => ?_
      split
      · exact ih
      · trivial
    · trivial

theorem declineTicket_heedless : (declineTicket r key e).Heedless := by
  intro past
  refine .ask id fun answer => ?_
  split
  · exact ⟨fun _ _ _ => rfl, fun _ => trivial⟩
  · trivial
  · trivial

theorem clearRejected_heedless : (clearRejected r e).Heedless := by
  refine .bind revokeIn_discreet.heedless fun _ => ?_
  split
  · exact .bind declineTicket_heedless fun _ => removeRequest_discreet.heedless
  · exact removeRequest_discreet.heedless

/-- What becomes of these two calls matters, so no ticket may have been moved just before. -/
theorem finishTicket_unheeding (unmoved : Unmoved past) :
    (finishTicket key e).Unheeding (fun _ => True) past := by
  refine .ask ?_ fun answer => ?_
  · exact unmoved key
  · split
    · refine .ask id fun answer => ?_
      split <;> trivial
    · trivial
    · trivial

namespace Keeper

theorem record_discreet {u : Request.Update} :
    (keeper.record r u).Confined Operation.isDiscreet := by
  refine .bind writeStatus_discreet fun written => ?_
  split <;> trivial

theorem recordAccess_discreet : (keeper.recordAccess r).Confined Operation.isDiscreet :=
  .bind record_discreet fun _ => expire_discreet

theorem announce_heedless : (keeper.announce r reason message).Heedless := by
  rw [announce]
  split
  · exact fun _ => ⟨fun _ _ _ => rfl, fun _ => trivial⟩
  · exact heedless_done

theorem reject_heedless {ticket : TicketLink} :
    (keeper.reject r reason message ticket).Heedless :=
  .bind announce_heedless fun _ => .bind record_discreet.heedless fun _ => heedless_done

theorem giveAccess_unheeding (unmoved : Unmoved past) :
    (keeper.giveAccess r).Unheeding Unmoved past := by
  refine .bind (createAll_discreet.attempt.unheeding unmoved) fun result past' unmoved => ?_
  split
  · exact unmoved
  · exact .bind (announce_heedless past') fun _ _ _ => trivial

theorem openWindow_heedless : (keeper.openWindow r e).Heedless := by
  have unapproved {past : List Turn} (unmoved : Unmoved past) : (do
      if ← holdsGrant r then
        keeper.giveAccess r
        keeper.recordAccess r
      else
        keeper.reject r .ticketNotApproved "Jira ticket has not been approved"
          r.status.ticket).Unheeding (fun _ => True) past := by
    refine .bind (anyGrant_discreet.unheeding unmoved) fun holds past' unmoved => ?_
    split
    · exact .bind (giveAccess_unheeding unmoved) fun _ past' _ =>
        recordAccess_discreet.heedless past'
    · exact reject_heedless past'
  intro past
  refine .perform id fun t => ?_
  have unmoved : Unmoved (past ++ [⟨.clock, t⟩]) := unmoved_of_isDiscreet rfl
  split
  · trivial
  · cases r.status.ticket.key? with
    | none => exact unapproved unmoved
    | some key =>
      refine .bind (ticketApproved_discreet.unheeding unmoved) fun approved past' unmoved => ?_
      dsimp only
      split
      · exact .bind (giveAccess_unheeding unmoved) fun _ _ unmoved =>
          .bind (finishTicket_unheeding unmoved) fun _ past' _ =>
            recordAccess_discreet.heedless past'
      · exact unapproved unmoved

theorem requestApproval_heedless : (keeper.requestApproval r e).Heedless := by
  refine .bind (Validator.account?_confined rfl).heedless fun account => ?_
  split
  · exact .bind reject_heedless fun _ => heedless_done
  · have raises {draft : Ticket.Draft} :
        (call (.raiseTicket draft)).Confined Operation.isDiscreet := confined_call.2 rfl
    exact .bind raises.heedless fun key => .bind record_discreet.heedless fun _ => heedless_done

theorem awaitWindow_heedless : (keeper.awaitWindow r key e).Heedless := by
  intro past
  refine .perform id fun t => ?_
  split
  · exact reject_heedless _
  · have unmoved : Unmoved (past ++ [⟨.clock, t⟩]) := unmoved_of_isDiscreet rfl
    refine .call ?_ fun _ => ?_
    · exact unmoved key
    · exact (Heedless.bind announce_heedless fun _ =>
        .bind record_discreet.heedless fun _ => heedless_done) _

theorem judge_heedless : (keeper.judge r key e).Heedless := by
  rw [judge]
  split
  · exact reject_heedless
  · split
    · exact reject_heedless
    · refine .bind (Validator.scopeViolation?_confined rfl).heedless fun violation => ?_
      split
      · exact reject_heedless
      · exact awaitWindow_heedless

theorem review_heedless : (keeper.review r e).Heedless := by
  rw [review]
  split
  · exact clearRejected_heedless
  · split
    · exact reject_heedless
    · split
      · exact judge_heedless
      · refine .bind requestApproval_heedless fun asked => ?_
        split
        · exact judge_heedless
        · exact heedless_done

theorem proceed_heedless : (keeper.proceed r e).Heedless := by
  rw [proceed]
  split
  · exact clearRejected_heedless
  · exact review_heedless
  · exact openWindow_heedless
  · exact expire_discreet.heedless
  · exact expire_discreet.heedless

theorem edition_discreet : edition.Confined Operation.isDiscreet := by
  refine ⟨rfl, fun answer => ?_⟩
  cases answer <;> trivial

theorem reconcile_heedless {name : String} {lastKnown : List String} :
    (keeper.reconcile name lastKnown).Heedless := by
  intro past
  refine .ask id fun answer => ?_
  split
  · exact (Heedless.bind edition_discreet.heedless fun _ => proceed_heedless) _
  · exact (Heedless.bind revokeIn_discreet.heedless fun _ => heedless_done) _
  · trivial

end Keeper

end Lifecycle

end AccessWindow
