import AccessWindow.Proofs.Conduct.Confinement

namespace AccessWindow

open Lifecycle Program

variable {α β : Type} {talk past said after : List Turn} {f : Fault}

def Turn.Alters : Turn → Prop
  | ⟨.call (.putStatus _), .ok _⟩ | ⟨.call (.removeRequest _), .ok _⟩ => True
  | _ => False

def Unaltered (said : List Turn) : Prop := ∀ x ∈ said, ¬x.Alters

@[simp] theorem unaltered_nil : Unaltered [] := by simp [Unaltered]

@[simp] theorem unaltered_cons {x : Turn} : Unaltered (x :: said) ↔ ¬x.Alters ∧ Unaltered said :=
  List.forall_mem_cons

@[simp] theorem unaltered_append : Unaltered (past ++ said) ↔ Unaltered past ∧ Unaltered said :=
  List.forall_mem_append

theorem Turn.not_alters {x : Turn} (h : x.1.sparesRequest) : ¬x.Alters := by
  obtain ⟨op, answer⟩ := x
  cases op with
  | call c =>
    cases c with
    | putStatus => cases h
    | removeRequest => cases h
    | _ => exact id
  | _ => exact id

def Enters (phase : Phase) (stored : Request) (talk : List Turn) : Prop :=
  ∃ before w, talk = before ++ [⟨.call (.putStatus w), .ok stored⟩] ∧ Unaltered before ∧
    w.status.phase = phase

theorem Enters.prepend {phase : Phase} {stored : Request} (h : Enters phase stored said)
    (un : Unaltered past) : Enters phase stored (past ++ said) := by
  obtain ⟨before, w, rfl, un', hw⟩ := h
  exact ⟨past ++ before, w, by simp, unaltered_append.2 ⟨un, un'⟩, hw⟩

def Operation.takesBack : Operation → Bool
  | .clock | .call (.grantsWithin _) | .call (.removeGrant _ _) | .call (.removeRequest _) => true
  | _ => false

theorem takesBack_of_revokes {op : Operation} (h : op.revokes) : op.takesBack := by
  cases op with
  | call c => cases c <;> first | rfl | cases h
  | _ => cases h

structure TeardownFails (f : Fault) (after : List Turn) : Prop where
  only : Only Operation.takesBack after
  unaltered : Unaltered after
  failed : ∃ before c, after = before ++ [⟨.call c, .error f⟩]

inductive Setback (f : Fault) (talk : List Turn) : Prop
  | unaltered : Unaltered talk → Setback f talk
  | ticketed {before stored after} : talk = before ++ after → Enters .fresh stored before →
      Unaltered after → Setback f talk
  | granted {before stored after} : talk = before ++ after → Enters .succeeded stored before →
      TeardownFails f after → Setback f talk

theorem Setback.prepend (h : Setback f said) (un : Unaltered past) : Setback f (past ++ said) := by
  cases h with
  | unaltered un' => exact .unaltered (unaltered_append.2 ⟨un, un'⟩)
  | ticketed heq enters un' =>
    exact .ticketed (by rw [heq, List.append_assoc]) (enters.prepend un) un'
  | granted heq enters fails =>
    exact .granted (by rw [heq, List.append_assoc]) (enters.prepend un) fails

namespace Program

variable {p : Program α} {next : α → Program β} {kind : Operation → Bool}

theorem Confined.only {result : Option (Except Fault α)} (h : p.Confined kind)
    (d : p.Dialogue talk result) : Only kind talk := by
  induction d with
  | broken => exact only_nil
  | ended => exact only_nil
  | said _ ih => exact List.forall_mem_cons.2 ⟨h.1, ih (h.2 _)⟩

theorem Confined.unaltered {result : Option (Except Fault α)}
    (h : p.Confined Operation.sparesRequest) (d : p.Dialogue talk result) : Unaltered talk :=
  fun x hx => x.not_alters (h.only d x hx)

def Retreats (p : Program α) : Prop :=
  ∀ talk f, p.Dialogue talk (some (.error f)) → Unaltered talk

theorem retreats_done {result : Except Fault α} : (done result).Retreats := by
  intro talk f d
  obtain ⟨rfl, -⟩ := d.of_done
  exact unaltered_nil

theorem Confined.bind_retreats (h : p.Confined Operation.sparesRequest)
    (rest : ∀ a, (next a).Retreats) : (p >>= next).Retreats := by
  intro talk f d
  cases d.of_bind with
  | inl parts =>
    obtain ⟨a, said, later, rfl, first, second⟩ := parts
    exact unaltered_append.2 ⟨h.unaltered first, rest a later f second⟩
  | inr failed =>
    obtain ⟨_, first, -⟩ := failed
    exact h.unaltered first

theorem Retreats.bind_pure (h : p.Retreats) {g : α → β} :
    (p >>= fun a => pure (g a)).Retreats := by
  intro talk f d
  cases d.of_bind with
  | inl parts =>
    obtain ⟨a, said, later, rfl, -, second⟩ := parts
    cases second.of_done.2
  | inr failed =>
    obtain ⟨fault, first, -⟩ := failed
    exact h talk fault first

def Recedes (p : Program α) : Prop :=
  ∀ talk f, p.Dialogue talk (some (.error f)) → Setback f talk

theorem Retreats.recedes (h : p.Retreats) : p.Recedes := fun talk f d => .unaltered (h talk f d)

theorem Confined.bind_recedes (h : p.Confined Operation.sparesRequest)
    (rest : ∀ a, (next a).Recedes) : (p >>= next).Recedes := by
  intro talk f d
  cases d.of_bind with
  | inl parts =>
    obtain ⟨a, said, later, rfl, first, second⟩ := parts
    exact (rest a later f second).prepend (h.unaltered first)
  | inr failed =>
    obtain ⟨_, first, -⟩ := failed
    exact .unaltered (h.unaltered first)

/-- If the program fails, then with the fault that it was answered last. -/
def Relays (p : Program α) : Prop :=
  ∀ talk f, p.Dialogue talk (some (.error f)) → ∃ before c, talk = before ++ [⟨.call c, .error f⟩]

theorem relays_pure {a : α} : (pure a : Program α).Relays := by
  intro talk f d
  cases d.of_done.2

theorem Relays.bind (h : p.Relays) (rest : ∀ a, (next a).Relays) : (p >>= next).Relays := by
  intro talk f d
  cases d.of_bind with
  | inl parts =>
    obtain ⟨a, said, later, rfl, -, second⟩ := parts
    obtain ⟨before, c, rfl⟩ := rest a later f second
    exact ⟨said ++ before, c, by simp⟩
  | inr failed =>
    obtain ⟨fault, first, he⟩ := failed
    cases he
    exact h talk f first

theorem relays_perform {op : Operation} : (perform op).Relays := by
  intro talk f d
  obtain ⟨answer, rest, -, later⟩ := d.of_step
  cases later.of_done.2

theorem relays_call {c : Call} : (call c).Relays := by
  intro talk f d
  obtain ⟨answer, rest, rfl, later⟩ := d.of_step
  obtain ⟨rfl, rfl⟩ := later.of_done
  exact ⟨[], c, rfl⟩

theorem relays_ask {c : Call} {next : Except Fault c.Answer → Program α}
    (rest : ∀ answer, (next answer).Relays ∨ ∃ f, answer = .error f ∧ next answer = fail f) :
    (ask c >>= next).Relays := by
  intro talk f d
  obtain ⟨answer, said, rfl, later⟩ := d.of_ask
  cases rest answer with
  | inl h =>
    obtain ⟨before, c', rfl⟩ := h said f later
    exact ⟨⟨.call c, answer⟩ :: before, c', rfl⟩
  | inr h =>
    obtain ⟨f', rfl, hn⟩ := h
    rw [hn] at later
    obtain ⟨rfl, he⟩ := later.of_done
    cases he
    exact ⟨[], c, rfl⟩

end Program

namespace Lifecycle

variable {r stored : Request} {e : Edition} {u : Request.Update} {key : String} {keeper : Keeper}

inductive Attempted (u : Request.Update) (talk : List Turn) :
    Except Fault (Request × Except Fault Unit) → Prop
  | failed {q f} : Unaltered talk → Attempted u talk (.ok (q, .error f))
  | entered {q} : Enters u.phase q talk → Attempted u talk (.ok (q, .ok ()))

theorem Attempted.prepend {result : Except Fault _} (h : Attempted u said result)
    (un : Unaltered past) : Attempted u (past ++ said) result := by
  cases h with
  | failed un' => exact .failed (unaltered_append.2 ⟨un, un'⟩)
  | entered enters => exact .entered (enters.prepend un)

theorem writeStatus_attempted {retry : Retry} {left : Nat} {result : Except Fault _}
    (d : (writeStatus retry u left r).Dialogue talk (some result)) : Attempted u talk result := by
  induction left generalizing r talk with
  | zero =>
    rw [writeStatus] at d
    obtain ⟨answer, rest, rfl, later⟩ := d.of_ask
    cases answer with
    | error f =>
      cases f <;>
        · obtain ⟨rfl, rfl⟩ := later.of_done
          exact .failed (by simp [Turn.Alters])
    | ok stored =>
      obtain ⟨rfl, rfl⟩ := later.of_done
      exact .entered ⟨[], _, rfl, unaltered_nil, rfl⟩
  | succ left ih =>
    rw [writeStatus] at d
    obtain ⟨answer, rest, rfl, later⟩ := d.of_ask
    cases answer with
    | error f =>
      cases f with
      | conflict message =>
        obtain ⟨⟨⟩, rest, rfl, paused⟩ := later.of_perform
        obtain ⟨answer, rest, rfl, reread⟩ := paused.of_ask
        cases answer with
        | error f =>
          obtain ⟨rfl, rfl⟩ := reread.of_done
          exact .failed (by simp [Turn.Alters])
        | ok newer =>
          have un : Unaltered [⟨.call (.putStatus (r.record u)), .error (.conflict message)⟩,
              ⟨.sleep (retry.pauseAfter (retry.attempts - (left + 1))), ()⟩,
              ⟨.call (.requestNamed r.name), .ok newer⟩] := by
            simp [Turn.Alters]
          exact (ih reread).prepend un
      | _ =>
        obtain ⟨rfl, rfl⟩ := later.of_done
        exact .failed (by simp [Turn.Alters])
    | ok stored =>
      obtain ⟨rfl, rfl⟩ := later.of_done
      exact .entered ⟨[], _, rfl, unaltered_nil, rfl⟩

theorem removeRequest_retreats : (removeRequest r).Retreats := by
  intro talk f d
  obtain ⟨answer, rest, rfl, later⟩ := d.of_ask
  cases answer with
  | ok => cases later.of_done.2
  | error f' =>
    cases f' <;>
      · obtain ⟨rfl, -⟩ := later.of_done
        simp [Turn.Alters]

theorem clearRejected_retreats : (clearRejected r e).Retreats := by
  refine (revokeIn_confined.mono fun _ => sparesRequest_of_revokes).bind_retreats fun _ => ?_
  split
  · exact declineTicket_confined.bind_retreats fun _ => removeRequest_retreats
  · exact removeRequest_retreats

theorem expire_retreats : (expire r).Retreats := by
  refine Confined.bind_retreats (confined_perform.2 rfl) fun t => ?_
  split
  · exact retreats_done
  · exact (revokeIn_confined.mono fun _ => sparesRequest_of_revokes).bind_retreats fun _ =>
      removeRequest_retreats

theorem expire_takesBack : (expire r).Confined Operation.takesBack := by
  refine .bind (confined_perform.2 rfl) fun t => ?_
  split
  · trivial
  · refine .bind (revokeIn_confined.mono fun _ => takesBack_of_revokes) fun _ =>
      .bind (confined_ask.2 rfl) fun answer => ?_
    split <;> trivial

theorem deleteAll_relays {scope : String} {grants : List Grant} :
    (deleteAll scope grants).Relays := by
  induction grants with
  | nil => exact relays_pure
  | cons g grants ih =>
    refine relays_ask fun answer => ?_
    cases answer with
    | ok => exact .inl (ih.bind fun _ => relays_pure)
    | error f =>
      cases f with
      | notFound => exact .inl ih
      | _ => exact .inr ⟨_, rfl, rfl⟩

theorem revokeIn_relays {owner : String} {scopes : List String} :
    (revokeIn owner scopes).Relays := by
  induction scopes with
  | nil => exact relays_pure
  | cons scope scopes ih =>
    exact relays_call.bind fun _ => deleteAll_relays.bind fun _ => ih.bind fun _ => relays_pure

theorem expire_relays : (expire r).Relays := by
  refine relays_perform.bind fun t => ?_
  split
  · exact relays_pure
  · refine revokeIn_relays.bind fun _ => relays_ask fun answer => ?_
    cases answer with
    | ok => exact .inl relays_pure
    | error f =>
      cases f with
      | notFound => exact .inl relays_pure
      | _ => exact .inr ⟨_, rfl, rfl⟩

theorem finishTicket_confined : (finishTicket key e).Confined Operation.provides := by
  refine .bind (confined_ask.2 rfl) fun answer => ?_
  split
  · refine .bind (confined_ask.2 rfl) fun moved => ?_
    split <;> trivial
  · trivial
  · trivial

theorem ticketApproved_confined : (ticketApproved key e).Confined Operation.sparesRequest := by
  refine .bind (confined_ask.2 rfl) fun answer => ?_
  split <;> trivial

namespace Keeper

theorem record_enters (d : (keeper.record r u).Dialogue talk (some (.ok stored))) :
    Enters u.phase stored talk := by
  obtain ⟨⟨q, written⟩, said, rest, rfl, first, second⟩ := d.of_bind_ok
  cases writeStatus_attempted first with
  | failed => cases second.of_done.2
  | entered enters =>
    obtain ⟨rfl, he⟩ := second.of_done
    cases he
    simpa using enters

theorem record_retreats : (keeper.record r u).Retreats := by
  intro talk f d
  cases d.of_bind with
  | inl parts =>
    obtain ⟨⟨q, written⟩, said, rest, rfl, first, second⟩ := parts
    cases writeStatus_attempted first with
    | failed un =>
      obtain ⟨rfl, -⟩ := second.of_done
      simpa using un
    | entered => cases second.of_done.2
  | inr failed =>
    obtain ⟨_, first, -⟩ := failed
    cases writeStatus_attempted first

theorem announce_spares {reason : Event.Reason} {message : String} :
    (keeper.announce r reason message).Confined Operation.sparesRequest :=
  announce_confined.mono fun _ => sparesRequest_of_provides

theorem reject_retreats {reason : Event.Reason} {message : String} {ticket : TicketLink} :
    (keeper.reject r reason message ticket).Retreats :=
  announce_spares.bind_retreats fun _ => record_retreats.bind_pure

theorem awaitWindow_retreats : (keeper.awaitWindow r key e).Retreats := by
  refine Confined.bind_retreats (confined_perform.2 rfl) fun t => ?_
  split
  · exact reject_retreats
  · exact Confined.bind_retreats (confined_call.2 rfl) fun _ =>
      announce_spares.bind_retreats fun _ => record_retreats.bind_pure

theorem judge_retreats : (keeper.judge r key e).Retreats := by
  rw [judge]
  split
  · exact reject_retreats
  · split
    · exact reject_retreats
    · refine (Validator.scopeViolation?_confined rfl).bind_retreats fun violation => ?_
      split
      · exact reject_retreats
      · exact awaitWindow_retreats

theorem requestApproval_retreats : (keeper.requestApproval r e).Retreats := by
  refine (Validator.account?_confined rfl).bind_retreats fun account => ?_
  split
  · exact reject_retreats.bind_pure
  · exact Confined.bind_retreats (confined_call.2 rfl) fun key => record_retreats.bind_pure

theorem requestApproval_enters
    (d : (keeper.requestApproval r e).Dialogue talk (some (.ok (some (stored, key))))) :
    Enters .fresh stored talk := by
  obtain ⟨account, said, rest, rfl, first, second⟩ := d.of_bind_ok
  cases account with
  | none =>
    obtain ⟨_, _, _, -, -, third⟩ := second.of_bind_ok
    cases third.of_done.2
  | some account =>
    obtain ⟨key', rest, rfl, third⟩ := second.of_call_ok
    obtain ⟨q, written, rest, rfl, fourth, last⟩ := third.of_bind_ok
    obtain ⟨rfl, he⟩ := last.of_done
    cases he
    have raised : Unaltered [⟨.call (.raiseTicket (.ofRequest r.spec account e)), .ok key⟩] := by
      simp [Turn.Alters]
    simpa using ((record_enters fourth).prepend raised).prepend
      ((Validator.account?_confined rfl).unaltered first)

theorem review_recedes : (keeper.review r e).Recedes := by
  rw [review]
  split
  · exact clearRejected_retreats.recedes
  · split
    · exact reject_retreats.recedes
    · split
      · exact judge_retreats.recedes
      · intro talk f d
        cases d.of_bind with
        | inr failed =>
          obtain ⟨_, first, -⟩ := failed
          exact .unaltered (requestApproval_retreats _ _ first)
        | inl parts =>
          obtain ⟨asked, said, rest, rfl, first, second⟩ := parts
          cases asked with
          | none => cases second.of_done.2
          | some opened =>
            exact .ticketed rfl (requestApproval_enters first) (judge_retreats rest f second)

theorem recordAccess_recedes : (keeper.recordAccess r).Recedes := by
  intro talk f d
  cases d.of_bind with
  | inr failed =>
    obtain ⟨_, first, -⟩ := failed
    exact .unaltered (record_retreats _ _ first)
  | inl parts =>
    obtain ⟨stored, said, rest, rfl, first, second⟩ := parts
    exact .granted rfl (record_enters first) ⟨expire_takesBack.only second,
      expire_retreats rest f second, expire_relays rest f second⟩

theorem giveAccess_spares : (keeper.giveAccess r).Confined Operation.sparesRequest :=
  giveAccess_confined.mono fun _ => sparesRequest_of_provides

theorem unapproved_recedes : (do
    if ← holdsGrant r then
      keeper.giveAccess r
      keeper.recordAccess r
    else
      keeper.reject r .ticketNotApproved "Jira ticket has not been approved"
        r.status.ticket).Recedes := by
  refine (anyGrant_confined.mono fun _ => sparesRequest_of_provides).bind_recedes fun any => ?_
  split
  · exact giveAccess_spares.bind_recedes fun _ => recordAccess_recedes
  · exact reject_retreats.recedes

theorem openWindow_recedes : (keeper.openWindow r e).Recedes := by
  refine Confined.bind_recedes (confined_perform.2 rfl) fun t => ?_
  split
  · exact retreats_done.recedes
  · cases r.status.ticket.key? with
    | none => exact unapproved_recedes
    | some key =>
      refine ticketApproved_confined.bind_recedes fun approved => ?_
      dsimp only
      split
      · refine giveAccess_spares.bind_recedes fun _ => ?_
        exact (finishTicket_confined.mono fun _ => sparesRequest_of_provides).bind_recedes
          fun _ => recordAccess_recedes
      · exact unapproved_recedes

theorem proceed_recedes : (keeper.proceed r e).Recedes := by
  rw [proceed]
  split
  · exact clearRejected_retreats.recedes
  · exact review_recedes
  · exact openWindow_recedes
  · exact expire_retreats.recedes
  · exact expire_retreats.recedes

theorem edition_spares : edition.Confined Operation.sparesRequest := by
  refine ⟨rfl, fun answer => ?_⟩
  cases answer <;> trivial

theorem reconcile_recedes {name : String} {lastKnown : List String} :
    (keeper.reconcile name lastKnown).Recedes := by
  refine Confined.bind_recedes (confined_ask.2 rfl) fun answer => ?_
  split
  · exact edition_spares.bind_recedes fun e => proceed_recedes
  · exact ((revokeIn_confined.mono fun _ => sparesRequest_of_revokes).bind_retreats fun _ =>
      retreats_done).recedes
  · exact retreats_done.recedes

end Keeper

end Lifecycle

end AccessWindow
