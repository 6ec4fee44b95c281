import AccessWindow.Proofs.Conduct.Evidence

/-! The rule that visits to a request abide by: what may be done after what was said in the visit so
far, and which steps may be put on record. -/

namespace AccessWindow

theorem TicketLink.key?_eq_some {ticket : TicketLink} {key : String} :
    ticket.key? = some key ↔ ticket = .issue key := by
  cases ticket <;> simp [key?]

namespace Lifecycle

def Found (name : String) (past : List Turn) (r : Request) (e : Edition) : Prop :=
  [⟨.call (.requestNamed name), .ok r⟩, ⟨.edition, some e⟩] <+: past

def Missed (name : String) (past : List Turn) : Prop :=
  ∃ message, [⟨.call (.requestNamed name), .error (.notFound message)⟩] <+: past

structure Reviewable (r : Request) (e : Edition) : Prop where
  fresh : r.status.phase = .fresh
  ticket : r.status.ticket ≠ .skipped
  fields : Policy.missingField? r.spec e = none

/-- The ticket of a fresh request: the one on record, or else the one that was just opened. -/
inductive InHand (past : List Turn) (r : Request) (key : String) : Prop
  | kept : r.status.ticket = .issue key → InHand past r key
  | opened {draft} : r.status.ticket = .unassigned → Heard past (.raiseTicket draft) (.ok key) →
      InHand past r key

structure Passed (past : List Turn) (e : Edition) (held : Request) : Prop where
  role : e.allowsRole held.spec.role
  window : held.spec.start < held.spec.finish
  pattern : Policy.patternViolation? held.spec e = none
  early : ∃ t delay, (⟨.clock, t⟩ : Turn) ∈ past ∧ held.spec.start.until? t = some delay

def Approved (past : List Turn) (r : Request) (e : Edition) (key : String) : Prop :=
  r.status.ticket = .issue key ∧ ∃ t, r.opens.until? t = none ∧
    [⟨.clock, t⟩, ⟨.call (.stateOfTicket key), .ok e.rulebook.approvedStatus⟩].Sublist past

def Holding (past : List Turn) (r : Request) : Prop :=
  ∃ scope ∈ r.spec.namespaces, ∃ grants, Heard past (.grantsWithin scope) (.ok grants) ∧
    ∃ g ∈ grants, g.belongsTo r.name

def Made (past : List Turn) (g : Grant) : Prop :=
  Heard past (.addGrant g) (.ok ()) ∨
    ∃ message, Heard past (.addGrant g) (.error (.alreadyExists message))

def Provided (past : List Turn) (r : Request) : Prop := ∀ g ∈ Grant.ofRequest r, Made past g

def Moved (past : List Turn) (key id : String) : Prop :=
  Heard past (.transition key id) (.ok ()) ∨
    ∃ message, Heard past (.transition key id) (.error (.notFound message))

def Completed (past : List Turn) (e : Edition) (key : String) : Prop :=
  (Heard past (.commentOn key Ticket.doneNote) (.ok ()) ∧
      Moved past key e.rulebook.completeTransition) ∨
    ∃ message, Heard past (.commentOn key Ticket.doneNote) (.error (.notFound message))

/-- What a visit that found `r` under `e` may put on record. -/
inductive Decides (past : List Turn) (r : Request) (e : Edition) : Request.Update → Prop
  | missing {field} : r.status.phase = .fresh → r.status.ticket ≠ .skipped →
      Policy.missingField? r.spec e = some field →
      Decides past r e ⟨.rejected, "missing custom field: " ++ field, .skipped⟩
  | unknown {message} : Reviewable r e → r.status.ticket = .unassigned →
      Heard past (.accountOf r.spec.reporter) (.error (.notFound message)) →
      Decides past r e
        ⟨.rejected, "failed to find reporter user: " ++ r.spec.reporter, .skipped⟩
  | opened {draft key} : Reviewable r e → r.status.ticket = .unassigned →
      Heard past (.raiseTicket draft) (.ok key) →
      Decides past r e ⟨.fresh, "Jira ticket " ++ key ++ " created", .issue key⟩
  | refused {key message} : Reviewable r e → InHand past r key →
      Decides past r e ⟨.rejected, message, .issue key⟩
  | accepted {key x held} : Reviewable r e → InHand past r key → x ∈ past →
      x.record? = some held → Passed past e held →
      Decides past r e ⟨.preApproved, Ticket.preApprovalMessage, .issue key⟩
  | granted {key} : r.status.phase = .preApproved → Approved past r e key → Provided past r →
      Completed past e key → Decides past r e ⟨.succeeded, Ticket.grantedMessage, r.status.ticket⟩
  | resumed : r.status.phase = .preApproved → Holding past r → Provided past r →
      Decides past r e ⟨.succeeded, Ticket.grantedMessage, r.status.ticket⟩
  | unapproved : r.status.phase = .preApproved →
      Decides past r e ⟨.rejected, "Jira ticket has not been approved", r.status.ticket⟩

/-- Whatever the visit has put on record before is this very step, or the opening of the ticket that
the step carries. -/
def Continues (past : List Turn) (u : Request.Update) : Prop :=
  ∀ x ∈ past, ∀ q, x.1 = .call (.putStatus q) →
    (∃ held : Request, q = held.record u) ∨ (q.status.phase = .fresh ∧ q.status.ticket = u.ticket)

def Discarded (r : Request) : Prop :=
  r.status.phase = .rejected ∨ (r.status.phase = .fresh ∧ r.status.ticket = .skipped)

inductive Lapsing (past : List Turn) (r : Request) : Request → Prop
  | succeeded : r.status.phase = .succeeded → Lapsing past r r
  | unrecognized {phase} : r.status.phase = .unrecognized phase → Lapsing past r r
  | granted {x stored} : r.status.phase = .preApproved → x.status.phase = .succeeded →
      Heard past (.putStatus x) (.ok stored) → Lapsing past r stored

inductive Due (name : String) (past : List Turn) : Request → Prop
  | discarded {r e} : Found name past r e → latest Turn.record? past = some r → Discarded r →
      Due name past r
  | expired {r e held t} : Found name past r e → latest Turn.record? past = some held →
      Lapsing past r held → latest Turn.reading? past = some t →
      held.closes.until? t = none → Due name past held

inductive Clears (name : String) (lastKnown : List String) (past : List Turn) :
    List String → Prop
  | gone : Missed name past → Clears name lastKnown past lastKnown
  | due {held} : Due name past held → Clears name lastKnown past held.spec.namespaces

def Deleted (past : List Turn) (scope key : String) : Prop :=
  Heard past (.removeGrant scope key) (.ok ()) ∨
    ∃ message, Heard past (.removeGrant scope key) (.error (.notFound message))

/-- Every namespace was listed, and what the owner held there was deleted thereafter. -/
def Swept (owner : String) (scopes : List String) (said : List Turn) : Prop :=
  ∀ scope ∈ scopes, ∃ grants before after,
    said = before ++ ⟨.call (.grantsWithin scope), .ok grants⟩ :: after ∧
      ∀ g ∈ grants, g.belongsTo owner → Deleted after scope g.name

/-- The grants were swept by the last turns, during which nothing else was done. -/
def Cleared (owner : String) (scopes : List String) (past : List Turn) : Prop :=
  ∃ before said, past = before ++ said ∧ Only Operation.isAside said ∧ Swept owner scopes said

/-- What a visit may do after what was said in it so far. -/
inductive Permitted (name : String) (lastKnown : List String) (past : List Turn) :
    Operation → Prop
  | find : past = [] → Permitted name lastKnown past (.call (.requestNamed name))
  | consult {r} : past = [⟨.call (.requestNamed name), .ok r⟩] →
      Permitted name lastKnown past .edition
  | watch {r e} : Found name past r e → Permitted name lastKnown past .clock
  | announce {r e event} : Found name past r e → event.subject = name →
      Permitted name lastKnown past (.call (.publishEvent event))
  | write {r e held u} : Found name past r e → latest Turn.record? past = some held →
      held.name = name → Decides past r e u → Continues past u →
      Permitted name lastKnown past (.call (.putStatus (held.record u)))
  | pause {before held message span} :
      past = before ++ [⟨.call (.putStatus held), .error (.conflict message)⟩] →
      Permitted name lastKnown past (.sleep span)
  | reread {before span} : past = before ++ [⟨.sleep span, ()⟩] →
      Permitted name lastKnown past (.call (.requestNamed name))
  | identify {r e} : past = [⟨.call (.requestNamed name), .ok r⟩, ⟨.edition, some e⟩] →
      Reviewable r e → r.status.ticket = .unassigned →
      Permitted name lastKnown past (.call (.accountOf r.spec.reporter))
  | raise {r e account} :
      past = [⟨.call (.requestNamed name), .ok r⟩, ⟨.edition, some e⟩,
        ⟨.call (.accountOf r.spec.reporter), .ok account⟩] →
      Reviewable r e → r.status.ticket = .unassigned →
      Permitted name lastKnown past (.call (.raiseTicket (.ofRequest r.spec account e)))
  | scopes {r e held} : Found name past r e → latest Turn.record? past = some held →
      Reviewable r e → Permitted name lastKnown past (.call (.namespacesWith held.spec.labels))
  | welcome {r e key held} : Found name past r e → latest Turn.record? past = some held →
      Reviewable r e → InHand past r key → Passed past e held →
      Permitted name lastKnown past
        (.call (.commentOn key (Ticket.preApprovedNote held.spec e.rulebook.comment)))
  | check {r e key t} : Found name past r e → r.status.phase = .preApproved →
      r.status.ticket = .issue key → latest Turn.reading? past = some t →
      r.opens.until? t = none → Permitted name lastKnown past (.call (.stateOfTicket key))
  | look {r e scope} : Found name past r e → r.status.phase = .preApproved →
      scope ∈ r.spec.namespaces → Permitted name lastKnown past (.call (.grantsWithin scope))
  | grant {r e g} : Found name past r e → r.name = name → r.status.phase = .preApproved →
      ((∃ key, Approved past r e key) ∨ Holding past r) → Silent past → g ∈ Grant.ofRequest r →
      Permitted name lastKnown past (.call (.addGrant g))
  | note {r e key} : Found name past r e → r.status.phase = .preApproved →
      Approved past r e key → Provided past r →
      Permitted name lastKnown past (.call (.commentOn key Ticket.doneNote))
  | complete {r e key} : Found name past r e → r.status.phase = .preApproved →
      Approved past r e key → Provided past r →
      Heard past (.commentOn key Ticket.doneNote) (.ok ()) →
      Permitted name lastKnown past (.call (.transition key e.rulebook.completeTransition))
  | list {scopes scope} : Clears name lastKnown past scopes → scope ∈ scopes →
      Permitted name lastKnown past (.call (.grantsWithin scope))
  | revoke {scopes scope grants g} : Clears name lastKnown past scopes → scope ∈ scopes →
      Heard past (.grantsWithin scope) (.ok grants) → g ∈ grants → g.belongsTo name →
      Permitted name lastKnown past (.call (.removeGrant scope g.name))
  | decline {r e key} : Found name past r e → Discarded r → r.status.ticket = .issue key →
      Cleared name r.spec.namespaces past →
      Permitted name lastKnown past (.call (.transition key e.rulebook.rejectTransition))
  | explain {r e key} : Found name past r e → Discarded r → r.status.ticket = .issue key →
      Heard past (.transition key e.rulebook.rejectTransition) (.ok ()) →
      Permitted name lastKnown past
        (.call (.commentOn key (Ticket.rejectedNote r.status.message)))
  | discard {r e} : Found name past r e → Discarded r → Cleared name r.spec.namespaces past →
      (∀ key, r.status.ticket = .issue key → Moved past key e.rulebook.rejectTransition) →
      Permitted name lastKnown past (.call (.removeRequest name))
  | expire {r e held t} : Found name past r e → latest Turn.record? past = some held →
      Lapsing past r held → latest Turn.reading? past = some t →
      held.closes.until? t = none → Cleared name held.spec.namespaces past →
      Permitted name lastKnown past (.call (.removeRequest name))

variable {name owner key id : String} {lastKnown scopes : List String}
  {past said later : List Turn} {r held : Request} {e : Edition} {u : Request.Update}

theorem Found.mono (h : Found name past r e) (hp : past <+: later) : Found name later r e :=
  List.IsPrefix.trans h hp

theorem Found.unique {r' : Request} {e' : Edition} (h : Found name past r e)
    (h' : Found name later r' e') (hp : past <+: later) : r = r' ∧ e = e' := by
  obtain ⟨rest, rfl⟩ := h.mono hp
  rw [Found, List.cons_append, List.cons_append, List.cons_prefix_cons, List.cons_prefix_cons] at h'
  obtain ⟨hr, he, -⟩ := h'
  cases hr
  cases he
  exact ⟨rfl, rfl⟩

theorem Found.not_missed (h : Found name past r e) : ¬Missed name past := by
  intro missed
  obtain ⟨message, hm⟩ := missed
  obtain ⟨rest, rfl⟩ := h
  rw [List.cons_append, List.cons_prefix_cons] at hm
  cases hm.1

/-- A visit that found `r` under `e`, with the record that it was given last. -/
structure Attending (name : String) (past : List Turn) (r : Request) (e : Edition)
    (held : Request) : Prop where
  found : Found name past r e
  latest : latest Turn.record? past = some held
  named : held.name = name

theorem attending_of_begun (hn : r.name = name) :
    Attending name [⟨.call (.requestNamed name), .ok r⟩, ⟨.edition, some e⟩] r e r where
  found := List.prefix_refl _
  latest := by simp [Turn.record?]
  named := hn

theorem Attending.append (h : Attending name past r e held)
    (hr : AccessWindow.latest Turn.record? said = none) :
    Attending name (past ++ said) r e held where
  found := h.found.mono (List.prefix_append past said)
  latest := by rw [latest_append, hr, h.latest, Option.none_or]
  named := h.named

theorem Attending.append_aside (h : Attending name past r e held)
    (only : Only Operation.isAside said) : Attending name (past ++ said) r e held :=
  h.append (latest_eq_none fun x hx => record?_eq_none_of_isAside (only x hx))

theorem Missed.append (h : Missed name past) : Missed name (past ++ said) :=
  h.imp fun _ hm => hm.trans (List.prefix_append past said)

theorem InHand.mono (h : InHand past r key) (hp : past <+: later) : InHand later r key := by
  cases h with
  | kept ht => exact .kept ht
  | opened ht hh => exact .opened ht (hh.mono hp)

theorem InHand.kept_eq {key' : String} (h : InHand past r key)
    (hk : r.status.ticket = .issue key') : TicketLink.issue key = .issue key' := by
  cases h with
  | kept ht => exact ht.symm.trans hk
  | opened hu => cases hu.symm.trans hk

theorem Passed.mono (h : Passed past e held) (hp : past <+: later) : Passed later e held := by
  obtain ⟨t, delay, ht, hd⟩ := h.early
  exact ⟨h.role, h.window, h.pattern, t, delay, hp.subset ht, hd⟩

theorem Approved.mono (h : Approved past r e key) (hp : past <+: later) :
    Approved later r e key := by
  obtain ⟨ht, t, hu, hs⟩ := h
  exact ⟨ht, t, hu, hs.trans hp.sublist⟩

theorem Holding.mono (h : Holding past r) (hp : past <+: later) : Holding later r := by
  obtain ⟨scope, hs, grants, hh, hg⟩ := h
  exact ⟨scope, hs, grants, hh.mono hp, hg⟩

theorem Made.mono {g : Grant} (h : Made past g) (hp : past <+: later) : Made later g :=
  h.imp (·.mono hp) fun ⟨message, hm⟩ => ⟨message, hm.mono hp⟩

theorem Made.heard {g : Grant} (h : Made past g) : ∃ answer, Heard past (.addGrant g) answer := by
  cases h with
  | inl h => exact ⟨_, h⟩
  | inr h => exact ⟨_, h.choose_spec⟩

theorem Made.prepend {g : Grant} (h : Made said g) : Made (past ++ said) g :=
  h.imp Heard.prepend fun ⟨message, hm⟩ => ⟨message, hm.prepend⟩

theorem Provided.mono (h : Provided past r) (hp : past <+: later) : Provided later r :=
  fun g hg => (h g hg).mono hp

theorem Moved.prepend (h : Moved said key id) : Moved (past ++ said) key id :=
  h.imp Heard.prepend fun ⟨message, hm⟩ => ⟨message, hm.prepend⟩

theorem Moved.mono (h : Moved past key id) (hp : past <+: later) : Moved later key id :=
  h.imp (·.mono hp) fun ⟨message, hm⟩ => ⟨message, hm.mono hp⟩

theorem Completed.mono (h : Completed past e key) (hp : past <+: later) : Completed later e key :=
  h.imp (fun hc => ⟨hc.1.mono hp, hc.2.mono hp⟩) fun ⟨message, hm⟩ => ⟨message, hm.mono hp⟩

theorem Completed.prepend (h : Completed said e key) : Completed (past ++ said) e key :=
  h.imp (fun hc => ⟨hc.1.prepend, hc.2.prepend⟩) fun ⟨message, hm⟩ => ⟨message, hm.prepend⟩

theorem Decides.mono (h : Decides past r e u) (hp : past <+: later) : Decides later r e u := by
  cases h with
  | missing hf ht hm => exact .missing hf ht hm
  | unknown hr ht hh => exact .unknown hr ht (hh.mono hp)
  | opened hr ht hh => exact .opened hr ht (hh.mono hp)
  | refused hr hk => exact .refused hr (hk.mono hp)
  | accepted hr hk hx hheld hpass =>
    exact .accepted hr (hk.mono hp) (hp.subset hx) hheld (hpass.mono hp)
  | granted hph ha hprov hc => exact .granted hph (ha.mono hp) (hprov.mono hp) (hc.mono hp)
  | resumed hph hh hprov => exact .resumed hph (hh.mono hp) (hprov.mono hp)
  | unapproved hph => exact .unapproved hph

theorem continues_of_silent (h : Silent past) : Continues past u :=
  fun x hx q hq => absurd hq (h x hx q)

theorem Continues.append (h : Continues past u) (h' : Continues said u) :
    Continues (past ++ said) u := List.forall_mem_append.2 ⟨h, h'⟩

theorem continues_write {answer : Except Fault Request} :
    Continues [⟨.call (.putStatus (held.record u)), answer⟩] u := by
  intro x hx q hq
  obtain rfl := List.mem_singleton.1 hx
  cases hq
  exact .inl ⟨held, rfl⟩

theorem Continues.opened {message : String} {u' : Request.Update}
    (h : Continues past ⟨.fresh, message, u.ticket⟩) (hu : u.ticket = u'.ticket) :
    Continues past u' := by
  intro x hx q hq
  cases h x hx q hq with
  | inl h =>
    obtain ⟨held, rfl⟩ := h
    exact .inr ⟨rfl, hu⟩
  | inr h => exact .inr ⟨h.1, h.2.trans hu⟩

theorem Lapsing.mono (h : Lapsing past r held) (hp : past <+: later) : Lapsing later r held := by
  cases h with
  | succeeded hph => exact .succeeded hph
  | unrecognized hph => exact .unrecognized hph
  | granted hph hx hh => exact .granted hph hx (hh.mono hp)

theorem Due.append (h : Due name past held) (only : Only Operation.isAside said) :
    Due name (past ++ said) held := by
  have hp : past <+: past ++ said := List.prefix_append past said
  cases h with
  | discarded hf hl hd => exact .discarded (hf.mono hp) (only.latest_record.trans hl) hd
  | expired hf hl hx ht hu =>
    exact .expired (hf.mono hp) (only.latest_record.trans hl) (hx.mono hp)
      (only.latest_reading.trans ht) hu

theorem Clears.append (h : Clears name lastKnown past scopes) (only : Only Operation.isAside said) :
    Clears name lastKnown (past ++ said) scopes := by
  cases h with
  | gone hm => exact .gone hm.append
  | due hd => exact .due (hd.append only)

theorem Deleted.append {scope : String} (h : Deleted past scope key) :
    Deleted (past ++ said) scope key :=
  h.imp Heard.append fun ⟨message, hm⟩ => ⟨message, hm.append⟩

theorem Deleted.prepend {scope : String} (h : Deleted said scope key) :
    Deleted (past ++ said) scope key :=
  h.imp Heard.prepend fun ⟨message, hm⟩ => ⟨message, hm.prepend⟩

theorem Cleared.append (h : Cleared owner scopes past) (only : Only Operation.isAside said) :
    Cleared owner scopes (past ++ said) := by
  obtain ⟨before, after, rfl, only', swept⟩ := h
  refine ⟨before, after ++ said, by simp, only_append.2 ⟨only', only⟩, ?_⟩
  intro scope hs
  obtain ⟨grants, l₁, l₂, rfl, hdel⟩ := swept scope hs
  exact ⟨grants, l₁, l₂ ++ said, by simp, fun g hg ho => (hdel g hg ho).append⟩

end Lifecycle

end AccessWindow
