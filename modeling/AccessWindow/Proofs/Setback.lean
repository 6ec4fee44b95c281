import AccessWindow.Proofs.Conduct.Failure
import AccessWindow.Proofs.SingleTicket

namespace AccessWindow

open Lifecycle

/-- If the call failed, it had no effect. -/
def Moment.Inert (m : Moment) : Prop := ∀ c f, m.said = ⟨.call c, .error f⟩ → m.after = m.before

variable {others : Scene → Scene → Prop} {s s' : Scene} {m : Moment} {ms : List Moment}
  {name : String} {f : Fault} {v : Visit name}

theorem Moment.Inert.requests_eq (h : m.Inert) (un : ¬m.said.Alters) :
    m.after.requests = m.before.requests := by
  obtain ⟨before, op, answer, after, lawful⟩ := m
  have leaves : before.Leaves op after := lawful.leaves
  cases leaves with
  | written =>
    cases answer with
    | ok => exact absurd trivial un
    | error f => exact congrArg Scene.requests (h _ f rfl)
  | removed =>
    cases answer with
    | ok => exact absurd trivial un
    | error f => exact congrArg Scene.requests (h _ f rfl)
  | _ => rfl

theorem Moment.stored_request {w stored q : Request}
    (h : m.said = ⟨.call (.putStatus w), .ok stored⟩) (hn : w.name = name)
    (hq : m.before.requests name = some q) :
    ∃ version, m.after.requests name = some { q with status := w.status, version := version } := by
  obtain ⟨before, op, answer, after, lawful⟩ := m
  cases h
  obtain ⟨old, version, hold, rfl, rfl⟩ := lawful
  subst hn
  cases hq.symm.trans hold
  have hname : q.name = w.name := before.named hold
  exact ⟨version, Scene.requests_putRequest.2 (.inl ⟨hname.symm, rfl⟩)⟩

inductive Aftermath (name : String) (f : Fault) (s s' : Scene) (said : List Turn) : Prop
  | unaltered : s'.requests name = s.requests name → Aftermath name f s s' said
  | ticketed {r draft key version} : s.requests name = some r → r.status.Ticketless →
      Heard said (.raiseTicket draft) (.ok key) →
      s'.requests name = some { r.record
        ⟨.fresh, "Jira ticket " ++ key ++ " created", .issue key⟩ with version := version } →
      Aftermath name f s s' said
  | granted {r version before after} : s.requests name = some r → r.status.phase = .preApproved →
      s'.requests name = some { r.record
        ⟨.succeeded, Ticket.grantedMessage, r.status.ticket⟩ with version := version } →
      said = before ++ after → TeardownFails f after → Aftermath name f s s' said

namespace Aftermath

variable {said : List Turn}

theorem isSome_eq (h : Aftermath name f s s' said) :
    (s'.requests name).isSome = (s.requests name).isSome := by
  cases h with
  | unaltered hs => rw [hs]
  | ticketed hr _ _ hs => rw [hs, hr, Option.isSome_some, Option.isSome_some]
  | granted hr _ hs => rw [hs, hr, Option.isSome_some, Option.isSome_some]

theorem not_decided {q : Request} (h : Aftermath name f s s' said)
    (hq : s'.requests name = some q)
    (hp : q.status.phase = .preApproved ∨ q.status.phase = .rejected) :
    s.requests name = some q := by
  cases h with
  | unaltered hs => exact hs ▸ hq
  | ticketed _ _ _ hs =>
    cases hq.symm.trans hs
    cases hp <;> contradiction
  | granted _ _ hs =>
    cases hq.symm.trans hs
    cases hp <;> contradiction

end Aftermath

namespace Course

theorem unaltered (h : Course others s ms s')
    (alone : ∀ {a b}, others a b → b.requests name = a.requests name)
    (inert : ∀ m ∈ ms, m.Inert) (un : Unaltered (ms.map Moment.said)) :
    s'.requests name = s.requests name :=
  h.relates (R := fun a b => b.requests name = a.requests name) (fun hab hbc => hbc.trans hab)
    alone fun m hm => congrFun ((inert m hm).requests_eq (un m.said (List.mem_map_of_mem hm))) name

theorem stored_in_hand {held : Request} {before after : List Moment}
    (h : Course others s before s')
    (alone : ∀ {a b}, others a b → b.requests name = a.requests name)
    (inert : ∀ m ∈ before, m.Inert) (hv : v.moments = before ++ after)
    (hl : latest Turn.record? (before.map Moment.said) = some held)
    (un : Unaltered (before.map Moment.said)) : s'.requests name = some held := by
  obtain ⟨earlier, m, between, rfl, -, hstored⟩ := v.exists_brought hv hl
  rw [List.map_append, List.map_cons, unaltered_append, unaltered_cons] at un
  rw [h.split.2.unaltered alone (fun x hx => inert x (by simp [hx])) un.2.2, hstored]

theorem entered {phase : Phase} {stored : Request} {said after : List Turn}
    (h : Course others s v.moments s')
    (alone : ∀ {a b}, others a b → b.requests name = a.requests name)
    (inert : ∀ m ∈ v.moments, m.Inert) (hv : v.moments.map Moment.said = said ++ after)
    (enters : Enters phase stored said) (un : Unaltered after) :
    ∃ r e u version, s.requests name = some r ∧ Decides (v.moments.map Moment.said) r e u ∧
      u.phase = phase ∧ s'.requests name = some { r.record u with version := version } := by
  obtain ⟨past, w, rfl, un', rfl⟩ := enters
  rw [List.append_assoc] at hv
  obtain ⟨before, rest, hms, rfl, hrest⟩ := List.map_eq_append_iff.1 hv
  obtain ⟨m, later, rfl, hm, rfl⟩ := List.map_eq_cons_iff.1 hrest
  have hop : m.op = .call (.putStatus w) := congrArg Sigma.fst hm
  obtain ⟨r, e, found, hn, u, held, rfl, hl, dec, -⟩ := v.found_of_write hms hop
  rw [hms] at h inert
  have hb : m.before.requests name = s.requests name :=
    h.split.1.unaltered alone (fun x hx => inert x (by simp [hx])) un'
  have ha : s'.requests name = m.after.requests name :=
    h.split.2.unaltered alone (fun x hx => inert x (by simp [hx])) un
  have hheld : m.before.requests name = some held :=
    h.split.1.stored_in_hand alone (fun x hx => inert x (by simp [hx])) hms hl un'
  have hfirst : s.requests name = some r := h.split.1.found_request alone found
  obtain rfl : held = r := Option.some.inj (hheld.symm.trans (hb.trans hfirst))
  have dec' : Decides (v.moments.map Moment.said) held e u := dec.mono (by simp [hms])
  obtain ⟨version, hstored⟩ := m.stored_request hm hn (hb.trans hfirst)
  exact ⟨held, e, u, version, hfirst, dec', rfl, ha.trans hstored⟩

end Course

/-- If nobody else touches the request and failed calls have no effect, a visit that fails leaves
the request as it was, or with the ticket that the visit has just opened, or with the access that it
has just given. In particular the request is never newly pre-approved or rejected, nor deleted. -/
theorem failed_visit_leaves_request (h : Course others s v.moments s')
    (alone : ∀ {a b}, others a b → b.requests name = a.requests name)
    (inert : ∀ m ∈ v.moments, m.Inert) (failed : v.result = some (.error f)) :
    Aftermath name f s s' (v.moments.map Moment.said) ∧
      (s'.requests name).isSome = (s.requests name).isSome ∧
      ∀ q, s'.requests name = some q → q.status.phase = .preApproved ∨ q.status.phase = .rejected →
        s.requests name = some q := by
  have left : Aftermath name f s s' (v.moments.map Moment.said) := by
    have talk := v.talk
    rw [failed] at talk
    cases Keeper.reconcile_recedes _ f talk with
    | unaltered un => exact .unaltered (h.unaltered alone inert un)
    | ticketed heq enters un =>
      obtain ⟨r, e, u, version, hr, dec, hu, hs⟩ := h.entered alone inert heq enters un
      cases dec with
      | opened review ht heard => exact .ticketed hr ⟨review.fresh, ht⟩ heard hs
      | _ => cases hu
    | granted heq enters fails =>
      obtain ⟨r, e, u, version, hr, dec, hu, hs⟩ := h.entered alone inert heq enters fails.unaltered
      cases dec with
      | granted hp => exact .granted hr hp hs heq fails
      | resumed hp => exact .granted hr hp hs heq fails
      | _ => cases hu
  exact ⟨left, left.isSome_eq, fun _ => left.not_decided⟩

namespace Sample

theorem submitted_inert : ∀ m ∈ submitted.moments, m.Inert := by
  simp only [submitted, List.forall_mem_cons]
  refine ⟨?_, ?_, ?_, ?_, ?_, ?_, ?_, List.forall_mem_nil _⟩
  case refine_5 =>
    intro c f h
    cases h
  all_goals exact fun _ _ _ => rfl

theorem submitted_leaves_ticket :
    Aftermath "jit-1" (.external none "down") submission underReview
        (submitted.moments.map Moment.said) ∧
      (underReview.requests "jit-1").isSome = (submission.requests "jit-1").isSome ∧
      ∀ q, underReview.requests "jit-1" = some q →
        q.status.phase = .preApproved ∨ q.status.phase = .rejected →
        submission.requests "jit-1" = some q := by
  have course : Course (fun a b => b.requests "jit-1" = a.requests "jit-1") submission
      submitted.moments underReview :=
    .next rfl <| .next rfl <| .next rfl <| .next rfl <| .next rfl <| .next rfl <| .next rfl <|
      .last rfl
  exact failed_visit_leaves_request course id submitted_inert rfl

end Sample

end AccessWindow
