import AccessWindow.Proofs.Agreement
import AccessWindow.Proofs.Dutiful

namespace AccessWindow

open Lifecycle

variable {others : Scene → Scene → Prop} {s s' : Scene} {m : Moment} {name : String}
  {v : Visit name} {tickets : String → Prop} {result : Except Fault Outcome} {f : Fault}

namespace Visit

/-- A step was to be put on record when the request was gone. -/
def MissesRequest (v : Visit name) : Prop :=
  ∃ m ∈ v.moments, ∃ w, m.op = .call (.putStatus w) ∧ m.before.requests name = none

/-- The visit reviewed a fresh request, and was to comment on a ticket that the tracker does not
know. -/
def MissesTicket (v : Visit name) (tickets : String → Prop) : Prop :=
  (∃ r e, Found name (v.moments.map Moment.said) r e ∧ Reviewable r e) ∧
    ∃ m ∈ v.moments, ∃ key body, m.op = .call (.commentOn key body) ∧ ¬tickets key

theorem denied_iff (dutiful : ∀ m ∈ v.moments, m.Dutiful tickets)
    (civil : ∀ x ∈ v.moments.map Moment.said, x.Civil) :
    (∃ f, Denied (∃ r e, Found name (v.moments.map Moment.said) r e ∧ Reviewable r e)
        (v.moments.map Moment.said) f) ↔
      v.MissesRequest ∨ v.MissesTicket tickets := by
  constructor
  · rintro ⟨f, c, binds, heard⟩
    obtain ⟨m, hm, hsaid⟩ := List.mem_map.1 heard
    have refuses := ((dutiful m hm).refused c f hsaid).2
    have denies : c.denies f := civil _ heard
    have hop : m.op = .call c := congrArg Sigma.fst hsaid
    cases c with
    | putStatus w =>
      obtain ⟨message, rfl⟩ := eq_notFound_of_isAbsent denies
      obtain ⟨before, after, hv⟩ := List.append_of_mem hm
      obtain ⟨-, -, -, hn, -⟩ := v.found_of_write hv hop
      exact .inl ⟨m, hm, w, hop, hn ▸ refuses⟩
    | commentOn key body =>
      obtain ⟨message, rfl⟩ := eq_notFound_of_isAbsent denies
      exact .inr ⟨binds, m, hm, key, body, hop, refuses⟩
    | _ => exact binds.elim
  · rintro (⟨m, hm, w, hop, gone⟩ | ⟨reviewing, m, hm, key, body, hop, missing⟩)
    · obtain ⟨before, after, hv⟩ := List.append_of_mem hm
      obtain ⟨-, -, -, rfl, -⟩ := v.found_of_write hv hop
      obtain ⟨f, hsaid⟩ := m.refused_of_gone hop gone
      exact ⟨f, .putStatus w, trivial, List.mem_map.2 ⟨m, hm, hsaid⟩⟩
    · have known := (dutiful m hm).known
      obtain ⟨before, op, answer, after, lawful⟩ := m
      cases hop
      cases answer with
      | ok a => exact absurd (known key rfl) missing
      | error f => exact ⟨f, .commentOn key body, reviewing, List.mem_map.2 ⟨_, hm, rfl⟩⟩

end Visit

/-- In surroundings where nothing fails but for what is missing, a visit fails just when a step is
to be put on the record of a request that is gone, or when the ticket of a request that it reviews
is missing. The fault then says so. -/
theorem fails_iff_missing (h : Course others s v.moments s')
    (idle : ∀ {a b}, others a b → a.Thins name b)
    (loaded : ∀ {a b}, others a b → b.edition = a.edition) (hs : s.edition.isSome)
    (dutiful : ∀ m ∈ v.moments, m.Dutiful tickets) (ended : v.result = some result) :
    ((∃ f, result = .error f) ↔ v.MissesRequest ∨ v.MissesTicket tickets) ∧
      ∀ f, result = .error f → ∃ message, f = .notFound message := by
  have civil := h.civil idle loaded hs dutiful
  have talk := v.talk
  rw [ended] at talk
  have fails (f : Fault) := Keeper.reconcile_failsBy (f := f) talk civil
  constructor
  · rw [← v.denied_iff dutiful civil]
    exact exists_congr fails
  · intro f hf
    obtain ⟨c, binds, heard⟩ := (fails f).1 hf
    have denies : c.denies f := civil _ heard
    cases c with
    | putStatus | commentOn => exact eq_notFound_of_isAbsent denies
    | _ => exact binds.elim

namespace Sample

def Fragile (s s' : Scene) : Prop := s.Thins "jit-1" s' ∧ s'.edition = s.edition

theorem fragile_refl {s : Scene} : Fragile s s := ⟨.inl rfl, rfl⟩

def forsaken : Scene := atStart.dropRequest "jit-1"

theorem fragile_forsaken : Fragile atStart forsaken := ⟨.inr rfl, rfl⟩

theorem atStart_lists_none (g : Grant) : g ∈ [] ↔ atStart.grants "team-a" g.name = some g := by
  simp [atStart, scene]

def overtaken : Visit "jit-1" where
  keeper := keeper
  lastKnown := []
  moments := provision.take 3 ++ [
    ⟨atStart, .call (.stateOfTicket "IAM-1"), .ok "To Do", atStart, rfl⟩,
    ⟨atStart, .call (.grantsWithin "team-a"), .ok [], atStart, atStart_lists_none, rfl⟩,
    ⟨atStart, .call (.publishEvent ⟨"jit-1", "u1", .ticketNotApproved,
      "Jira ticket has not been approved"⟩), .ok (), atStart, rfl⟩,
    ⟨forsaken, .call (.putStatus ((request awaiting).record
      ⟨.rejected, "Jira ticket has not been approved", .issue "IAM-1"⟩)),
      .error (.notFound "gone"), forsaken, .inl rfl⟩]
  result := some (.error (.notFound "gone"))
  talk := Program.dialogue_of_replay (by decide +kernel)

theorem overtaken_dutiful : ∀ m ∈ overtaken.moments, m.Dutiful fun _ => True := by
  simp only [overtaken, provision, List.take_succ_cons, List.take_zero, List.cons_append,
    List.nil_append, List.forall_mem_cons]
  refine ⟨.of_all_known id, .of_all_known id, .of_all_known id, .of_all_known id,
    .of_all_known id, .of_all_known id, ⟨?_, fun _ _ => trivial⟩, List.forall_mem_nil _⟩
  intro c f h
  cases h
  exact ⟨rfl, rfl⟩

def welcoming : Call :=
  .commentOn "IAM-1" (Ticket.preApprovedNote Sample.spec edition.rulebook.comment)

def ticketless : Visit "jit-1" where
  keeper := keeper
  lastKnown := []
  moments := reviewed.moments.take 3 ++ [
    ⟨underReview, .call welcoming, .error (.notFound "no such ticket"), underReview, .inl rfl⟩]
  result := some (.error (.notFound "no such ticket"))
  talk := Program.dialogue_of_replay (by decide +kernel)

theorem ticketless_dutiful : ∀ m ∈ ticketless.moments, m.Dutiful fun _ => False := by
  simp only [ticketless, reviewed, submitted, List.take_succ_cons, List.take_zero,
    List.cons_append, List.nil_append, List.forall_mem_cons]
  refine ⟨.of_mute id rfl, .of_mute id rfl, .of_mute id rfl,
    ⟨?_, fun _ h => ?_⟩, List.forall_mem_nil _⟩
  · intro c f h
    cases h
    exact ⟨rfl, id⟩
  · cases h

theorem overtaken_course : Course Fragile atStart overtaken.moments forsaken :=
  .next fragile_refl <| .next fragile_refl <| .next fragile_refl <| .next fragile_refl <|
    .next fragile_refl <| .next fragile_refl <| .next fragile_forsaken <| .last fragile_refl

theorem overtaken_fails :
    ((∃ f, (.error (.notFound "gone") : Except Fault Outcome) = .error f) ↔
        overtaken.MissesRequest ∨ overtaken.MissesTicket fun _ => True) ∧
      ∀ f, (.error (.notFound "gone") : Except Fault Outcome) = .error f →
        ∃ message, f = .notFound message :=
  fails_iff_missing overtaken_course And.left And.right rfl overtaken_dutiful rfl

/-- A visit can fail although nothing is wrong but that the request has been deleted, or that its
ticket is missing. -/
theorem absence_can_fail_a_visit :
    (∃ s', Course Fragile atStart overtaken.moments s' ∧
      (∀ m ∈ overtaken.moments, m.Dutiful fun _ => True) ∧
      overtaken.result = some (.error (.notFound "gone"))) ∧
    ∃ s', Course Fragile underReview ticketless.moments s' ∧
      (∀ m ∈ ticketless.moments, m.Dutiful fun _ => False) ∧
      ticketless.result = some (.error (.notFound "no such ticket")) := by
  have course : Course Fragile underReview ticketless.moments underReview :=
    .next fragile_refl <| .next fragile_refl <| .next fragile_refl <| .next fragile_refl <|
      .last fragile_refl
  exact ⟨⟨_, overtaken_course, overtaken_dutiful, rfl⟩, _, course, ticketless_dutiful, rfl⟩

end Sample

end AccessWindow
