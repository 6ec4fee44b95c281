import AccessWindow.Proofs.Conduct.Smooth
import AccessWindow.Proofs.SingleTicket

namespace AccessWindow

open Lifecycle

variable {others : Scene → Scene → Prop} {s s' : Scene} {name : String} {v : Visit name}
  {r : Request} {e : Edition} {answers : Answers}
  {result : Except Fault Outcome}

theorem Course.landed {phase : Phase} (h : Course others s v.moments s')
    (alone : ∀ {a b}, others a b → b.requests name = a.requests name)
    (lands : Lands phase (v.moments.map Moment.said)) :
    ∃ q, s'.requests name = some q ∧ q.status.phase = phase := by
  obtain ⟨past, w, stored, hmap, hw⟩ := lands
  obtain ⟨before, m, hv, -, hm⟩ := Moment.exists_last hmap
  have hstored : m.after.requests name = some stored :=
    v.stored_of_record hv (by rw [hm]; rfl)
  rw [hv] at h
  cases h.split.2 with
  | last idle => exact ⟨stored, alone idle ▸ hstored, by rw [m.stored_status hm, hw]⟩

theorem Visit.decided {outcome : Outcome} (h : Course others s v.moments s')
    (alone : ∀ {a b}, others a b → b.requests name = a.requests name)
    (hs : s.requests name = some r) (fresh : r.status.Ticketless)
    (edition : answers .edition = some e) (steady : (answers .clock).isLeap = false)
    (smooth : Smooth answers r.spec (v.moments.map Moment.said))
    (ended : v.result = some (.ok outcome)) :
    Decided (v.keeper.Accepts answers r.spec e) (v.moments.map Moment.said) := by
  have talk := v.talk
  rw [ended] at talk
  obtain ⟨answer, rest, hmap, later⟩ := talk.of_ask
  rw [hmap] at smooth
  cases answer with
  | error f => cases smooth.bears
  | ok found =>
    obtain ⟨current, rest, rfl, last⟩ := Program.Dialogue.of_step later
    obtain rfl : current = some e :=
      (smooth.told ⟨.edition, current⟩ (by simp) rfl).trans edition
    have inquiry : Lifecycle.Found name (v.moments.map Moment.said) found e := by
      rw [hmap]
      exact List.prefix_append [_, _] rest
    cases hs.symm.trans (h.found_request alone inquiry)
    rw [hmap]
    have reviewed : (v.keeper.review r e).Dialogue rest (some (.ok outcome)) := by
      have proceeds : (v.keeper.proceed r e).Dialogue rest (some (.ok outcome)) := last
      rwa [Keeper.proceed, fresh.1] at proceeds
    have decided := Keeper.review_decided rfl fresh.2 steady smooth.tail.tail reviewed
    exact (decided.prepend : Decided _ ([_, _] ++ rest))

/-- A visit to a fresh request without a ticket pre-approves it if and only if its admission, the
people apart, would find nothing wrong with it and the reporter has an account. Else the visit
rejects it. There is no third way, and no fault, as long as nothing fails and nothing changes. -/
theorem review_agrees_with_admission {selfApproval : Bool} (h : Course others s v.moments s')
    (alone : ∀ {a b}, others a b → b.requests name = a.requests name)
    (hs : s.requests name = some r) (fresh : r.status.Ticketless)
    (edition : answers .edition = some e) (steady : (answers .clock).isLeap = false)
    (told : ∀ x ∈ v.moments.map Moment.said, x.1.isQuestion → x.2 = answers x.1)
    (calm : ¬Upset (v.moments.map Moment.said)) (ended : v.result = some result) :
    ∃ outcome q, result = .ok outcome ∧ s'.requests name = some q ∧
      (q.status.phase = .preApproved ∨ q.status.phase = .rejected) ∧
      (q.status.phase = .preApproved ↔
        ((⟨false, selfApproval⟩ : Validator).violation? (v.keeper.checked r.spec) e
            (answers .clock)).under answers = .ok none ∧
          ∃ account, answers (.call (.accountOf r.spec.reporter)) = .ok account) := by
  have smooth : Smooth answers r.spec (v.moments.map Moment.said) := by
    refine ⟨calm, told, fun x hx held hrec => ?_⟩
    obtain ⟨q, hq, hspec⟩ : ∃ q, s.requests name = some q ∧ held.spec = q.spec :=
      h.spec_of_record (fun ho q hq => ⟨q, alone ho ▸ hq, rfl⟩)
        (List.append_nil v.moments).symm hx hrec
    cases hs.symm.trans hq
    exact hspec
  obtain ⟨outcome, rfl⟩ : ∃ outcome, result = .ok outcome := by
    have ends := v.ends ended
    cases result with
    | ok outcome => exact ⟨outcome, rfl⟩
    | error f => exact absurd ends calm
  have decided := v.decided h alone hs fresh edition steady smooth ended
  rw [Keeper.accepts_iff selfApproval] at decided
  cases decided with
  | accepted accepts lands =>
    obtain ⟨q, hq, hp⟩ := h.landed alone lands
    exact ⟨outcome, q, rfl, hq, .inl hp, iff_of_true hp accepts⟩
  | refused accepts lands =>
    obtain ⟨q, hq, hp⟩ := h.landed alone lands
    exact ⟨outcome, q, rfl, hq, .inr hp, iff_of_false (by simp [hp]) accepts⟩

namespace Sample

def steadily : Answers
  | .edition => some edition
  | .clock => .epoch
  | .call (.accountOf _) => .ok "dev"
  | .call _ => .error (.external none "down")
  | .adopt _ => .error (.configuration "down")
  | .sleep _ => ()

def reviewedAtOnce : Visit "jit-1" where
  keeper := keeper
  lastKnown := []
  moments := submitted.moments.take 6 ++ reviewed.moments.drop 3
  result := some (.ok (.again 86340000000000))
  talk := Program.dialogue_of_replay (by decide +kernel)

theorem reviewedAtOnce_smooth : ∀ x ∈ reviewedAtOnce.moments.map Moment.said,
    ¬x.Upsets ∧ (x.1.isQuestion → x.2 = steadily x.1) := by
  refine List.forall_mem_cons.2 ⟨⟨id, nofun⟩, ?_⟩
  refine List.forall_mem_cons.2 ⟨⟨id, fun _ => rfl⟩, ?_⟩
  refine List.forall_mem_cons.2 ⟨⟨id, fun _ => rfl⟩, ?_⟩
  refine List.forall_mem_cons.2 ⟨⟨id, nofun⟩, ?_⟩
  refine List.forall_mem_cons.2 ⟨⟨id, nofun⟩, ?_⟩
  refine List.forall_mem_cons.2 ⟨⟨id, fun _ => rfl⟩, ?_⟩
  refine List.forall_mem_cons.2 ⟨⟨id, nofun⟩, ?_⟩
  refine List.forall_mem_cons.2 ⟨⟨id, nofun⟩, ?_⟩
  exact List.forall_mem_singleton.2 ⟨id, nofun⟩

theorem reviewedAtOnce_agrees : ∃ outcome q,
    (.ok (.again 86340000000000) : Except Fault Outcome) = .ok outcome ∧
      (underReview.putRequest accepted).requests "jit-1" = some q ∧
      (q.status.phase = .preApproved ∨ q.status.phase = .rejected) ∧
      (q.status.phase = .preApproved ↔
        ((⟨false, false⟩ : Validator).violation? (keeper.checked Sample.spec) edition
            (steadily .clock)).under steadily = .ok none ∧
          ∃ account, steadily (.call (.accountOf Sample.spec.reporter)) = .ok account) := by
  have course : Course (fun a b => b.requests "jit-1" = a.requests "jit-1") submission
      reviewedAtOnce.moments (underReview.putRequest accepted) :=
    .next rfl <| .next rfl <| .next rfl <| .next rfl <| .next rfl <| .next rfl <| .next rfl <|
      .next rfl <| .next rfl <| .last rfl
  exact review_agrees_with_admission course id (r := request .initial) rfl ⟨rfl, rfl⟩ rfl rfl
    (fun x hx => (reviewedAtOnce_smooth x hx).2)
    (fun ⟨x, hx, upsets⟩ => (reviewedAtOnce_smooth x hx).1 upsets) rfl

end Sample

end AccessWindow
