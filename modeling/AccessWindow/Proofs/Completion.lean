import AccessWindow.Proofs.Approval
import AccessWindow.Proofs.Provisioned
import AccessWindow.Proofs.TicketKept

namespace AccessWindow

open Lifecycle

variable {others : Scene → Scene → Prop} {s s' : Scene} {m : Moment}
  {ms before after : List Moment} {name key : String} {r : Request} {e : Edition} {v : Visit name}

/-- In these moments of a visit the ticket is moved as the edition in force has it for completed
tickets, or it is found to be gone. -/
def Completion (name key : String) (ms : List Moment) : Prop :=
  ∃ r e, Found name (ms.map Moment.said) r e ∧
    (Moved (ms.map Moment.said) key e.rulebook.completeTransition ∨
      ∃ message, Heard (ms.map Moment.said) (.commentOn key Ticket.doneNote)
        (.error (.notFound message)))

def Affirmed (name key : String) (ms : List Moment) : Prop :=
  ∃ r e, Found name (ms.map Moment.said) r e ∧ r.status.ticket = .issue key ∧
    Heard (ms.map Moment.said) (.stateOfTicket key) (.ok e.rulebook.approvedStatus)

theorem Affirmed.append (h : Affirmed name key before) : Affirmed name key (before ++ after) := by
  obtain ⟨r, e, hf, hk, heard⟩ := h
  have hp : before.map Moment.said <+: (before ++ after).map Moment.said := by simp
  exact ⟨r, e, hf.mono hp, hk, heard.mono hp⟩

theorem affirmed_of_approved (hf : Found name (ms.map Moment.said) r e)
    (approved : Approved (ms.map Moment.said) r e key) : Affirmed name key ms := by
  obtain ⟨hk, t, -, hs⟩ := approved
  exact ⟨r, e, hf, hk, hs.subset (List.mem_cons_of_mem _ List.mem_cons_self)⟩

inductive Call.Touches (key : String) : Call → Prop
  | move {id : String} : Touches key (.transition key id)
  | note {body : String} : Touches key (.commentOn key body)

def Scene.Bound (s : Scene) (name key : String) : Prop :=
  ∀ q, s.requests name = some q → q.status.phase ≠ .fresh ∧ q.status.ticket = .issue key

namespace Visit

theorem approved_of_touching {c : Call} (hv : v.moments = before ++ m :: after)
    (hf : Found name (v.moments.map Moment.said) r e) (hp : r.status.phase = .preApproved)
    (hop : m.op = .call c) (hc : c.Touches key) : Approved (before.map Moment.said) r e key := by
  have hpre : before.map Moment.said <+: v.moments.map Moment.said := by simp [hv]
  have permitted := v.permitted hv
  rw [hop] at permitted
  cases hc with
  | move =>
    cases permitted with
    | complete found _ approved =>
      obtain ⟨rfl, rfl⟩ := found.unique hf hpre
      exact approved
    | decline found hd =>
      obtain ⟨rfl, rfl⟩ := found.unique hf hpre
      exact absurd hp hd.not_preApproved
  | note =>
    cases permitted with
    | note found _ approved =>
      obtain ⟨rfl, rfl⟩ := found.unique hf hpre
      exact approved
    | welcome found _ review =>
      obtain ⟨rfl, rfl⟩ := found.unique hf hpre
      cases review.fresh.symm.trans hp
    | explain found hd =>
      obtain ⟨rfl, rfl⟩ := found.unique hf hpre
      exact absurd hp hd.not_preApproved

theorem affirmed_of_completion (hv : v.moments = before ++ after)
    (found : Found name (before.map Moment.said) r e) (hp : r.status.phase = .preApproved)
    (completion : Completion name key before) : Affirmed name key before := by
  have upon {c : Call} {answer : Except Fault c.Answer}
      (heard : Heard (before.map Moment.said) c answer) (hc : c.Touches key) :
      Affirmed name key before := by
    obtain ⟨m, hm, hsaid⟩ := List.mem_map.1 heard
    have hop : m.op = .call c := congrArg Sigma.fst hsaid
    obtain ⟨ms, rest, rfl⟩ := List.append_of_mem hm
    have hv' : v.moments = ms ++ m :: (rest ++ after) := by simp [hv]
    have approved := v.approved_of_touching hv' (v.found_whole hv found) hp hop hc
    exact affirmed_of_approved found (approved.mono (by simp))
  obtain ⟨r', e', -, moved | gone⟩ := completion
  · cases moved with
    | inl heard => exact upon heard .move
    | inr heard => exact upon heard.choose_spec .move
  · exact upon gone.choose_spec .note

end Visit

namespace Course

theorem bound (h : Course others s v.moments s')
    (status : ∀ {a b}, others a b → a.KeepsStatus name b) (hs : s.Bound name key) :
    s'.Bound name key := by
  intro q hq
  obtain ⟨old, hold, hstatus⟩ := h.status_before status hq
  cases hstatus with
  | inl same => exact same ▸ hs old hold
  | inr hw =>
    obtain ⟨m, hm, w, hop, -, hwritten⟩ := hw
    obtain ⟨before, after, hv⟩ := List.append_of_mem hm
    obtain ⟨r, e, hf, -, u, held, rfl, -, dec, -⟩ := v.found_of_write hv hop
    obtain ⟨old', hold', hr⟩ := h.found_status status (v.found_whole hv hf)
    obtain ⟨hp, hk⟩ := hs old' hold'
    rw [← hr] at hp hk
    rw [hwritten]
    constructor
    · intro hfresh
      have hleads := dec.leads
      rw [show u.phase = .fresh from hfresh] at hleads
      cases hphase : r.status.phase <;> simp_all [Phase.Leads]
    · exact (dec.keeps hk).resolve_right fun hfresh => hp hfresh.1

theorem bound_of_found (h : Course others s ms s')
    (status : ∀ {a b}, others a b → a.KeepsStatus name b)
    (hf : Found name (ms.map Moment.said) r e) (hp : r.status.phase = .preApproved)
    (hk : r.status.ticket = .issue key) : s.Bound name key := by
  intro q hq
  obtain ⟨old, hold, hr⟩ := h.found_status status hf
  cases hq.symm.trans hold
  rw [← hr, hp, hk]
  exact ⟨nofun, rfl⟩

theorem affirmed (h : Course others s v.moments s')
    (spares : ∀ {a b}, others a b → a.SparesGrants name b) (hv : v.moments = before ++ after)
    (found : Found name (before.map Moment.said) r e)
    (why : (∃ key, Approved (before.map Moment.said) r e key) ∨
      Holding (before.map Moment.said) r) :
    (∃ key, r.status.ticket = .issue key ∧ Affirmed name key before) ∨
      s.Holds name r.spec.namespaces := by
  have upon (approved : ∃ key, Approved (before.map Moment.said) r e key) :
      ∃ key, r.status.ticket = .issue key ∧ Affirmed name key before := by
    obtain ⟨key, approved⟩ := approved
    exact ⟨key, approved.1, affirmed_of_approved found approved⟩
  cases why with
  | inl approved => exact .inl (upon approved)
  | inr holding => exact (h.holding spares hv found holding).imp upon id

end Course

theorem History.affirmed {vs : List (Visit name)} (h : History others s vs s')
    (status : ∀ {a b}, others a b → a.KeepsStatus name b)
    (spares : ∀ {a b}, others a b → a.SparesGrants name b)
    (bare : ∀ scope key g, s.grants scope key = some g → ¬g.belongsTo name) :
    ∀ scope place g, s'.grants scope place = some g → g.belongsTo name →
      ∃ key, s'.Bound name key ∧ ∃ u ∈ vs, Affirmed name key u.moments := by
  induction h with
  | start =>
    intro scope place g hg ho
    exact absurd ho (bare scope place g hg)
  | @visit vs s₁ v s₂ _ course ih =>
    have past {scope place : String} {g : Grant} (hg : s₁.grants scope place = some g)
        (ho : g.belongsTo name) :
        ∃ key, s₂.Bound name key ∧ ∃ u ∈ vs ++ [v], Affirmed name key u.moments := by
      obtain ⟨key, bound, u, hu, affirmed⟩ := ih scope place g hg ho
      exact ⟨key, course.bound status bound, u, List.mem_append_left _ hu, affirmed⟩
    intro scope place g hg ho
    cases course.grant_before spares hg ho with
    | inl stood =>
      obtain ⟨old, hold, ho'⟩ := stood
      exact past hold ho'
    | inr made =>
      obtain ⟨m, hm, g', hop, -⟩ := made
      obtain ⟨before, after, hv⟩ := List.append_of_mem hm
      have permitted := v.permitted hv
      rw [hop] at permitted
      cases permitted with
      | @grant r e _ found _ hp why =>
      cases course.affirmed spares hv found why with
      | inl affirmed =>
        obtain ⟨key, hk, affirmed⟩ := affirmed
        have bound := course.bound_of_found status (v.found_whole hv found) hp hk
        exact ⟨key, course.bound status bound, v, by simp, hv ▸ affirmed.append⟩
      | inr stood =>
        obtain ⟨scope, -, place, g, hg, ho⟩ := stood
        exact past hg ho

/-- When access is put on record, the ticket has been completed in that visit if and only if the
visit has found it approved. If not, an earlier visit has. -/
theorem completed_iff_affirmed {vs : List (Visit name)} (h : History others s vs s')
    (status : ∀ {a b}, others a b → a.KeepsStatus name b)
    (spares : ∀ {a b}, others a b → a.SparesGrants name b)
    (bare : ∀ scope key g, s.grants scope key = some g → ¬g.belongsTo name)
    {earlier later : List (Visit name)} (hvs : vs = earlier ++ v :: later)
    (hv : v.moments = before ++ m :: after) {w : Request} (hop : m.op = .call (.putStatus w))
    (hw : w.status.phase = .succeeded) (hk : w.status.ticket = .issue key) :
    (Completion name key before ↔ Affirmed name key before) ∧
      (¬Affirmed name key before → ∃ u ∈ earlier, Affirmed name key u.moments) := by
  subst hvs
  obtain ⟨s₁, s₂, past, course, -⟩ := h.split
  obtain ⟨r, e, found, earned, hp, hticket, -, why⟩ := v.earned hv hop hw
  rw [hticket] at hk
  refine ⟨⟨v.affirmed_of_completion hv found hp, fun affirmed => ?_⟩, fun none => ?_⟩
  · obtain ⟨r', e', found', -, heard⟩ := affirmed
    obtain ⟨rfl, rfl⟩ := found'.unique found (List.prefix_refl _)
    exact ⟨r', e', found, (earned.completed key hk heard).imp (·.2) id⟩
  · cases course.affirmed spares hv found why with
    | inl affirmed =>
      obtain ⟨key', hk', affirmed⟩ := affirmed
      cases hk.symm.trans hk'
      exact absurd affirmed none
    | inr stood =>
      obtain ⟨scope, -, place, g, hg, ho⟩ := stood
      obtain ⟨key', bound, u, hu, affirmed⟩ := past.affirmed status spares bare scope place g hg ho
      obtain ⟨old, hold, hr⟩ := course.found_status status (v.found_whole hv found)
      have hk' := (bound old hold).2
      rw [← hr] at hk'
      cases hk.symm.trans hk'
      exact ⟨u, hu, affirmed⟩

namespace Sample

def interrupted : Visit "jit-1" where
  keeper := keeper
  lastKnown := []
  moments := beginning ++ [granting,
    ⟨stocked, .call (.commentOn "IAM-1" Ticket.doneNote), .error (.external none "down"), stocked,
      .inl rfl⟩]
  result := some (.error (.external none "down"))
  talk := Program.dialogue_of_replay (by decide +kernel)

theorem stocked_lists (g : Grant) : g ∈ [grant] ↔ stocked.grants "team-a" g.name = some g :=
  lists_single (fun _ => rfl) g

def carriedOn : Visit "jit-1" where
  keeper := keeper
  lastKnown := []
  moments := [
    ⟨stocked, .call (.requestNamed "jit-1"), .ok accepted, stocked, rfl, rfl⟩,
    ⟨stocked, .edition, some edition, stocked, rfl, rfl⟩,
    ⟨stocked, .clock, spec.start, stocked, rfl, rfl⟩,
    ⟨stocked, .call (.stateOfTicket "IAM-1"), .ok "In Progress", stocked, rfl⟩,
    ⟨stocked, .call (.grantsWithin "team-a"), .ok [grant], stocked, stocked_lists, rfl⟩,
    ⟨stocked, .call (.addGrant grant), .error (.alreadyExists "taken"), stocked, .inl rfl⟩] ++
    completing.drop 2
  result := some (.ok (.again 60000000000))
  talk := Program.dialogue_of_replay (by decide +kernel)

theorem carriedOn_history :
    History (Scene.Undisturbed "jit-1") submission [submitted, reviewed, interrupted, carriedOn]
      (stocked.putRequest succeeded) := by
  have first : Course (Scene.Undisturbed "jit-1") preApproved interrupted.moments stocked :=
    .next (Scene.undisturbed_of_eq (by decide) rfl rfl) <| .next .refl <| .next .refl <|
      .next .refl <| .next .refl <| .next .refl <| .last .refl
  have second : Course (Scene.Undisturbed "jit-1") stocked carriedOn.moments
      (stocked.putRequest succeeded) :=
    .next .refl <| .next .refl <| .next .refl <| .next .refl <| .next .refl <| .next .refl <|
      .next .refl <| .next .refl <| .last .refl
  have earlier : History (Scene.Undisturbed "jit-1") submission
      ([submitted, reviewed] ++ [interrupted]) stocked :=
    .visit (reviewed_history .refl) first
  have history : History (Scene.Undisturbed "jit-1") submission
      ([submitted, reviewed, interrupted] ++ [carriedOn]) (stocked.putRequest succeeded) :=
    .visit earlier second
  exact history

theorem carriedOn_upon_earlier :
    (Completion "jit-1" "IAM-1" (carriedOn.moments.take 6) ↔
        Affirmed "jit-1" "IAM-1" (carriedOn.moments.take 6)) ∧
      (¬Affirmed "jit-1" "IAM-1" (carriedOn.moments.take 6) →
        ∃ u ∈ [submitted, reviewed, interrupted], Affirmed "jit-1" "IAM-1" u.moments) := by
  have write : carriedOn.moments = carriedOn.moments.take 6 ++ completing[2] ::
      carriedOn.moments.drop 7 := rfl
  exact completed_iff_affirmed carriedOn_history Scene.Undisturbed.status Scene.Undisturbed.grants
    scene_bare (rfl : _ = [submitted, reviewed, interrupted] ++ carriedOn :: []) write
    (w := accepted.record succeeding) rfl rfl rfl

/-- Access can be on record although the ticket was never completed, while nobody else touches the
request or its grants. -/
theorem ticket_can_stay_open :
    ∃ s', History (Scene.Undisturbed "jit-1") submission
        [submitted, reviewed, interrupted, carriedOn] s' ∧
      (∀ q, submission.requests "jit-1" = some q → q.status = .initial) ∧
      (∀ scope key, submission.grants scope key = none) ∧
      (∃ m ∈ carriedOn.moments, m.said = ⟨.call (.putStatus (accepted.record succeeding)),
        .ok succeeded⟩) ∧
      succeeded.status.phase = .succeeded ∧ succeeded.status.ticket = .issue "IAM-1" ∧
      ∀ u ∈ [submitted, reviewed, interrupted, carriedOn],
        ¬Completion "jit-1" "IAM-1" u.moments := by
  refine ⟨_, carriedOn_history, ?_, fun _ _ => rfl, ⟨completing[2], ?_, rfl⟩, rfl, rfl,
    ?_⟩
  · intro q hq
    cases hq
    rfl
  · simp [carriedOn, completing, ending]
  · intro u hu completion
    obtain ⟨-, e, -, told⟩ := completion
    simp only [List.mem_cons, List.not_mem_nil, or_false] at hu
    obtain rfl | rfl | rfl | rfl := hu <;>
      simp [Moved, Heard, Moment.said, submitted, reviewed, interrupted, carriedOn, beginning,
        granting, completing, ending] at told

end Sample

end AccessWindow
