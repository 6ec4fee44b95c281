import AccessWindow.Proofs.Settled

namespace AccessWindow

open Lifecycle

variable {others : Scene → Scene → Prop} {s s' s₀ : Scene} {m : Moment}
  {ms before after : List Moment} {name scope key : String} {r q : Request} {e : Edition}
  {g : Grant}
  {v : Visit name}

def Scene.Within (first : Scene) (name : String) (s : Scene) : Prop :=
  ∀ scope key g, s.grants scope key = some g → g.belongsTo name →
    ∃ q, first.requests name = some q ∧ scope ∈ q.spec.namespaces

/-- A grant that stands there is said to be gone when it is to be deleted. -/
def Moment.Misleads (m : Moment) (scope key : String) : Prop :=
  ∃ g message, m.said = ⟨.call (.removeGrant scope key), .error (.notFound message)⟩ ∧
    m.before.grants scope key = some g

namespace Course

theorem within (h : Course others s before s')
    (keeps : ∀ {a b}, others a b → a.KeepsSpec name b)
    (spares : ∀ {a b}, others a b → a.SparesGrants name b) (hv : v.moments = before ++ after)
    (spec : s₀.KeepsSpec name s) (hw : s₀.Within name s) : s₀.Within name s' := by
  intro scope key g hg ho
  cases h.grant_before spares hg ho with
  | inl hold =>
    obtain ⟨old, hold, ho'⟩ := hold
    exact hw scope key old hold ho'
  | inr made =>
    obtain ⟨m, hm, g', hop, rfl, -⟩ := made
    obtain ⟨ms, rest, rfl⟩ := List.append_of_mem hm
    have hv : v.moments = ms ++ m :: (rest ++ after) := by simp [hv]
    obtain ⟨r, e, hf, -, -, hg'⟩ := v.found_of_grant hv hop
    obtain ⟨old, hold, hspec⟩ := h.split.1.found_spec keeps hf
    obtain ⟨first, hfirst, hspec'⟩ := spec old hold
    refine ⟨first, hfirst, ?_⟩
    rw [← hspec', ← hspec]
    obtain ⟨there, hthere, rfl⟩ := List.mem_map.1 hg'
    exact hthere

theorem swept {scopes : List String} (h : Course others s ms s')
    (spares : ∀ {a b}, others a b → a.SparesGrants name b)
    (hc : Cleared name scopes (ms.map Moment.said)) (hs : scope ∈ scopes)
    (hg : s'.grants scope key = some g) (ho : g.belongsTo name) :
    ∃ m ∈ ms, m.Misleads scope key := by
  obtain ⟨past, said, hms, only, hswept⟩ := hc
  obtain ⟨grants, early, late, rfl, hdel⟩ := hswept scope hs
  rw [← List.append_assoc] at hms
  obtain ⟨ms₁, ms₂, rfl, -, hms₂⟩ := List.map_eq_append_iff.1 hms
  obtain ⟨m, rest, rfl, hsaid, rfl⟩ := List.map_eq_cons_iff.1 hms₂
  have only : ∀ m ∈ rest, ∀ g, m.op ≠ .call (.addGrant g) := by
    intro m hm g hop
    have := only m.said (by simp [List.mem_map_of_mem hm])
    rw [show m.said.1 = _ from hop] at this
    cases this
  -- no grant was created since the listing, so what stands now stood at any moment since
  have stood {a : Scene} {later : List Moment} (course : Course others a later s')
      (sub : ∀ m ∈ later, m ∈ rest) :
      ∃ old, a.grants scope key = some old ∧ old.belongsTo name := by
    cases course.grant_before spares hg ho with
    | inl hold => exact hold
    | inr made =>
      obtain ⟨m, hm, g, hop, -⟩ := made
      exact absurd hop (only m (sub m hm) g)
  have course := h.split.2
  obtain ⟨old, hold, ho'⟩ := stood course fun _ h => h
  obtain ⟨-, rfl⟩ := m.after.placed hold
  have hlisted : old ∈ grants := by
    cases m.lawful.leaves.grant_before hold with
    | inl hbefore => exact (m.listed hsaid).2 hbefore
    | inr hop =>
      have hop' : m.op = .call (.grantsWithin scope) := congrArg Sigma.fst hsaid
      cases hop'.symm.trans hop
  cases hdel old hlisted ho' with
  | inl hdone =>
    obtain ⟨m₂, hm₂, hsaid₂⟩ := List.mem_map.1 hdone
    obtain ⟨a, b, rfl⟩ := List.append_of_mem hm₂
    obtain ⟨left, hleft, -⟩ := stood course.split.2 fun m hm => by simp [hm]
    cases (m₂.deleted hsaid₂).symm.trans hleft
  | inr hgone =>
    obtain ⟨message, hgone⟩ := hgone
    obtain ⟨m₂, hm₂, hsaid₂⟩ := List.mem_map.1 hgone
    obtain ⟨a, b, rfl⟩ := List.append_of_mem hm₂
    obtain ⟨left, hleft, -⟩ := stood course.split.2 fun m hm => by simp [hm]
    refine ⟨m₂, by simp, left, message, hsaid₂, ?_⟩
    cases m₂.lawful.leaves.grant_before hleft with
    | inl hbefore => exact hbefore
    | inr hop => exact absurd hop (only m₂ hm₂ left)

end Course

theorem History.within {vs : List (Visit name)} (h : History others s vs s')
    (keeps : ∀ {a b}, others a b → a.KeepsSpec name b)
    (spares : ∀ {a b}, others a b → a.SparesGrants name b)
    (bare : ∀ scope key g, s.grants scope key = some g → ¬g.belongsTo name) :
    s.Within name s' := by
  induction h with
  | start =>
    intro scope key g hg ho
    exact absurd ho (bare scope key g hg)
  | @visit vs s₁ v s₂ past course ih =>
    exact course.within keeps spares (List.append_nil _).symm (past.keepsSpec keeps) ih

structure Removable (name : String) (ms : List Moment) (s : Scene) : Prop where
  found : ∃ r e, Found name (ms.map Moment.said) r e
  bare : ∀ scope key g, s.grants scope key = some g → g.belongsTo name →
    ∃ m ∈ ms, m.Misleads scope key
  declined : ∀ r e key, Found name (ms.map Moment.said) r e → r.status.phase = .rejected →
    r.status.ticket = .issue key → Moved (ms.map Moment.said) key e.rulebook.rejectTransition
  elapsed : ∀ r e, Found name (ms.map Moment.said) r e →
    (r.status.phase = .preApproved ∨ r.status.phase = .succeeded ∨
      ∃ phase, r.status.phase = .unrecognized phase) →
    ∃ held t, latest Turn.record? (ms.map Moment.said) = some held ∧
      latest Turn.reading? (ms.map Moment.said) = some t ∧
      (t.isLeap = false → held.closes ≤ t)

namespace Course

theorem removable (h : Course others s before s')
    (keeps : ∀ {a b}, others a b → a.KeepsSpec name b)
    (spares : ∀ {a b}, others a b → a.SparesGrants name b)
    (hv : v.moments = before ++ m :: after) {gone : String}
    (hop : m.op = .call (.removeRequest gone))
    (spec : s₀.KeepsSpec name s) (hw : s₀.Within name s) : Removable name before s' := by
  have within := h.within keeps spares hv spec hw
  have bare {held : Request} (hheld : ∃ q, s.requests name = some q ∧ held.spec = q.spec)
      (cleared : Cleared name held.spec.namespaces (before.map Moment.said)) :
      ∀ scope key g, s'.grants scope key = some g → g.belongsTo name →
        ∃ m ∈ before, m.Misleads scope key := by
    intro scope key g hg ho
    obtain ⟨q, hq, hscope⟩ := within scope key g hg ho
    obtain ⟨q₁, hq₁, hspec⟩ := hheld
    obtain ⟨q₀, hq₀, hspec₀⟩ := spec q₁ hq₁
    cases hq.symm.trans hq₀
    exact h.swept spares cleared (by rwa [hspec, hspec₀]) hg ho
  have permitted := v.permitted hv
  rw [hop] at permitted
  cases permitted with
  | @discard r e found hd cleared moved =>
    refine ⟨⟨r, e, found⟩, bare (h.found_spec keeps found) cleared, ?_, ?_⟩
    · intro r' e' key found' hp hk
      obtain ⟨rfl, rfl⟩ := found.unique found' (List.prefix_refl _)
      exact moved key hk
    · intro r' e' found' hp
      obtain ⟨rfl, rfl⟩ := found.unique found' (List.prefix_refl _)
      cases hd <;> simp_all
  | @expire r e held t found hl lapsing ht hu cleared =>
    obtain ⟨x, hx, hr⟩ := exists_of_latest hl
    refine ⟨⟨r, e, found⟩, bare (h.spec_of_record keeps hv hx hr) cleared, ?_, ?_⟩
    · intro r' e' key found' hp hk
      obtain ⟨rfl, rfl⟩ := found.unique found' (List.prefix_refl _)
      cases lapsing <;> simp_all
    · intro r' e' found' hp
      exact ⟨held, t, hl, ht, Instant.le_of_until?_eq_none hu⟩

theorem closed_of_removal (h : Course others s v.moments s')
    (keeps : ∀ {a b}, others a b → a.KeepsStatus name b) (hv : v.moments = before ++ m :: after)
    {gone : String} (hop : m.op = .call (.removeRequest gone)) :
    s'.Closed name ∧ ∀ m ∈ after, ∀ g, m.op ≠ .call (.addGrant g) := by
  have of_found {r : Request} {e : Edition} (found : Found name (before.map Moment.said) r e)
      (hs : Settled r.status) : s'.Closed name ∧ ∀ m ∈ after, ∀ g, m.op ≠ .call (.addGrant g) := by
    have found := v.found_whole hv found
    refine ⟨h.closed_of_found keeps found hs, fun m' hm' g hop' => ?_⟩
    exact v.idle_of_settled found hs (by simp [hv, hm']) (.inr ⟨g, hop'⟩)
  have permitted := v.permitted hv
  rw [hop] at permitted
  cases permitted with
  | discard found hd => exact of_found found hd.settled
  | expire found hl lapsing =>
    cases lapsing with
    | succeeded hp => exact of_found found (by simp [Settled, hp])
    | unrecognized hp => exact of_found found (by simp [Settled, hp])
    | granted hp hx heard =>
      obtain ⟨m₁, hm₁, hsaid⟩ := List.mem_map.1 heard
      obtain ⟨ms, rest, rfl⟩ := List.append_of_mem hm₁
      have hv₁ : v.moments = ms ++ m₁ :: (rest ++ m :: after) := by simp [hv]
      obtain ⟨closed, quiet⟩ := h.closed_of_success keeps hv₁ hsaid hx
      exact ⟨closed, fun m' hm' => quiet m' (by simp [hm'])⟩

end Course

theorem safe_removal {vs : List (Visit name)} (h : History others s vs s')
    (spec : ∀ {a b}, others a b → a.KeepsSpec name b)
    (status : ∀ {a b}, others a b → a.KeepsStatus name b)
    (spares : ∀ {a b}, others a b → a.SparesGrants name b)
    (bare : ∀ scope key g, s.grants scope key = some g → ¬g.belongsTo name)
    {earlier later : List (Visit name)} (hvs : vs = earlier ++ v :: later)
    (hv : v.moments = before ++ m :: after) {gone : String}
    (hop : m.op = .call (.removeRequest gone)) :
    Removable name before m.before ∧ (∀ m ∈ after, ∀ g, m.op ≠ .call (.addGrant g)) ∧
      ∀ w ∈ later, ∀ m ∈ w.moments, ∀ g, m.op ≠ .call (.addGrant g) := by
  subst hvs
  obtain ⟨s₁, s₂, first, course, rest⟩ := h.split
  have ⟨closed, quiet⟩ := course.closed_of_removal status hv hop
  refine ⟨?_, quiet, (rest.closed status closed).2⟩
  rw [hv] at course
  exact course.split.1.removable spec spares hv hop (first.keepsSpec spec)
    (first.within spec spares bare)

namespace Sample

def granted : Request :=
  { (request awaiting).record ⟨.succeeded, Ticket.grantedMessage, .issue "IAM-1"⟩ with
    version := some "2" }

def recorded : Scene := provided.putRequest granted

def opened : Visit "jit-1" where
  keeper := keeper
  lastKnown := []
  moments := provision ++ [
    ⟨provided, .call (.commentOn "IAM-1" Ticket.doneNote), .ok (), provided, rfl⟩,
    ⟨provided, .call (.transition "IAM-1" "41"), .ok (), provided, rfl⟩,
    ⟨provided, .call (.putStatus ((request awaiting).record
      ⟨.succeeded, Ticket.grantedMessage, .issue "IAM-1"⟩)), .ok granted, recorded,
      request awaiting, some "2", rfl, rfl, rfl⟩,
    ⟨recorded, .clock, spec.start, recorded, rfl, rfl⟩]
  result := some (.ok (.again 60000000000))
  talk := Program.dialogue_of_replay (by decide +kernel)

def atFinish : Scene := { recorded with clock := spec.finish }

theorem atFinish_lists (g : Grant) : g ∈ [grant] ↔ atFinish.grants "team-a" g.name = some g :=
  provided_lists g

def revoked : Scene := atFinish.dropGrant "team-a" "jit-1-jit"

def expired : Visit "jit-1" where
  keeper := keeper
  lastKnown := []
  moments := [
    ⟨atFinish, .call (.requestNamed "jit-1"), .ok granted, atFinish, rfl, rfl⟩,
    ⟨atFinish, .edition, some edition, atFinish, rfl, rfl⟩,
    ⟨atFinish, .clock, spec.finish, atFinish, rfl, rfl⟩,
    ⟨atFinish, .call (.grantsWithin "team-a"), .ok [grant], atFinish, atFinish_lists, rfl⟩,
    ⟨atFinish, .call (.removeGrant "team-a" "jit-1-jit"), .ok (), revoked, rfl, rfl⟩,
    ⟨revoked, .call (.removeRequest "jit-1"), .ok (), revoked.dropRequest "jit-1", rfl, rfl⟩]
  result := some (.ok .done)
  talk := Program.dialogue_of_replay (by decide +kernel)

theorem opened_course : Course (Scene.Undisturbed "jit-1") atStart opened.moments recorded :=
  .next .refl <| .next .refl <| .next .refl <| .next .refl <| .next .refl <| .next .refl <|
    .next .refl <| .next .refl <| .next .refl <| .last .refl

theorem opened_history : History (Scene.Undisturbed "jit-1") atStart [opened] recorded :=
  .visit .start opened_course

theorem expired_removable :
    Removable "jit-1" (expired.moments.take 5) revoked ∧
      (∀ m ∈ ([] : List Moment), ∀ g, m.op ≠ .call (.addGrant g)) ∧
      ∀ w ∈ ([] : List (Visit "jit-1")), ∀ m ∈ w.moments, ∀ g, m.op ≠ .call (.addGrant g) := by
  have course : Course (Scene.Undisturbed "jit-1") recorded expired.moments
      (revoked.dropRequest "jit-1") :=
    .next (Scene.undisturbed_of_eq (by decide) rfl rfl) <| .next .refl <| .next .refl <|
      .next .refl <| .next .refl <| .next .refl <| .last .refl
  have history : History (Scene.Undisturbed "jit-1") atStart ([opened] ++ [expired])
      (revoked.dropRequest "jit-1") :=
    .visit opened_history course
  have last : expired.moments = expired.moments.take 5 ++ [⟨revoked,
      .call (.removeRequest "jit-1"), .ok (), revoked.dropRequest "jit-1", rfl, rfl⟩] := rfl
  exact safe_removal history Scene.Undisturbed.spec Scene.Undisturbed.status
    Scene.Undisturbed.grants scene_bare rfl last rfl

def misled : Visit "jit-1" where
  keeper := keeper
  lastKnown := []
  moments := [
    ⟨atFinish, .call (.requestNamed "jit-1"), .ok granted, atFinish, rfl, rfl⟩,
    ⟨atFinish, .edition, some edition, atFinish, rfl, rfl⟩,
    ⟨atFinish, .clock, spec.finish, atFinish, rfl, rfl⟩,
    ⟨atFinish, .call (.grantsWithin "team-a"), .ok [grant], atFinish, atFinish_lists, rfl⟩,
    ⟨atFinish, .call (.removeGrant "team-a" "jit-1-jit"), .error (.notFound "gone"), atFinish,
      .inl rfl⟩,
    ⟨atFinish, .call (.removeRequest "jit-1"), .ok (), atFinish.dropRequest "jit-1", rfl, rfl⟩]
  result := some (.ok .done)
  talk := Program.dialogue_of_replay (by decide +kernel)

def leap : Instant := ⟨86399, 1900000000, by decide⟩

def inLeap : Scene := scene granted.status leap

def early : Visit "jit-1" where
  keeper := keeper
  lastKnown := []
  moments := [
    ⟨inLeap, .call (.requestNamed "jit-1"), .ok (request granted.status), inLeap, rfl, rfl⟩,
    ⟨inLeap, .edition, some edition, inLeap, rfl, rfl⟩,
    ⟨inLeap, .clock, leap, inLeap, rfl, rfl⟩,
    ⟨inLeap, .call (.grantsWithin "team-a"), .ok [], inLeap, fun _ => ⟨nofun, nofun⟩, rfl⟩,
    ⟨inLeap, .call (.removeRequest "jit-1"), .ok (), inLeap.dropRequest "jit-1", rfl, rfl⟩]
  result := some (.ok .done)
  talk := Program.dialogue_of_replay (by decide +kernel)

def FailsPlainly (m : Moment) : Prop :=
  match m.op, m.answer with
  | .call _, .error _ => m.after = m.before
  | _, _ => True

/-- A request can be removed although a grant is left, and although its window is still open. -/
theorem removal_can_fall_short :
    (∃ s', History (Scene.Undisturbed "jit-1") atStart [opened, misled] s' ∧
      (∀ scope key g, atStart.grants scope key = some g → ¬g.belongsTo "jit-1") ∧
      (∀ m ∈ opened.moments ++ misled.moments, FailsPlainly m) ∧
      ∃ before m after, misled.moments = before ++ m :: after ∧
        m.op = .call (.removeRequest "jit-1") ∧
        ∃ g, m.before.grants "team-a" "jit-1-jit" = some g ∧ g.belongsTo "jit-1") ∧
    ∃ s', History (Scene.Undisturbed "jit-1") inLeap [early] s' ∧
      (∀ scope key g, inLeap.grants scope key = some g → ¬g.belongsTo "jit-1") ∧
      ∃ before m after, early.moments = before ++ m :: after ∧
        m.op = .call (.removeRequest "jit-1") ∧
        (request granted.status).status.phase = .succeeded ∧
        m.before.clock < (request granted.status).closes := by
  constructor
  · have course : Course (Scene.Undisturbed "jit-1") recorded misled.moments
        (atFinish.dropRequest "jit-1") :=
      .next (Scene.undisturbed_of_eq (by decide) rfl rfl) <| .next .refl <| .next .refl <|
        .next .refl <| .next .refl <| .next .refl <| .last .refl
    refine ⟨_, .visit opened_history course, scene_bare, ?_, misled.moments.take 5, _, [], rfl, rfl,
      grant, rfl, rfl⟩
    simp [opened, provision, misled, FailsPlainly]
  · have course : Course (Scene.Undisturbed "jit-1") inLeap early.moments
        (inLeap.dropRequest "jit-1") :=
      .next .refl <| .next .refl <| .next .refl <| .next .refl <| .next .refl <| .last .refl
    exact ⟨_, .visit .start course, scene_bare, early.moments.take 4, _, [], rfl, rfl, rfl,
      by decide⟩

end Sample

end AccessWindow
