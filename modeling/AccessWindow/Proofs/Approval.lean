import AccessWindow.Proofs.History

namespace AccessWindow

open Lifecycle

variable {others : Scene → Scene → Prop} {s s' s₁ s₂ : Scene} {m : Moment}
  {ms before after : List Moment} {name : String} {r : Request} {e : Edition}

/-- In these moments of a visit the ticket of the record that the visit had found was in the
approved status of the edition that it went by, and the window of that record had begun. -/
def Approval (name : String) (ms : List Moment) : Prop :=
  ∃ r e key, Found name (ms.map Moment.said) r e ∧ r.status.ticket = .issue key ∧
    ∃ m ∈ ms, m.said = ⟨.call (.stateOfTicket key), .ok e.rulebook.approvedStatus⟩ ∧
      r.opens ≤ m.before.clock

theorem Approval.append (h : Approval name before) : Approval name (before ++ after) := by
  obtain ⟨r, e, key, hf, hk, m, hm, hsaid, ho⟩ := h
  refine ⟨r, e, key, ?_, hk, m, List.mem_append_left after hm, hsaid, ho⟩
  rw [List.map_append]
  exact hf.mono (List.prefix_append _ _)

namespace Course

theorem approval {key : String} (h : Course others s ms s')
    (onward : ∀ {a b}, others a b → a.clock ≤ b.clock)
    (steady : ∀ m ∈ ms, ∀ t ∈ m.said.reading?, t.isLeap = false)
    (hf : Found name (ms.map Moment.said) r e) (ha : Approved (ms.map Moment.said) r e key) :
    Approval name ms := by
  obtain ⟨hk, t, hu, hs⟩ := ha
  obtain ⟨first, rest, hms, ht, hs⟩ := List.cons_sublist_iff.1 hs
  obtain ⟨ms₁, ms₂, rfl, rfl, rfl⟩ := List.map_eq_append_iff.1 hms
  obtain ⟨m₁, hm₁, hsaid₁⟩ := List.mem_map.1 ht
  obtain ⟨m₂, hm₂, hsaid₂⟩ := List.mem_map.1 (List.singleton_sublist.1 hs)
  refine ⟨r, e, key, hf, hk, m₂, List.mem_append_right ms₁ hm₂, hsaid₂, ?_⟩
  obtain ⟨a, b, rfl⟩ := List.append_of_mem hm₁
  obtain ⟨c, d, rfl⟩ := List.append_of_mem hm₂
  -- the ticket was looked at after the clock, which never goes back
  replace h : Course others s (a ++ m₁ :: (b ++ c ++ m₂ :: d)) s' := by simpa using h
  calc
    r.opens ≤ t := Instant.le_of_until?_eq_none hu (steady m₁ (by simp) t (by rw [hsaid₁]; rfl))
    _ = m₁.before.clock := m₁.read hsaid₁
    _ ≤ m₂.before.clock := h.clock_le_later onward

theorem holding {v : Visit name} (h : Course others s v.moments s')
    (spares : ∀ {a b}, others a b → a.SparesGrants name b) (hv : v.moments = before ++ after)
    (found : Found name (before.map Moment.said) r e)
    (holding : Holding (before.map Moment.said) r) :
    (∃ key, Approved (before.map Moment.said) r e key) ∨ s.Holds name r.spec.namespaces := by
  induction hn : before.length using Nat.strongRecOn generalizing before after with
  | _ n ih =>
  subst hn
  obtain ⟨scope, hscope, grants, heard, g, hg, ho⟩ := holding
  obtain ⟨m₁, hm₁, hsaid⟩ := List.mem_map.1 heard
  obtain ⟨a, b, rfl⟩ := List.append_of_mem hm₁
  rw [v.named (v.found_whole hv found)] at ho
  have upto : Course others s (a ++ m₁ :: (b ++ after)) s' := by simpa [hv] using h
  cases upto.split.1.grant_before spares ((m₁.listed hsaid).1 hg) ho with
  | inl hold =>
    obtain ⟨old, hold, ho'⟩ := hold
    exact .inr ⟨scope, hscope, g.name, old, hold, ho'⟩
  | inr made =>
    -- the grant that was seen has been created earlier in this visit
    obtain ⟨m₂, hm₂, g₂, hop₂, -, -⟩ := made
    obtain ⟨c, d, rfl⟩ := List.append_of_mem hm₂
    have hv₂ : v.moments = c ++ m₂ :: (d ++ m₁ :: b ++ after) := by simp [hv]
    have permitted := v.permitted hv₂
    rw [hop₂] at permitted
    cases permitted with
    | grant found₂ _ _ why =>
    have hp : c.map Moment.said <+: (c ++ m₂ :: d ++ m₁ :: b).map Moment.said := by simp
    obtain ⟨rfl, rfl⟩ := found₂.unique found hp
    cases why with
    | inl ha =>
      obtain ⟨key, ha⟩ := ha
      exact .inl ⟨key, ha.mono hp⟩
    | inr holding =>
      refine (ih c.length ?_ hv₂ found₂ holding rfl).imp (fun ⟨key, ha⟩ => ⟨key, ha.mono hp⟩) id
      simp

theorem approved {v : Visit name} {earlier : Prop} (h : Course others s v.moments s')
    (onward : ∀ {a b}, others a b → a.clock ≤ b.clock)
    (spares : ∀ {a b}, others a b → a.SparesGrants name b)
    (steady : ∀ m ∈ v.moments, ∀ t ∈ m.said.reading?, t.isLeap = false)
    (past : ∀ scope key g, s.grants scope key = some g → g.belongsTo name → earlier)
    {g : Grant} (hv : v.moments = before ++ m :: after) (hop : m.op = .call (.addGrant g)) :
    Approval name before ∨ earlier := by
  have permitted := v.permitted hv
  rw [hop] at permitted
  cases permitted with
  | @grant r e _ found _ _ why =>
  have grounds : (∃ key, Approved (before.map Moment.said) r e key) ∨ earlier := by
    cases why with
    | inl ha => exact .inl ha
    | inr holding =>
      refine (h.holding spares hv found holding).imp id fun held => ?_
      obtain ⟨scope, -, key, g, hg, ho⟩ := held
      exact past scope key g hg ho
  rw [hv] at h steady
  refine grounds.imp (fun ⟨key, ha⟩ => h.split.1.approval onward ?_ found ha) id
  exact fun m hm => steady m (List.mem_append_left _ hm)

end Course

theorem History.approved {vs : List (Visit name)} (h : History others s vs s')
    (onward : ∀ {a b}, others a b → a.clock ≤ b.clock)
    (spares : ∀ {a b}, others a b → a.SparesGrants name b)
    (steady : ∀ v ∈ vs, ∀ m ∈ v.moments, ∀ t ∈ m.said.reading?, t.isLeap = false)
    (bare : ∀ scope key g, s.grants scope key = some g → ¬g.belongsTo name) :
    ∀ scope key g, s'.grants scope key = some g → g.belongsTo name →
      ∃ v ∈ vs, Approval name v.moments := by
  induction h with
  | start =>
    intro scope key g hg ho
    exact absurd ho (bare scope key g hg)
  | @visit vs s₁ v s₂ _ course ih =>
    have ⟨steady, hlast⟩ := List.forall_mem_append.1 steady
    have past := ih steady
    intro scope key g hg ho
    cases course.grant_before spares hg ho with
    | inl hold =>
      obtain ⟨old, hold, ho'⟩ := hold
      obtain ⟨w, hw, ha⟩ := past scope key old hold ho'
      exact ⟨w, List.mem_append_left _ hw, ha⟩
    | inr made =>
      obtain ⟨m, hm, g', hop, -⟩ := made
      obtain ⟨before, after, hv⟩ := List.append_of_mem hm
      cases course.approved onward spares (hlast v (by simp)) past hv hop with
      | inl ha => exact ⟨v, by simp, hv ▸ ha.append⟩
      | inr hw =>
        obtain ⟨w, hw, ha⟩ := hw
        exact ⟨w, List.mem_append_left _ hw, ha⟩

/-- Before a visit creates a grant, that visit or an earlier one has seen the approval. -/
theorem approval_before_grant {vs : List (Visit name)} (h : History others s vs s')
    (onward : ∀ {a b}, others a b → a.clock ≤ b.clock)
    (spares : ∀ {a b}, others a b → a.SparesGrants name b)
    (steady : ∀ v ∈ vs, ∀ m ∈ v.moments, ∀ t ∈ m.said.reading?, t.isLeap = false)
    (bare : ∀ scope key g, s.grants scope key = some g → ¬g.belongsTo name)
    {earlier later : List (Visit name)} {v : Visit name} (hvs : vs = earlier ++ v :: later)
    {g : Grant} (hv : v.moments = before ++ m :: after) (hop : m.op = .call (.addGrant g)) :
    Approval name before ∨ ∃ w ∈ earlier, Approval name w.moments := by
  subst hvs
  obtain ⟨s₁, s₂, first, course, -⟩ := h.split
  have ⟨hearlier, hlast⟩ := List.forall_mem_append.1 steady
  exact course.approved onward spares (hlast v (by simp))
    (first.approved onward spares hearlier bare) hv hop

namespace Sample

def opening : Visit "jit-1" where
  keeper := keeper
  lastKnown := []
  moments := provision ++ [
    ⟨provided, .call (.commentOn "IAM-1" Ticket.doneNote), .error (.external none "down"), provided,
      .inl rfl⟩]
  result := some (.error (.external none "down"))
  talk := Program.dialogue_of_replay (by decide +kernel)

def resumed : Visit "jit-1" where
  keeper := keeper
  lastKnown := []
  moments := [
    ⟨provided, .call (.requestNamed "jit-1"), .ok (request awaiting), provided, rfl, rfl⟩,
    ⟨provided, .edition, some edition, provided, rfl, rfl⟩,
    ⟨provided, .clock, spec.start, provided, rfl, rfl⟩,
    ⟨provided, .call (.stateOfTicket "IAM-1"), .ok "To Do", provided, rfl⟩,
    ⟨provided, .call (.grantsWithin "team-a"), .ok [grant], provided, provided_lists, rfl⟩,
    ⟨provided, .call (.addGrant grant), .error (.alreadyExists "taken"), provided, .inl rfl⟩]
  result := none
  talk := Program.dialogue_of_replay (by decide +kernel)

theorem resumed_upon_approval :
    Approval "jit-1" (resumed.moments.take 5) ∨
      ∃ w ∈ [opening], Approval "jit-1" w.moments := by
  have first : Course (Scene.Undisturbed "jit-1") atStart opening.moments provided :=
    .next .refl <| .next .refl <| .next .refl <| .next .refl <| .next .refl <| .next .refl <|
      .last .refl
  have second : Course (Scene.Undisturbed "jit-1") provided resumed.moments provided :=
    .next .refl <| .next .refl <| .next .refl <| .next .refl <| .next .refl <| .next .refl <|
      .last .refl
  have history : History (Scene.Undisturbed "jit-1") atStart ([opening] ++ [resumed]) provided :=
    .visit (.visit .start first) second
  exact approval_before_grant history Scene.Undisturbed.clock Scene.Undisturbed.grants (by decide)
    scene_bare rfl (rfl : resumed.moments = resumed.moments.take 5 ++ _) rfl

end Sample

end AccessWindow
