import AccessWindow.Proofs.Beside
import AccessWindow.Proofs.Removal

namespace AccessWindow

open Lifecycle

variable {others : Scene → Scene → Prop} {s s' : Scene} {m : Moment} {before after : List Moment}
  {name scope key : String} {v : Visit name} {past : List Turn} {r r' : Request} {e : Edition}
  {g : Grant}

structure Scene.LeavesOthers (name : String) (s s' : Scene) : Prop where
  requests : ∀ other, other ≠ name → s'.requests other = s.requests other
  grants : ∀ scope key g, ¬g.belongsTo name →
    (s'.grants scope key = some g ↔ s.grants scope key = some g)

@[refl] theorem Scene.LeavesOthers.refl : s.LeavesOthers name s :=
  ⟨fun _ _ => rfl, fun _ _ _ _ => Iff.rfl⟩

theorem Scene.LeavesOthers.trans {a b c : Scene} (hab : a.LeavesOthers name b)
    (hbc : b.LeavesOthers name c) : a.LeavesOthers name c where
  requests other hn := (hbc.requests other hn).trans (hab.requests other hn)
  grants scope key g ho := (hbc.grants scope key g ho).trans (hab.grants scope key g ho)

/-- The ticket of the record that the visit found, or one that it opened. -/
def Lifecycle.OwnTicket (name : String) (past : List Turn) (key : String) : Prop :=
  (∃ r e, Found name past r e ∧ r.status.ticket = .issue key) ∨
    ∃ draft, Heard past (.raiseTicket draft) (.ok key)

/-- What may be done in a scene so that it concerns nothing but the request, its grants and its
ticket. -/
def Lifecycle.Minds (name : String) (past : List Turn) (s : Scene) : Operation → Prop
  | .call (.requestNamed named) => named = name
  | .call (.putStatus w) => w.name = name
  | .call (.removeRequest gone) => gone = name
  | .call (.publishEvent event) => event.subject = name
  | .call (.addGrant g) => g.name = Grant.nameFor name ∧ g.belongsTo name ∧
    ∃ r e, Found name past r e ∧ g.scope ∈ r.spec.namespaces
  | .call (.removeGrant scope key) =>
    (∃ grants, Heard past (.grantsWithin scope) (.ok grants) ∧
      ∃ g ∈ grants, g.name = key ∧ g.belongsTo name) ∧ s.OwnAt name scope key
  | .call (.commentOn key _) | .call (.transition key _) | .call (.stateOfTicket key) =>
    OwnTicket name past key
  | _ => True

theorem Lifecycle.InHand.own (h : InHand past r key) (found : Found name past r e) :
    OwnTicket name past key := by
  cases h with
  | kept ht => exact .inl ⟨r, e, found, ht⟩
  | opened _ raised => exact .inr ⟨_, raised⟩

namespace Moment

theorem leavesOthers (h : Minds name past m.before m.op) : m.before.LeavesOthers name m.after := by
  obtain ⟨before, op, answer, after, lawful⟩ := m
  have leaves : before.Leaves op after := lawful.leaves
  cases leaves with
  | same => exact .refl
  | @written w old version hold =>
    have hn : old.name = name := (before.named hold).trans h
    refine ⟨fun other ho => if_neg ?_, fun _ _ _ _ => Iff.rfl⟩
    exact fun heq => ho (heq.trans hn)
  | removed =>
    exact ⟨fun other ho => if_neg fun heq => ho (heq.trans h), fun _ _ _ _ => Iff.rfl⟩
  | @granted g free =>
    refine ⟨fun _ _ => rfl, fun scope key g' ho => ?_⟩
    rw [Scene.grants_putGrant]
    constructor
    · rintro (⟨-, -, rfl⟩ | hg)
      · exact absurd h.2.1 ho
      · exact hg.2
    · refine fun hg => .inr ⟨?_, hg⟩
      rintro ⟨rfl, rfl⟩
      cases free.symm.trans hg
  | revoked =>
    refine ⟨fun _ _ => rfl, fun scope key g' ho => ?_⟩
    rw [Scene.grants_dropGrant]
    refine ⟨And.right, fun hg => ⟨?_, hg⟩⟩
    rintro ⟨rfl, rfl⟩
    exact ho (h.2 g' hg)
  | adopted => exact ⟨fun _ _ => rfl, fun _ _ _ _ => Iff.rfl⟩

end Moment

namespace Course

theorem foreign_before (h : Course others s before s')
    (apart : ∀ {a b}, others a b → a.LeavesOthers name b)
    (own : ∀ m ∈ before, ∀ g, m.op = .call (.addGrant g) → g.belongsTo name)
    (hg : s'.grants scope key = some g) (ho : ¬g.belongsTo name) :
    s.grants scope key = some g := by
  refine h.relates (R := fun a b => b.grants scope key = some g → a.grants scope key = some g)
    (fun hab hbc hc => hab (hbc hc)) (fun idle => ((apart idle).grants scope key g ho).1)
    (fun m hm hafter => ?_) hg
  exact (m.lawful.leaves.grant_before hafter).resolve_right fun hop => ho (own m hm g hop)

end Course

namespace Visit

theorem own_of_grant (hv : v.moments = before ++ m :: after) (hop : m.op = .call (.addGrant g)) :
    g.name = Grant.nameFor name ∧ g.belongsTo name ∧
      ∃ r e, Found name (before.map Moment.said) r e ∧ g.scope ∈ r.spec.namespaces := by
  obtain ⟨r, e, found, -, -, hg⟩ := v.found_of_grant hv hop
  obtain rfl : r.name = name := v.named (v.found_whole hv found)
  obtain ⟨scope, hscope, rfl⟩ := List.mem_map.1 hg
  exact ⟨rfl, by simp [Grant.belongsTo], r, e, found, hscope⟩

theorem own_at_removal (h : Course others s before s')
    (apart : ∀ {a b}, others a b → a.LeavesOthers name b) (hv : v.moments = before ++ after)
    {grants : List Grant}
    (listed : Heard (before.map Moment.said) (.grantsWithin scope) (.ok grants)) (hg : g ∈ grants)
    (ho : g.belongsTo name) : s'.OwnAt name scope g.name := by
  intro g' hg'
  by_contra foreign
  obtain ⟨m, hm, hsaid⟩ := List.mem_map.1 listed
  obtain ⟨earlier, between, rfl⟩ := List.append_of_mem hm
  have own : ∀ m' ∈ between, ∀ g, m'.op = .call (.addGrant g) → g.belongsTo name := by
    intro m' hm' g hop
    obtain ⟨l₁, l₂, rfl⟩ := List.append_of_mem hm'
    have hv' : v.moments = (earlier ++ m :: l₁) ++ m' :: (l₂ ++ after) := by simp [hv]
    exact (v.own_of_grant hv' hop).2.1
  have stood : m.after.grants scope g.name = some g' :=
    h.split.2.foreign_before apart own hg' foreign
  have stood : m.before.grants scope g.name = some g' := by
    refine (m.lawful.leaves.grant_before stood).resolve_right fun hop => ?_
    cases (congrArg Sigma.fst hsaid).symm.trans hop
  cases ((m.listed hsaid).1 hg).symm.trans stood
  exact foreign ho

theorem minds (h : Course others s before m.before)
    (apart : ∀ {a b}, others a b → a.LeavesOthers name b) (hv : v.moments = before ++ m :: after) :
    Minds name (before.map Moment.said) m.before m.op := by
  have permitted := v.permitted hv
  have own {g : Grant} := v.own_of_grant (g := g) hv
  generalize m.op = op at permitted own
  cases permitted with
  | find | reread | write => first | rfl | assumption
  | announce _ hn => exact hn
  | grant => exact own rfl
  | revoke _ _ listed hg ho =>
    exact ⟨⟨_, listed, _, hg, rfl, ho⟩, v.own_at_removal h apart hv listed hg ho⟩
  | welcome found _ _ hand => exact hand.own found
  | check found _ ht => exact .inl ⟨_, _, found, ht⟩
  | note found _ approved => exact .inl ⟨_, _, found, approved.1⟩
  | complete found _ approved => exact .inl ⟨_, _, found, approved.1⟩
  | decline found _ ht => exact .inl ⟨_, _, found, ht⟩
  | explain found _ ht => exact .inl ⟨_, _, found, ht⟩
  | discard | expire => rfl
  | _ => trivial

end Visit

/-- A visit to a request concerns nothing but this request, its grants and its ticket, and leaves
the others as they are. So the grants that were made for it make no difference to those of another
request, which are looked for, created and taken back alike whether they are there or not. -/
theorem requests_keep_apart (h : Course others s v.moments s')
    (apart : ∀ {a b}, others a b → a.LeavesOthers name b) :
    s.LeavesOthers name s' ∧
      (∀ before m after, v.moments = before ++ m :: after →
        Minds name (before.map Moment.said) m.before m.op) ∧
      ∀ (r : Request) s₁ s₂, r.name ≠ name → s₁.SameBut name s₂ →
        (holdsGrant r).RunsAlike name s₁ s₂ ∧ (grantAll r).RunsAlike name s₁ s₂ ∧
          (revokeAll r).RunsAlike name s₁ s₂ := by
  have minds (before : List Moment) (m : Moment) (after : List Moment)
      (hv : v.moments = before ++ m :: after) :
      Minds name (before.map Moment.said) m.before m.op := by
    rw [hv] at h
    exact v.minds h.split.1 apart hv
  refine ⟨?_, minds, fun r s₁ s₂ hn same => ⟨?_, ?_, ?_⟩⟩
  · refine h.relates Scene.LeavesOthers.trans apart fun m hm => ?_
    obtain ⟨before, after, hv⟩ := List.append_of_mem hm
    exact m.leavesOthers (minds before m after hv)
  · exact (anyGrant_mimics hn same).runsAlike
  · refine (createAll_mimics same fun g hg => ?_).runsAlike
    obtain ⟨scope, -, rfl⟩ := List.mem_map.1 hg
    exact fun heq => hn (Grant.nameFor_injective heq)
  · exact (revokeIn_mimics hn same).runsAlike

namespace Sample

def neighbour : Request := { request awaiting with name := "jit-2", uid := "u2" }

def foreign : Grant :=
  ⟨"jit-2-jit", "team-a", ["dev@example.com"], "edit", none, some ⟨"JitRequest", "jit-2", "u2"⟩⟩

def crowded : Scene := (atFinish.putRequest neighbour).putGrant foreign

theorem crowded_lists (g : Grant) :
    g ∈ [foreign, grant] ↔ crowded.grants "team-a" g.name = some g := by
  rw [List.mem_cons, crowded, Scene.grants_putGrant]
  constructor
  · rintro (rfl | hg)
    · exact .inl ⟨rfl, rfl, rfl⟩
    · cases List.mem_singleton.1 hg
      exact .inr ⟨by decide, rfl⟩
  · rintro (⟨-, -, rfl⟩ | ⟨-, hg⟩)
    · exact .inl rfl
    · exact .inr ((atFinish_lists g).2 hg)

def thinned : Scene := crowded.dropGrant "team-a" "jit-1-jit"

def expiredInCrowd : Visit "jit-1" where
  keeper := keeper
  lastKnown := []
  moments := [
    ⟨crowded, .call (.requestNamed "jit-1"), .ok granted, crowded, rfl, rfl⟩,
    ⟨crowded, .edition, some edition, crowded, rfl, rfl⟩,
    ⟨crowded, .clock, spec.finish, crowded, rfl, rfl⟩,
    ⟨crowded, .call (.grantsWithin "team-a"), .ok [foreign, grant], crowded, crowded_lists, rfl⟩,
    ⟨crowded, .call (.removeGrant "team-a" "jit-1-jit"), .ok (), thinned, rfl, rfl⟩,
    ⟨thinned, .call (.removeRequest "jit-1"), .ok (), thinned.dropRequest "jit-1", rfl, rfl⟩]
  result := some (.ok .done)
  talk := Program.dialogue_of_replay (by decide +kernel)

theorem expiredInCrowd_keeps_apart :
    crowded.LeavesOthers "jit-1" (thinned.dropRequest "jit-1") ∧
      crowded.OwnAt "jit-1" "team-a" "jit-1-jit" ∧
      (holdsGrant neighbour).RunsAlike "jit-1" atStart provided ∧
      (grantAll neighbour).RunsAlike "jit-1" atStart provided ∧
      (revokeAll neighbour).RunsAlike "jit-1" atStart provided := by
  have course : Course (Scene.LeavesOthers "jit-1") crowded expiredInCrowd.moments
      (thinned.dropRequest "jit-1") :=
    .next .refl <| .next .refl <| .next .refl <| .next .refl <| .next .refl <| .next .refl <|
      .last .refl
  obtain ⟨spared, minds, alike⟩ := requests_keep_apart course id
  have removal := minds (expiredInCrowd.moments.take 4) _ _ rfl
  exact ⟨spared, removal.2, alike neighbour atStart provided (by decide) (.putGrant rfl rfl rfl)⟩

end Sample

end AccessWindow
