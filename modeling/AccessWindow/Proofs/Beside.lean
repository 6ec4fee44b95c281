import AccessWindow.Proofs.History

namespace AccessWindow

open Lifecycle

variable {α β : Type} {name owner scope key : String} {s₁ s₂ s₁' : Scene} {g : Grant}
  {gs gs' : List Grant} {p : Program α} {f : α → Program β}

theorem Grant.nameFor_injective : Function.Injective nameFor := by
  intro a b h
  exact (String.append_left_inj _).1 h

theorem Grant.belongsTo_unique (h : g.belongsTo name) (h' : g.belongsTo owner) : name = owner := by
  cases ho : g.owner with
  | none => simp [belongsTo, ho] at h
  | some o =>
    simp only [belongsTo, ho, Bool.and_eq_true, decide_eq_true_eq] at h h'
    exact h.2.symm.trans h'.2

def Scene.OwnAt (name scope key : String) (s : Scene) : Prop :=
  ∀ g, s.grants scope key = some g → g.belongsTo name

/-- Two scenes differ at most in grants that bear the name of those made for a request, and that
belong to it. -/
structure Scene.SameBut (name : String) (s₁ s₂ : Scene) : Prop where
  requests : s₂.requests = s₁.requests
  clock : s₂.clock = s₁.clock
  edition : s₂.edition = s₁.edition
  grants : ∀ scope key, s₂.grants scope key = s₁.grants scope key ∨
    key = Grant.nameFor name ∧ s₁.OwnAt name scope key ∧ s₂.OwnAt name scope key

inductive Turn.Alike (name : String) : Turn → Turn → Prop
  | same {x} : Alike name x x
  | listing {scope grants grants'} :
      grants'.filter (!·.belongsTo name) = grants.filter (!·.belongsTo name) →
      Alike name ⟨.call (.grantsWithin scope), .ok grants⟩
        ⟨.call (.grantsWithin scope), .ok grants'⟩

/-- However the program runs in the one scene, it can run alike in the other, and comes to the same
result, whether it ends or is broken off. What it leaves differs in no more than before. -/
def Program.RunsAlike (name : String) (p : Program α) (s₁ s₂ : Scene) : Prop :=
  ∀ ms₁ s₁' result, Course Eq s₁ ms₁ s₁' → p.Dialogue (ms₁.map Moment.said) result →
    ∃ ms₂ s₂', Course Eq s₂ ms₂ s₂' ∧ p.Dialogue (ms₂.map Moment.said) result ∧
      List.Forall₂ (Turn.Alike name) (ms₁.map Moment.said) (ms₂.map Moment.said) ∧
      s₁'.SameBut name s₂'

theorem Scene.Allows.alike {R : Scene → Scene → Prop} {c : Call} {answer : Except Fault c.Answer}
    (lawful : s₁.Allows (.call c) answer s₁') (idle : R s₁ s₂)
    (serves : ∀ a, s₁.Serves c a s₁' → ∃ s₂', s₂.Serves c a s₂' ∧ R s₁' s₂') :
    ∃ s₂', s₂.Allows (.call c) answer s₂' ∧ R s₁' s₂' := by
  cases answer with
  | ok a => exact serves a lawful
  | error f =>
    cases lawful with
    | inl same => exact ⟨s₂, .inl rfl, same ▸ idle⟩
    | inr served =>
      obtain ⟨a, hs⟩ := served
      obtain ⟨s₂', hs', related⟩ := serves a hs
      exact ⟨s₂', .inr ⟨a, hs'⟩, related⟩

namespace Scene.SameBut

theorem putGrant (free : s₁.grants g.scope g.name = none) (hn : g.name = Grant.nameFor name)
    (ho : g.belongsTo name) : s₁.SameBut name (s₁.putGrant g) where
  requests := rfl
  clock := rfl
  edition := rfl
  grants scope key := by
    by_cases h : scope = g.scope ∧ key = g.name
    · obtain ⟨rfl, rfl⟩ := h
      refine .inr ⟨hn, fun g' hg' => ?_, fun g' hg' => ?_⟩
      · cases free.symm.trans hg'
      · cases Scene.grants_putGrant.1 hg' with
        | inl h => exact h.2.2 ▸ ho
        | inr h => exact absurd ⟨rfl, rfl⟩ h.1
    · exact .inl (if_neg h)

theorem eq_of_ne (h : s₁.SameBut name s₂) (hk : key ≠ Grant.nameFor name) :
    s₂.grants scope key = s₁.grants scope key :=
  (h.grants scope key).resolve_right fun ⟨heq, _⟩ => hk heq

theorem eq_of_foreign (h : s₁.SameBut name s₂) (hg : s₁.grants scope key = some g)
    (ho : ¬g.belongsTo name) : s₂.grants scope key = s₁.grants scope key :=
  (h.grants scope key).resolve_right fun ⟨_, own, _⟩ => ho (own g hg)

theorem putGrants (h : s₁.SameBut name s₂) : (s₁.putGrant g).SameBut name (s₂.putGrant g) where
  requests := h.requests
  clock := h.clock
  edition := h.edition
  grants scope key := by
    by_cases hp : scope = g.scope ∧ key = g.name
    · exact .inl (by simp [Scene.putGrant, hp])
    · simpa [Scene.putGrant, OwnAt, hp] using h.grants scope key

theorem dropGrants {there gone : String} (h : s₁.SameBut name s₂) :
    (s₁.dropGrant there gone).SameBut name (s₂.dropGrant there gone) where
  requests := h.requests
  clock := h.clock
  edition := h.edition
  grants scope key := by
    by_cases hp : scope = there ∧ key = gone
    · exact .inl (by simp [Scene.dropGrant, hp])
    · simpa [Scene.dropGrant, OwnAt, hp] using h.grants scope key

theorem addGrant (h : s₁.SameBut name s₂) (hn : g.name ≠ Grant.nameFor name)
    {answer : Except Fault Unit} (lawful : s₁.Allows (.call (.addGrant g)) answer s₁') :
    ∃ s₂', s₂.Allows (.call (.addGrant g)) answer s₂' ∧ s₁'.SameBut name s₂' := by
  refine lawful.alike h ?_
  rintro a ⟨free, rfl⟩
  exact ⟨_, ⟨(h.eq_of_ne hn).trans free, rfl⟩, h.putGrants⟩

theorem removeGrant (h : s₁.SameBut name s₂) (agree : s₂.grants scope key = s₁.grants scope key)
    {answer : Except Fault Unit} (lawful : s₁.Allows (.call (.removeGrant scope key)) answer s₁') :
    ∃ s₂', s₂.Allows (.call (.removeGrant scope key)) answer s₂' ∧ s₁'.SameBut name s₂' ∧
      ∀ scope key, s₂.grants scope key = s₁.grants scope key →
        s₂'.grants scope key = s₁'.grants scope key := by
  refine lawful.alike (R := fun a b => a.SameBut name b ∧
    ∀ scope key, s₂.grants scope key = s₁.grants scope key →
      b.grants scope key = a.grants scope key) ⟨h, fun _ _ heq => heq⟩ ?_
  rintro a ⟨stands, rfl⟩
  refine ⟨_, ⟨agree ▸ stands, rfl⟩, h.dropGrants, fun there gone heq => ?_⟩
  simp [Scene.dropGrant, heq]

theorem exists_listing (h : s₁.SameBut name s₂)
    (listed : ∀ g, g ∈ gs ↔ s₁.grants scope g.name = some g) :
    ∃ gs' : List Grant, (∀ g, g ∈ gs' ↔ s₂.grants scope g.name = some g) ∧
      gs'.filter (!·.belongsTo name) = gs.filter (!·.belongsTo name) := by
  cases h.grants scope (Grant.nameFor name) with
  | inl agree =>
    refine ⟨gs, fun g => (listed g).trans ?_, rfl⟩
    by_cases hn : g.name = Grant.nameFor name
    · rw [hn, agree]
    · rw [h.eq_of_ne hn]
  | inr differ =>
    obtain ⟨-, own, own'⟩ := differ
    -- What stands in the place in question is listed in front of all the rest.
    refine ⟨(s₂.grants scope (Grant.nameFor name)).toList ++
      gs.filter (·.name ≠ Grant.nameFor name), fun g => ?_, ?_⟩
    · by_cases hn : g.name = Grant.nameFor name
      · simp [hn, Option.mem_toList]
      · have elsewhere : s₂.grants scope (Grant.nameFor name) ≠ some g :=
          fun hg => hn (s₂.placed hg).2
        simp [hn, elsewhere, listed, h.eq_of_ne hn]
    · have front :
          (s₂.grants scope (Grant.nameFor name)).toList.filter (!·.belongsTo name) = [] := by
        simpa [List.filter_eq_nil_iff, Option.mem_toList, OwnAt] using own'
      rw [List.filter_append, front, List.nil_append, List.filter_filter]
      refine List.filter_congr fun g hg => ?_
      rw [Bool.and_eq_left_iff_imp]
      intro foreign
      rw [decide_eq_true_eq]
      intro hn
      simp [own g (hn ▸ (listed g).1 hg)] at foreign

end Scene.SameBut

theorem filter_belongsTo_eq (hn : owner ≠ name)
    (alike : gs'.filter (!·.belongsTo name) = gs.filter (!·.belongsTo name)) :
    gs'.filter (·.belongsTo owner) = gs.filter (·.belongsTo owner) := by
  have foreign (l : List Grant) : (l.filter (!·.belongsTo name)).filter (·.belongsTo owner) =
      l.filter (·.belongsTo owner) := by
    rw [List.filter_filter]
    refine List.filter_congr fun g _ => ?_
    rw [Bool.and_eq_left_iff_imp]
    intro ho
    rw [Bool.not_eq_true', Bool.eq_false_iff]
    exact fun ho' => hn (Grant.belongsTo_unique ho ho')
  rw [← foreign gs', alike, foreign gs]

namespace Program

def Mimics (name : String) : Program α → Scene → Scene → Prop
  | done _, s₁, s₂ => s₁.SameBut name s₂
  | step op next, s₁, s₂ => s₁.SameBut name s₂ ∧ ∀ answer s₁', s₁.Allows op answer s₁' →
      ∃ answer' s₂', s₂.Allows op answer' s₂' ∧ Turn.Alike name ⟨op, answer⟩ ⟨op, answer'⟩ ∧
        next answer' = next answer ∧ (next answer).Mimics name s₁' s₂'

namespace Mimics

theorem same (h : p.Mimics name s₁ s₂) : s₁.SameBut name s₂ := by
  cases p with
  | done => exact h
  | step => exact h.1

theorem bind (h : p.Mimics name s₁ s₂)
    (next : ∀ a s₁ s₂, s₁.SameBut name s₂ → (f a).Mimics name s₁ s₂) :
    (p >>= f).Mimics name s₁ s₂ := by
  change (p.bind f).Mimics name s₁ s₂
  induction p generalizing s₁ s₂ with
  | done result =>
    cases result with
    | ok a => exact next a s₁ s₂ h
    | error => exact h
  | step op k ih =>
    refine ⟨h.1, fun answer s₁' lawful => ?_⟩
    obtain ⟨answer', s₂', lawful', alike, same, rest⟩ := h.2 answer s₁' lawful
    exact ⟨answer', s₂', lawful', alike, congrArg (Program.bind · f) same, ih answer rest⟩

theorem list {next : List Grant → Program α} (same : s₁.SameBut name s₂)
    (heedless : ∀ gs gs' : List Grant,
      gs'.filter (!·.belongsTo name) = gs.filter (!·.belongsTo name) → next gs' = next gs)
    (mimics : ∀ gs : List Grant, (∀ g ∈ gs, s₁.grants scope g.name = some g) →
      (next gs).Mimics name s₁ s₂) :
    (call (.grantsWithin scope) >>= next).Mimics name s₁ s₂ := by
  refine ⟨same, fun answer s₁' lawful => ?_⟩
  cases answer with
  | error f =>
    have idle : s₁' = s₁ := by
      cases lawful with
      | inl idle => exact idle
      | inr served =>
        obtain ⟨_, -, idle⟩ := served
        exact idle
    exact ⟨.error f, s₂, .inl rfl, .same, rfl, idle ▸ same⟩
  | ok gs =>
    obtain ⟨listed, rfl⟩ := lawful
    obtain ⟨gs', listed', alike⟩ := same.exists_listing listed
    exact ⟨.ok gs', s₂, ⟨listed', rfl⟩, .listing alike, heedless gs gs' alike,
      mimics gs fun g hg => (listed g).1 hg⟩

theorem runsAlike (h : p.Mimics name s₁ s₂) : p.RunsAlike name s₁ s₂ := by
  intro ms₁ s₁' result course talk
  generalize hsaid : ms₁.map Moment.said = said at talk
  induction talk generalizing s₁ s₂ ms₁ with
  | broken =>
    obtain rfl := List.map_eq_nil_iff.1 hsaid
    cases course with
    | last idle => exact ⟨[], s₂, .last rfl, .broken, .nil, idle ▸ h.same⟩
  | ended =>
    obtain rfl := List.map_eq_nil_iff.1 hsaid
    cases course with
    | last idle => exact ⟨[], s₂, .last rfl, .ended, .nil, idle ▸ h.same⟩
  | said _ ih =>
    obtain ⟨m, ms, rfl, hm, rfl⟩ := List.map_eq_cons_iff.1 hsaid
    obtain ⟨before, op, answer, after, lawful⟩ := m
    cases hm
    cases course with
    | next first course =>
      cases first
      obtain ⟨answer', s₂', lawful', alike, same, mimics⟩ := h.2 answer after lawful
      obtain ⟨ms₂, last, course₂, talk₂, alikes, ends⟩ := ih mimics ms course rfl
      exact ⟨⟨s₂, op, answer', s₂', lawful'⟩ :: ms₂, last, .next rfl course₂,
        .said (same ▸ talk₂), .cons alike alikes, ends⟩

end Mimics

end Program

namespace Lifecycle

open Program

theorem createAll_mimics (same : s₁.SameBut name s₂)
    (hn : ∀ g ∈ gs, g.name ≠ Grant.nameFor name) : (createAll gs).Mimics name s₁ s₂ := by
  induction gs generalizing s₁ s₂ with
  | nil => exact same
  | cons g gs ih =>
    have ⟨hg, hgs⟩ := List.forall_mem_cons.1 hn
    refine ⟨same, fun answer s₁' lawful => ?_⟩
    obtain ⟨s₂', lawful', same'⟩ := same.addGrant hg lawful
    refine ⟨answer, s₂', lawful', .same, rfl, ?_⟩
    cases answer with
    | ok => exact ih same' hgs
    | error f =>
      cases f with
      | alreadyExists => exact ih same' hgs
      | _ => exact same'

theorem anyGrant_mimics {scopes : List String} (hn : owner ≠ name) (same : s₁.SameBut name s₂) :
    (anyGrant owner scopes).Mimics name s₁ s₂ := by
  induction scopes with
  | nil => exact same
  | cons scope scopes ih =>
    have any_filter (l : List Grant) : l.any (·.belongsTo owner) =
        (l.filter (·.belongsTo owner)).any (·.belongsTo owner) := by simp [List.any_filter]
    refine .list same (fun gs gs' alike => ?_) fun gs _ => ?_
    · rw [any_filter gs', filter_belongsTo_eq hn alike, ← any_filter gs]
    · split
      · exact same
      · exact ih

theorem deleteAll_mimics (same : s₁.SameBut name s₂)
    (agree : ∀ g ∈ gs, s₂.grants scope g.name = s₁.grants scope g.name) :
    (deleteAll scope gs).Mimics name s₁ s₂ := by
  induction gs generalizing s₁ s₂ with
  | nil => exact same
  | cons g gs ih =>
    have ⟨hg, hgs⟩ := List.forall_mem_cons.1 agree
    refine ⟨same, fun answer s₁' lawful => ?_⟩
    obtain ⟨s₂', lawful', same', kept⟩ := same.removeGrant hg lawful
    refine ⟨answer, s₂', lawful', .same, rfl, ?_⟩
    have rest := ih same' fun g' hg' => kept scope g'.name (hgs g' hg')
    cases answer with
    | ok => exact rest.bind fun _ _ _ same => same
    | error f =>
      cases f with
      | notFound => exact rest
      | _ => exact same'

theorem revokeIn_mimics {scopes : List String} (hn : owner ≠ name) (same : s₁.SameBut name s₂) :
    (revokeIn owner scopes).Mimics name s₁ s₂ := by
  induction scopes generalizing s₁ s₂ with
  | nil => exact same
  | cons scope scopes ih =>
    refine .list same (fun gs gs' alike => ?_) fun gs listed => ?_
    · rw [filter_belongsTo_eq hn alike]
    · refine Mimics.bind (deleteAll_mimics same fun g hg => ?_) fun n s₁ s₂ same =>
        (ih same).bind fun _ _ _ same => same
      obtain ⟨hg, ho⟩ := List.mem_filter.1 hg
      exact same.eq_of_foreign (listed g hg) fun ho' => hn (Grant.belongsTo_unique ho ho')

end Lifecycle

end AccessWindow
