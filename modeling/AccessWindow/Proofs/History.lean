import Mathlib.Data.List.Induction
import AccessWindow.Proofs.Conduct.Visit
import AccessWindow.Proofs.Scene

/-! Histories of a request: visits one after the other, each of which may be broken off, while
others act upon the surroundings at any moment. -/

namespace AccessWindow

open Lifecycle

def Scene.KeepsSpec (name : String) (s s' : Scene) : Prop :=
  ∀ q, s'.requests name = some q → ∃ old, s.requests name = some old ∧ q.spec = old.spec

theorem Scene.KeepsSpec.trans {name : String} {a b c : Scene} (hab : a.KeepsSpec name b)
    (hbc : b.KeepsSpec name c) : a.KeepsSpec name c := by
  intro q hq
  obtain ⟨old, hold, hs⟩ := hbc q hq
  obtain ⟨older, holder, hs'⟩ := hab old hold
  exact ⟨older, holder, hs.trans hs'⟩

def Scene.KeepsStatus (name : String) (s s' : Scene) : Prop :=
  ∀ q, s'.requests name = some q → ∃ old, s.requests name = some old ∧ q.status = old.status

def Scene.SparesGrants (owner : String) (s s' : Scene) : Prop :=
  ∀ scope key g, s'.grants scope key = some g → g.belongsTo owner →
    ∃ old, s.grants scope key = some old ∧ old.belongsTo owner

theorem Scene.SparesGrants.trans {owner : String} {a b c : Scene} (hab : a.SparesGrants owner b)
    (hbc : b.SparesGrants owner c) : a.SparesGrants owner c := by
  intro scope key g hg ho
  obtain ⟨old, hold, ho'⟩ := hbc scope key g hg ho
  exact hab scope key old hold ho'

def Scene.Holds (owner : String) (scopes : List String) (s : Scene) : Prop :=
  ∃ scope ∈ scopes, ∃ key g, s.grants scope key = some g ∧ g.belongsTo owner

/-- Nothing happens that is left to the visits to a request, and the clock does not go back. -/
structure Scene.Undisturbed (name : String) (s s' : Scene) : Prop where
  clock : s.clock ≤ s'.clock
  spec : s.KeepsSpec name s'
  status : s.KeepsStatus name s'
  grants : s.SparesGrants name s'

theorem Scene.undisturbed_of_imp {name : String} {s s' : Scene} (ht : s.clock ≤ s'.clock)
    (hr : ∀ q, s'.requests name = some q → s.requests name = some q)
    (hg : ∀ scope key g, s'.grants scope key = some g → g.belongsTo name →
      s.grants scope key = some g) : s.Undisturbed name s' where
  clock := ht
  spec q hq := ⟨q, hr q hq, rfl⟩
  status q hq := ⟨q, hr q hq, rfl⟩
  grants scope key g h ho := ⟨g, hg scope key g h ho, ho⟩

theorem Scene.undisturbed_of_eq {name : String} {s s' : Scene} (ht : s.clock ≤ s'.clock)
    (hr : s'.requests = s.requests) (hg : s'.grants = s.grants) : s.Undisturbed name s' :=
  undisturbed_of_imp ht (fun _ h => hr ▸ h) fun _ _ _ h _ => hg ▸ h

@[refl] theorem Scene.Undisturbed.refl {name : String} {s : Scene} : s.Undisturbed name s :=
  undisturbed_of_eq (le_refl _) rfl rfl

/-- Moments from one scene to another. Before, between and after them others act. -/
inductive Course (others : Scene → Scene → Prop) : Scene → List Moment → Scene → Prop
  | last {s s'} : others s s' → Course others s [] s'
  | next {s m ms s'} : others s m.before → Course others m.after ms s' →
      Course others s (m :: ms) s'

theorem Course.after {others : Scene → Scene → Prop} {s s₁ s' : Scene} {ms : List Moment}
    (h : Course others s₁ ms s') (idle : others s s₁)
    (trans : ∀ {a b c}, others a b → others b c → others a c) : Course others s ms s' := by
  cases h with
  | last last => exact .last (trans idle last)
  | next first rest => exact .next (trans idle first) rest

theorem Course.append {others : Scene → Scene → Prop} {s s₁ s' : Scene} {ms more : List Moment}
    (h : Course others s ms s₁) (h' : Course others s₁ more s')
    (trans : ∀ {a b c}, others a b → others b c → others a c) :
    Course others s (ms ++ more) s' := by
  induction h with
  | last idle => exact h'.after idle trans
  | next first _ ih => exact .next first (ih h')

def Moment.Writes (m : Moment) (name : String) (status : Request.Status) : Prop :=
  ∃ w : Request, m.op = .call (.putStatus w) ∧ w.name = name ∧ status = w.status

/-- One visit to a request: what it was told to know of, what it did, and what it ended with unless
it was broken off. -/
structure Visit (name : String) where
  keeper : Keeper
  lastKnown : List String
  moments : List Moment
  result : Option (Except Fault Outcome)
  talk : (keeper.reconcile name lastKnown).Dialogue (moments.map Moment.said) result

inductive History (others : Scene → Scene → Prop) {name : String} :
    Scene → List (Visit name) → Scene → Prop
  | start {s} : History others s [] s
  | visit {s vs s₁ v s₂} : History others s vs s₁ → Course others s₁ v.moments s₂ →
      History others s (vs ++ [v]) s₂

variable {others : Scene → Scene → Prop} {s s' s₁ s₂ : Scene} {m : Moment}
  {ms before after : List Moment} {name scope key : String} {r q : Request} {e : Edition}
  {g : Grant}

theorem Grant.expires_of_mem (h : g ∈ Grant.ofRequest r) : g.expires = some r.closes := by
  obtain ⟨scope, -, rfl⟩ := List.mem_map.1 h
  rfl

namespace Course

theorem split (h : Course others s (before ++ m :: after) s') :
    Course others s before m.before ∧ Course others m.after after s' := by
  induction before generalizing s with
  | nil =>
    cases h with
    | next first rest => exact ⟨.last first, rest⟩
  | cons m' before ih =>
    cases h with
    | next first rest => exact ⟨.next first (ih rest).1, (ih rest).2⟩

theorem relates {R : Scene → Scene → Prop} (h : Course others s ms s')
    (trans : ∀ {a b c}, R a b → R b c → R a c) (idle : ∀ {a b}, others a b → R a b)
    (moved : ∀ m ∈ ms, R m.before m.after) : R s s' := by
  induction h with
  | last h => exact idle h
  | next first _ ih =>
    have ⟨hm, hms⟩ := List.forall_mem_cons.1 moved
    exact trans (idle first) (trans hm (ih hms))

theorem clock_le (h : Course others s ms s') (onward : ∀ {a b}, others a b → a.clock ≤ b.clock) :
    s.clock ≤ s'.clock :=
  h.relates (R := fun a b => a.clock ≤ b.clock) (fun hab hbc => le_trans hab hbc) onward
    fun m _ => le_of_eq m.lawful.leaves.clock_eq.symm

theorem clock_le_later {between : List Moment} {m' : Moment}
    (h : Course others s (before ++ m :: (between ++ m' :: after)) s')
    (onward : ∀ {a b}, others a b → a.clock ≤ b.clock) : m.before.clock ≤ m'.before.clock :=
  calc
    m.before.clock = m.after.clock := m.lawful.leaves.clock_eq.symm
    _ ≤ m'.before.clock := h.split.2.split.1.clock_le onward

theorem keepsSpec (h : Course others s ms s')
    (keeps : ∀ {a b}, others a b → a.KeepsSpec name b) : s.KeepsSpec name s' := by
  refine h.relates Scene.KeepsSpec.trans keeps fun m _ q hq => ?_
  obtain ⟨old, hold, hs, -⟩ := m.lawful.leaves.request_before hq
  exact ⟨old, hold, hs⟩

theorem status_before (h : Course others s ms s')
    (keeps : ∀ {a b}, others a b → a.KeepsStatus name b) (hq : s'.requests name = some q) :
    ∃ old, s.requests name = some old ∧
      (q.status = old.status ∨ ∃ m ∈ ms, m.Writes name q.status) := by
  refine h.relates (R := fun a b => ∀ q, b.requests name = some q → ∃ old,
    a.requests name = some old ∧ (q.status = old.status ∨ ∃ m ∈ ms, m.Writes name q.status))
    ?_ ?_ ?_ q hq
  · intro a b c hab hbc q hq
    obtain ⟨old, hold, hs⟩ := hbc q hq
    obtain ⟨older, holder, hs'⟩ := hab old hold
    refine ⟨older, holder, ?_⟩
    cases hs with
    | inl hs => exact hs ▸ hs'
    | inr hs => exact .inr hs
  · intro a b hab q hq
    obtain ⟨old, hold, hs⟩ := keeps hab q hq
    exact ⟨old, hold, .inl hs⟩
  · intro m hm q hq
    obtain ⟨old, hold, -, hs⟩ := m.lawful.leaves.request_before hq
    exact ⟨old, hold, hs.imp id fun hw => ⟨m, hm, hw⟩⟩

theorem grant_before {owner : String} (h : Course others s ms s')
    (spares : ∀ {a b}, others a b → a.SparesGrants owner b)
    (hg : s'.grants scope key = some g) (ho : g.belongsTo owner) :
    (∃ old, s.grants scope key = some old ∧ old.belongsTo owner) ∨
      ∃ m ∈ ms, ∃ g : Grant, m.op = .call (.addGrant g) ∧ g.scope = scope ∧ g.belongsTo owner := by
  refine h.relates (R := fun a b => ∀ g, b.grants scope key = some g → g.belongsTo owner →
    (∃ old, a.grants scope key = some old ∧ old.belongsTo owner) ∨
      ∃ m ∈ ms, ∃ g : Grant, m.op = .call (.addGrant g) ∧ g.scope = scope ∧ g.belongsTo owner)
    ?_ ?_ ?_ g hg ho
  · intro a b c hab hbc g hg ho
    cases hbc g hg ho with
    | inl hb =>
      obtain ⟨old, hold, ho'⟩ := hb
      exact hab old hold ho'
    | inr hm => exact .inr hm
  · intro a b hab g hg ho
    exact .inl (spares hab scope key g hg ho)
  · intro m hm g hg ho
    cases m.lawful.leaves.grant_before hg with
    | inl hb => exact .inl ⟨g, hb, ho⟩
    | inr hop => exact .inr ⟨m, hm, g, hop, (m.after.placed hg).1, ho⟩

theorem found (h : Course others s ms s') (hf : Found name (ms.map Moment.said) r e) :
    ∃ s₀ m rest, others s s₀ ∧ s₀.requests name = some r ∧ ms = m :: rest ∧
      Course others s₀ rest s' := by
  cases h with
  | last => simp [Found] at hf
  | @next _ m rest _ first later =>
    rw [Found, List.map_cons, List.cons_prefix_cons] at hf
    obtain ⟨before, op, answer, after, lawful⟩ := m
    obtain ⟨rfl, ha⟩ := Sigma.mk.inj hf.1
    cases ha
    obtain ⟨hr, rfl⟩ := lawful
    exact ⟨after, _, rest, first, hr, rfl, later⟩

theorem found_request (h : Course others s ms s')
    (alone : ∀ {a b}, others a b → b.requests name = a.requests name)
    (hf : Found name (ms.map Moment.said) r e) : s.requests name = some r := by
  obtain ⟨s₀, m, rest, first, hr, -, -⟩ := h.found hf
  rw [← alone first, hr]

theorem found_status (h : Course others s ms s')
    (keeps : ∀ {a b}, others a b → a.KeepsStatus name b)
    (hf : Found name (ms.map Moment.said) r e) :
    ∃ old, s.requests name = some old ∧ r.status = old.status := by
  obtain ⟨s₀, m, rest, first, hr, -, -⟩ := h.found hf
  exact keeps first r hr

theorem found_spec (h : Course others s ms s')
    (keeps : ∀ {a b}, others a b → a.KeepsSpec name b)
    (hf : Found name (ms.map Moment.said) r e) :
    ∃ old, s.requests name = some old ∧ r.spec = old.spec := by
  obtain ⟨s₀, m, rest, first, hr, -, -⟩ := h.found hf
  exact keeps first r hr

theorem status_found (h : Course others s ms s')
    (keeps : ∀ {a b}, others a b → a.KeepsStatus name b)
    (hf : Found name (ms.map Moment.said) r e) (hq : s'.requests name = some q) :
    q.status = r.status ∨ ∃ m ∈ ms, m.Writes name q.status := by
  obtain ⟨s₀, m, rest, -, hr, rfl, later⟩ := h.found hf
  obtain ⟨old, hold, hs⟩ := later.status_before keeps hq
  cases hr.symm.trans hold
  refine hs.imp id fun hw => ?_
  obtain ⟨m', hm', hw⟩ := hw
  exact ⟨m', List.mem_cons_of_mem m hm', hw⟩

end Course

namespace Visit

variable {v : Visit name}

theorem faithful : ∀ x ∈ v.moments.map Moment.said, x.Faithful :=
  Moment.all_faithful v.moments

theorem named (hf : Found name (v.moments.map Moment.said) r e) : r.name = name :=
  v.faithful _ (hf.subset List.mem_cons_self)

theorem permitted (h : v.moments = before ++ m :: after) :
    Permitted name v.lastKnown (before.map Moment.said) m.op := by
  have kept := (v.talk.abides Keeper.reconcile_abides v.faithful).1
  have := kept (before.map Moment.said) m.said (after.map Moment.said) (by simp [h])
  rwa [List.nil_append] at this

theorem ends {result : Except Fault Outcome} (h : v.result = some result) :
    Ends (Concludes name v.lastKnown) result (v.moments.map Moment.said) := by
  simpa using (v.talk.abides Keeper.reconcile_abides v.faithful).2 result h

theorem concludes {outcome : Outcome} (h : v.result = some (.ok outcome)) :
    Concludes name v.lastKnown outcome (v.moments.map Moment.said) := v.ends h

theorem no_grant_of_only (only : Only Operation.sparesGrants (v.moments.map Moment.said)) :
    ∀ m ∈ v.moments, ∀ g, m.op ≠ .call (.addGrant g) := by
  intro m hm g hop
  have := only m.said (List.mem_map_of_mem hm)
  rw [show m.said.1 = _ from hop] at this
  cases this

theorem found_of_write {w : Request} (hv : v.moments = before ++ m :: after)
    (hop : m.op = .call (.putStatus w)) :
    ∃ r e, Found name (before.map Moment.said) r e ∧ w.name = name ∧
      ∃ (u : Request.Update) (held : Request), w = held.record u ∧
        latest Turn.record? (before.map Moment.said) = some held ∧
        Decides (before.map Moment.said) r e u ∧ Continues (before.map Moment.said) u := by
  have permitted := v.permitted hv
  rw [hop] at permitted
  cases permitted with
  | write found hl hn dec cont => exact ⟨_, _, found, hn, _, _, rfl, hl, dec, cont⟩

theorem found_of_grant {g : Grant} (hv : v.moments = before ++ m :: after)
    (hop : m.op = .call (.addGrant g)) :
    ∃ r e, Found name (before.map Moment.said) r e ∧ r.status.phase = .preApproved ∧
      Silent (before.map Moment.said) ∧ g ∈ Grant.ofRequest r := by
  have permitted := v.permitted hv
  rw [hop] at permitted
  cases permitted with
  | grant found hn hp why silent hg => exact ⟨_, _, found, hp, silent, hg⟩

theorem stored_of_record {held : Request} (hv : v.moments = before ++ m :: after)
    (hr : m.said.record? = some held) : m.after.requests name = some held := by
  have permitted := v.permitted hv
  obtain ⟨s, op, answer, s', lawful⟩ := m
  cases op with
  | call c =>
    cases answer with
    | error => cases c <;> cases hr
    | ok a =>
      cases c with
      | requestNamed n =>
        cases hr
        obtain ⟨hn, rfl⟩ := lawful
        cases permitted with
        | find => exact hn
        | reread => exact hn
      | putStatus w =>
        cases hr
        obtain ⟨old, version, hold, rfl, rfl⟩ := lawful
        cases permitted with
        | write found hl hname =>
          have hn : old.name = name := (s.named hold).trans hname
          exact Scene.requests_putRequest.2 (.inl ⟨hn.symm, rfl⟩)
      | _ => cases hr
  | _ => cases hr

theorem exists_brought {held : Request} (hv : v.moments = before ++ after)
    (hl : latest Turn.record? (before.map Moment.said) = some held) :
    ∃ earlier m between, before = earlier ++ m :: between ∧ m.said.record? = some held ∧
      m.after.requests name = some held := by
  obtain ⟨x, hx, hr⟩ := exists_of_latest hl
  obtain ⟨m, hm, rfl⟩ := List.mem_map.1 hx
  obtain ⟨earlier, between, rfl⟩ := List.append_of_mem hm
  have hv' : v.moments = earlier ++ m :: (between ++ after) := by simp [hv]
  exact ⟨earlier, m, between, rfl, hr, v.stored_of_record hv' hr⟩

theorem due_of_revoke (hv : v.moments = before ++ m :: after)
    (hop : m.op = .call (.removeGrant scope key))
    (hf : Found name (v.moments.map Moment.said) r e) :
    Discarded r ∨ ∃ held t, Lapsing (before.map Moment.said) r held ∧
      latest Turn.reading? (before.map Moment.said) = some t ∧ held.closes.until? t = none := by
  have hpre : before.map Moment.said <+: v.moments.map Moment.said := by simp [hv]
  have permitted := v.permitted hv
  rw [hop] at permitted
  cases permitted with
  | revoke clears =>
  cases clears with
  | gone missed =>
    obtain ⟨message, hm⟩ := missed
    exact absurd ⟨message, hm.trans hpre⟩ hf.not_missed
  | due due =>
  cases due with
  | discarded found _ discarded =>
    obtain ⟨rfl, -⟩ := found.unique hf hpre
    exact .inl discarded
  | expired found _ lapsing ht hu =>
    obtain ⟨rfl, -⟩ := found.unique hf hpre
    exact .inr ⟨_, _, lapsing, ht, hu⟩

theorem found_whole (hv : v.moments = before ++ after)
    (hf : Found name (before.map Moment.said) r e) :
    Found name (v.moments.map Moment.said) r e := by
  rw [hv, List.map_append]
  exact hf.mono (List.prefix_append _ _)

end Visit

theorem Course.spec_of_record {v : Visit name} (h : Course others s before s')
    (keeps : ∀ {a b}, others a b → a.KeepsSpec name b) (hv : v.moments = before ++ after)
    {x : Turn} (hx : x ∈ before.map Moment.said) {held : Request}
    (hr : x.record? = some held) : ∃ q, s.requests name = some q ∧ held.spec = q.spec := by
  obtain ⟨m, hm, rfl⟩ := List.mem_map.1 hx
  obtain ⟨ms, rest, rfl⟩ := List.append_of_mem hm
  have hv : v.moments = ms ++ m :: (rest ++ after) := by simp [hv]
  obtain ⟨old, hold, hspec, -⟩ := m.lawful.leaves.request_before (v.stored_of_record hv hr)
  obtain ⟨q, hq, hspec'⟩ := h.split.1.keepsSpec keeps old hold
  exact ⟨q, hq, hspec.trans hspec'⟩

theorem History.split {v : Visit name} {earlier later : List (Visit name)}
    (h : History others s (earlier ++ v :: later) s') :
    ∃ s₁ s₂, History others s earlier s₁ ∧ Course others s₁ v.moments s₂ ∧
      History others s₂ later s' := by
  generalize hvs : earlier ++ v :: later = vs at h
  induction h generalizing later with
  | start => simp at hvs
  | @visit vs s₁ last s₂ before course ih =>
    cases later using List.reverseRecOn with
    | nil =>
      obtain ⟨rfl, hv⟩ := List.append_inj' hvs rfl
      cases hv
      exact ⟨s₁, s₂, before, course, .start⟩
    | append_singleton later w =>
      have hvs' : (earlier ++ v :: later) ++ [w] = vs ++ [last] := by simpa using hvs
      obtain ⟨rfl, hw⟩ := List.append_inj' hvs' rfl
      cases hw
      obtain ⟨a, b, hearlier, hv, hlater⟩ := ih rfl
      exact ⟨a, b, hearlier, hv, .visit hlater course⟩

theorem History.keepsSpec {vs : List (Visit name)} (h : History others s vs s')
    (keeps : ∀ {a b}, others a b → a.KeepsSpec name b) : s.KeepsSpec name s' := by
  induction h with
  | start => exact fun q hq => ⟨q, hq, rfl⟩
  | visit _ course ih => exact ih.trans (course.keepsSpec keeps)

namespace Sample

def edition : Edition :=
  ⟨1, { Rulebook.standard with custom := .empty, namespacePattern := none }, none, by decide, rfl⟩

def keeper : Keeper := ⟨.standard, true, true⟩

def spec : Request.Spec where
  reporter := "dev@example.com"
  others := []
  role := "edit"
  namespaces := ["team-a"]
  labels := .empty
  start := ⟨86340, 0, by decide⟩
  finish := ⟨86400, 0, by decide⟩
  fields := .empty

def request (status : Request.Status) : Request := ⟨"jit-1", "u1", some "1", spec, status⟩

def grant : Grant :=
  ⟨"jit-1-jit", "team-a", ["dev@example.com"], "edit", some spec.finish,
    some ⟨"JitRequest", "jit-1", "u1"⟩⟩

def scene (status : Request.Status) (clock : Instant) : Scene where
  requests name := if name = "jit-1" then some (request status) else none
  grants _ _ := none
  clock := clock
  edition := some edition
  named h := by
    split at h
    · next hn =>
      cases h
      exact hn.symm
    · cases h
  placed := nofun

theorem scene_bare {status : Request.Status} {clock : Instant} (scope key : String) (g : Grant)
    (h : (scene status clock).grants scope key = some g) : ¬g.belongsTo "jit-1" := by
  cases h

def awaiting : Request.Status :=
  ⟨.preApproved, "", .issue "IAM-1", some spec.start, some spec.finish⟩

def atStart : Scene := scene awaiting spec.start

def provided : Scene := atStart.putGrant grant

theorem lists_single {s : Scene} {only : Grant} (bare : ∀ key, s.grants only.scope key = none)
    (g : Grant) : g ∈ [only] ↔ (s.putGrant only).grants only.scope g.name = some g := by
  rw [Scene.grants_putGrant, List.mem_singleton, bare]
  constructor
  · intro h
    subst h
    exact .inl ⟨rfl, rfl, rfl⟩
  · intro h
    cases h with
    | inl h => exact h.2.2
    | inr h => cases h.2

theorem provided_lists (g : Grant) : g ∈ [grant] ↔ provided.grants "team-a" g.name = some g :=
  lists_single (fun _ => rfl) g

def provision : List Moment := [
  ⟨atStart, .call (.requestNamed "jit-1"), .ok (request awaiting), atStart, rfl, rfl⟩,
  ⟨atStart, .edition, some edition, atStart, rfl, rfl⟩,
  ⟨atStart, .clock, spec.start, atStart, rfl, rfl⟩,
  ⟨atStart, .call (.stateOfTicket "IAM-1"), .ok "Approved", atStart, rfl⟩,
  ⟨atStart, .call (.addGrant grant), .ok (), provided, rfl, rfl⟩]

end Sample

end AccessWindow
