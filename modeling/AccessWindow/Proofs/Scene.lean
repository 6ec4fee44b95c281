import AccessWindow.Proofs.Dialogue
import AccessWindow.Proofs.Instant

/-! The surroundings of a program: what the stores hold, what the clock shows, which edition is in
force, and how an operation and its answer bear on them. The tracker, the directories and the
rulebook's source answer as they like. A call that fails may have been served all the same. -/

namespace AccessWindow

structure Scene where
  requests : String → Option Request
  grants : (scope key : String) → Option Grant
  clock : Instant
  edition : Option Edition
  named : ∀ {name r}, requests name = some r → r.name = name
  placed : ∀ {scope key g}, grants scope key = some g → g.scope = scope ∧ g.name = key

namespace Scene

def putRequest (s : Scene) (r : Request) : Scene where
  requests name := if name = r.name then some r else s.requests name
  grants := s.grants
  clock := s.clock
  edition := s.edition
  named h := by
    split at h
    · next hn =>
      cases h
      exact hn.symm
    · exact s.named h
  placed := s.placed

def dropRequest (s : Scene) (gone : String) : Scene where
  requests name := if name = gone then none else s.requests name
  grants := s.grants
  clock := s.clock
  edition := s.edition
  named h := by
    split at h
    · cases h
    · exact s.named h
  placed := s.placed

def putGrant (s : Scene) (g : Grant) : Scene where
  requests := s.requests
  grants scope key := if scope = g.scope ∧ key = g.name then some g else s.grants scope key
  clock := s.clock
  edition := s.edition
  named := s.named
  placed h := by
    split at h
    · next hg =>
      cases h
      exact ⟨hg.1.symm, hg.2.symm⟩
    · exact s.placed h

def dropGrant (s : Scene) (there gone : String) : Scene where
  requests := s.requests
  grants scope key := if scope = there ∧ key = gone then none else s.grants scope key
  clock := s.clock
  edition := s.edition
  named := s.named
  placed h := by
    split at h
    · cases h
    · exact s.placed h

/-- What a call brings and leaves behind when it is served. A written status takes the place of the
old one, under a new version. -/
def Serves (s : Scene) : (c : Call) → c.Answer → Scene → Prop
  | .allRequests, rs, s' => (∀ r, r ∈ rs ↔ s.requests r.name = some r) ∧ s' = s
  | .requestNamed name, r, s' => s.requests name = some r ∧ s' = s
  | .putStatus r, stored, s' =>
    ∃ old version, s.requests r.name = some old ∧
      stored = { old with status := r.status, version := version } ∧ s' = s.putRequest stored
  | .removeRequest name, _, s' => (s.requests name).isSome ∧ s' = s.dropRequest name
  | .addGrant g, _, s' => s.grants g.scope g.name = none ∧ s' = s.putGrant g
  | .grantsWithin scope, grants, s' => (∀ g, g ∈ grants ↔ s.grants scope g.name = some g) ∧ s' = s
  | .removeGrant scope key, _, s' => (s.grants scope key).isSome ∧ s' = s.dropGrant scope key
  | _, _, s' => s' = s

def Allows (s : Scene) : (op : Operation) → op.Answer → Scene → Prop
  | .call c, .ok answer, s' => s.Serves c answer s'
  | .call c, .error _, s' => s' = s ∨ ∃ answer, s.Serves c answer s'
  | .clock, t, s' => t = s.clock ∧ s' = s
  | .edition, e, s' => e = s.edition ∧ s' = s
  | .adopt _, .ok (e, _), s' => s' = { s with edition := some e }
  | .adopt _, .error _, s' => s' = s
  | .sleep _, _, s' => s' = s

variable {s s' : Scene} {name scope key : String} {r q : Request} {g : Grant}

theorem requests_putRequest :
    (s.putRequest r).requests name = some q ↔
      (name = r.name ∧ q = r) ∨ (name ≠ r.name ∧ s.requests name = some q) := by
  by_cases h : name = r.name <;> simp [putRequest, h, eq_comm]

theorem requests_dropRequest {gone : String} :
    (s.dropRequest gone).requests name = some q ↔ name ≠ gone ∧ s.requests name = some q := by
  by_cases h : name = gone <;> simp [dropRequest, h]

theorem grants_putGrant {g' : Grant} :
    (s.putGrant g').grants scope key = some g ↔
      (scope = g'.scope ∧ key = g'.name ∧ g = g') ∨
        (¬(scope = g'.scope ∧ key = g'.name) ∧ s.grants scope key = some g) := by
  by_cases h : scope = g'.scope ∧ key = g'.name
  · simp [putGrant, h, eq_comm]
  · have : ¬(scope = g'.scope ∧ key = g'.name ∧ g = g') := fun hg => h ⟨hg.1, hg.2.1⟩
    simp [putGrant, h, this]

theorem grants_dropGrant {there gone : String} :
    (s.dropGrant there gone).grants scope key = some g ↔
      ¬(scope = there ∧ key = gone) ∧ s.grants scope key = some g := by
  by_cases h : scope = there ∧ key = gone <;> simp [dropGrant, h]

inductive Leaves (s : Scene) : Operation → Scene → Prop
  | same {op} : Leaves s op s
  | written {r old : Request} {version : Option String} : s.requests r.name = some old →
      Leaves s (.call (.putStatus r))
        (s.putRequest { old with status := r.status, version := version })
  | removed {gone : String} : Leaves s (.call (.removeRequest gone)) (s.dropRequest gone)
  | granted {g : Grant} : s.grants g.scope g.name = none →
      Leaves s (.call (.addGrant g)) (s.putGrant g)
  | revoked {there gone : String} :
      Leaves s (.call (.removeGrant there gone)) (s.dropGrant there gone)
  | adopted {book e} : Leaves s (.adopt book) { s with edition := some e }

theorem Serves.leaves {c : Call} {a : c.Answer} (h : s.Serves c a s') :
    s.Leaves (.call c) s' := by
  cases c with
  | putStatus =>
    obtain ⟨old, version, hold, rfl, rfl⟩ := h
    exact .written hold
  | removeRequest =>
    obtain ⟨-, rfl⟩ := h
    exact .removed
  | addGrant =>
    obtain ⟨hfree, rfl⟩ := h
    exact .granted hfree
  | removeGrant =>
    obtain ⟨-, rfl⟩ := h
    exact .revoked
  | allRequests | requestNamed | grantsWithin =>
    obtain ⟨-, rfl⟩ := h
    exact .same
  | _ =>
    cases h
    exact .same

theorem Allows.leaves {op : Operation} {answer : op.Answer} (h : s.Allows op answer s') :
    s.Leaves op s' := by
  cases op with
  | call =>
    cases answer with
    | ok => exact Serves.leaves h
    | error =>
      cases h with
      | inl hs => exact hs ▸ .same
      | inr hs =>
        obtain ⟨a, hs⟩ := hs
        exact hs.leaves
  | clock | edition => exact h.2 ▸ .same
  | sleep =>
    cases h
    exact .same
  | adopt =>
    cases answer with
    | error =>
      cases h
      exact .same
    | ok =>
      cases h
      exact .adopted

theorem Leaves.request_before {op : Operation} (l : s.Leaves op s')
    (h : s'.requests name = some q) :
    ∃ old, s.requests name = some old ∧ q.spec = old.spec ∧
      (q.status = old.status ∨
        ∃ w : Request, op = .call (.putStatus w) ∧ w.name = name ∧ q.status = w.status) := by
  cases l with
  | @written r old version hold =>
    cases requests_putRequest.1 h with
    | inl hq =>
      obtain ⟨rfl, rfl⟩ := hq
      have hn : old.name = r.name := s.named hold
      exact ⟨old, hn ▸ hold, rfl, .inr ⟨r, rfl, hn.symm, rfl⟩⟩
    | inr hq => exact ⟨q, hq.2, rfl, .inl rfl⟩
  | removed => exact ⟨q, (requests_dropRequest.1 h).2, rfl, .inl rfl⟩
  | _ => exact ⟨q, h, rfl, .inl rfl⟩

theorem Leaves.grant_before {op : Operation} (l : s.Leaves op s')
    (h : s'.grants scope key = some g) :
    s.grants scope key = some g ∨ op = .call (.addGrant g) := by
  cases l with
  | granted =>
    cases grants_putGrant.1 h with
    | inl hg => exact .inr (hg.2.2 ▸ rfl)
    | inr hg => exact .inl hg.2
  | revoked => exact .inl (grants_dropGrant.1 h).2
  | _ => exact .inl h

theorem Leaves.grant_after {op : Operation} (l : s.Leaves op s')
    (h : s.grants scope key = some g) :
    s'.grants scope key = some g ∨ op = .call (.removeGrant scope key) := by
  cases l with
  | @granted g' hfree =>
    refine .inl (grants_putGrant.2 (.inr ⟨?_, h⟩))
    rintro ⟨rfl, rfl⟩
    cases hfree.symm.trans h
  | @revoked there gone =>
    by_cases hgone : scope = there ∧ key = gone
    · obtain ⟨rfl, rfl⟩ := hgone
      exact .inr rfl
    · exact .inl (grants_dropGrant.2 ⟨hgone, h⟩)
  | _ => exact .inl h

theorem Leaves.clock_eq {op : Operation} (l : s.Leaves op s') : s'.clock = s.clock := by
  cases l <;> rfl

end Scene

structure Moment where
  before : Scene
  op : Operation
  answer : op.Answer
  after : Scene
  lawful : before.Allows op answer after

namespace Moment

variable {m : Moment}

def said (m : Moment) : Turn := ⟨m.op, m.answer⟩

theorem faithful (m : Moment) : m.said.Faithful := by
  obtain ⟨before, op, answer, after, lawful⟩ := m
  cases op with
  | call c =>
    cases answer with
    | error f => cases c <;> trivial
    | ok a =>
      cases c with
      | requestNamed name => exact before.named lawful.1
      | putStatus r =>
        obtain ⟨old, version, hold, rfl, -⟩ := lawful
        have hn : old.name = r.name := before.named hold
        exact hn
      | _ => trivial
  | _ => trivial

theorem all_faithful (ms : List Moment) : ∀ x ∈ ms.map said, x.Faithful :=
  List.forall_mem_map.2 fun m _ => m.faithful

theorem exists_last {ms : List Moment} {past : List Turn} {x : Turn}
    (h : ms.map said = past ++ [x]) :
    ∃ before m, ms = before ++ [m] ∧ before.map said = past ∧ m.said = x := by
  obtain ⟨before, last, rfl, hpast, hlast⟩ := List.map_eq_append_iff.1 h
  obtain ⟨m, rfl, hm⟩ := List.map_eq_singleton_iff.1 hlast
  exact ⟨before, m, rfl, hpast, hm⟩

theorem read {t : Instant} (h : m.said = ⟨.clock, t⟩) : t = m.before.clock := by
  obtain ⟨before, op, answer, after, lawful⟩ := m
  cases h
  exact lawful.1

theorem listed {scope : String} {grants : List Grant}
    (h : m.said = ⟨.call (.grantsWithin scope), .ok grants⟩) {g : Grant} :
    g ∈ grants ↔ m.before.grants scope g.name = some g := by
  obtain ⟨before, op, answer, after, lawful⟩ := m
  cases h
  exact lawful.1 g

theorem stored_status {w stored : Request}
    (h : m.said = ⟨.call (.putStatus w), .ok stored⟩) : stored.status = w.status := by
  obtain ⟨before, op, answer, after, lawful⟩ := m
  cases h
  obtain ⟨old, version, -, rfl, -⟩ := lawful
  rfl

theorem written {w stored q : Request} (h : m.said = ⟨.call (.putStatus w), .ok stored⟩)
    (hq : m.after.requests w.name = some q) : q.status = w.status := by
  obtain ⟨before, op, answer, after, lawful⟩ := m
  cases h
  obtain ⟨old, version, hold, rfl, rfl⟩ := lawful
  have hn : old.name = w.name := before.named hold
  cases Scene.requests_putRequest.1 hq with
  | inl hq => exact hq.2 ▸ rfl
  | inr hq => exact absurd hn.symm hq.1

theorem deleted {scope key : String} (h : m.said = ⟨.call (.removeGrant scope key), .ok ()⟩) :
    m.after.grants scope key = none := by
  obtain ⟨before, op, answer, after, lawful⟩ := m
  cases h
  obtain ⟨-, rfl⟩ := lawful
  simp [Scene.dropGrant]

end Moment

end AccessWindow
