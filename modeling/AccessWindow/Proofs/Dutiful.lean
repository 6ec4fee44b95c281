import AccessWindow.Proofs.Conduct.Denial
import AccessWindow.Proofs.Setback

/-! Surroundings in which nothing fails without a reason: a call is refused only because what it is
about is missing or there already, or because it is not made on the latest record, and then it has
no effect. -/

namespace AccessWindow

open Lifecycle

def Turn.Fails : Turn → Prop
  | ⟨.call _, .error _⟩ => True
  | _ => False

def Turn.shows? : Turn → Option String
  | ⟨.call (.raiseTicket _), .ok key⟩ | ⟨.call (.commentOn key _), .ok _⟩
  | ⟨.call (.transition key _), .ok _⟩ | ⟨.call (.stateOfTicket key), .ok _⟩ => some key
  | _ => none

/-- The reasons for which a call is refused. The tracker knows some tickets, and the directory of
accounts knows whom it likes. -/
def Scene.Refuses (tickets : String → Prop) (s : Scene) : Call → Fault → Prop
  | .requestNamed name, .notFound _ | .removeRequest name, .notFound _ => s.requests name = none
  | .putStatus w, .notFound _ => s.requests w.name = none
  | .putStatus w, .conflict _ => ∃ q, s.requests w.name = some q ∧ q.version ≠ w.version
  | .addGrant g, .alreadyExists _ => s.grants g.scope g.name ≠ none
  | .removeGrant scope key, .notFound _ => s.grants scope key = none
  | .commentOn key _, .notFound _ | .transition key _, .notFound _
  | .stateOfTicket key, .notFound _ => ¬tickets key
  | .accountOf _, .notFound _ => True
  | _, _ => False

structure Moment.Dutiful (tickets : String → Prop) (m : Moment) : Prop where
  refused : ∀ c f, m.said = ⟨.call c, .error f⟩ →
    m.after = m.before ∧ m.before.Refuses tickets c f
  known : ∀ key, m.said.shows? = some key → tickets key

def Scene.Thins (name : String) (s s' : Scene) : Prop :=
  s'.requests name = s.requests name ∨ s'.requests name = none

variable {others : Scene → Scene → Prop} {s s' : Scene} {m : Moment} {ms before after : List Moment}
  {name : String} {v : Visit name} {q held w : Request} {tickets : String → Prop} {c : Call}
  {f : Fault}

theorem Scene.Thins.trans {a b c : Scene} (hab : a.Thins name b) (hbc : b.Thins name c) :
    a.Thins name c := by
  cases hbc with
  | inl same => exact hab.imp same.trans same.trans
  | inr gone => exact .inr gone

theorem Scene.Refuses.denies (h : s.Refuses tickets c f) :
    c.denies f ∨ ∃ w, c = .putStatus w ∧ ∃ q, s.requests w.name = some q ∧
      q.version ≠ w.version := by
  cases c with
  | putStatus w =>
    cases f with
    | conflict => exact .inr ⟨w, rfl, h⟩
    | notFound => exact .inl rfl
    | _ => cases h
  | _ =>
    cases f <;> first | exact .inl rfl | cases h

namespace Moment

theorem Dutiful.of_served (served : ¬m.said.Fails)
    (known : ∀ key, m.said.shows? = some key → tickets key) : m.Dutiful tickets where
  refused _ _ hm := absurd (hm ▸ trivial) served
  known := known

theorem Dutiful.of_mute (served : ¬m.said.Fails) (mute : m.said.shows? = none) :
    m.Dutiful tickets := by
  refine .of_served served fun key known => ?_
  rw [mute] at known
  cases known

theorem Dutiful.of_all_known (served : ¬m.said.Fails) : m.Dutiful fun _ => True :=
  .of_served served fun _ _ => trivial

theorem Dutiful.inert (h : m.Dutiful tickets) : m.Inert := fun c f hm => (h.refused c f hm).1

theorem Inert.thins (h : m.Inert) (hr : m.said.record? = none) :
    m.before.Thins name m.after := by
  obtain ⟨before, op, answer, after, lawful⟩ := m
  have leaves : before.Leaves op after := lawful.leaves
  cases leaves with
  | written =>
    cases answer with
    | ok => cases hr
    | error f => exact .inl (congrFun (congrArg Scene.requests (h _ f rfl)) name)
  | @removed gone =>
    by_cases hn : name = gone
    · exact .inr (by simp [Scene.dropRequest, hn])
    · exact .inl (by simp [Scene.dropRequest, hn])
  | _ => exact .inl rfl

theorem Dutiful.gone_after (h : m.Dutiful tickets) (hop : m.op = .call (.removeRequest name)) :
    m.after.requests name = none := by
  have refused := h.refused
  obtain ⟨before, op, answer, after, lawful⟩ := m
  cases hop
  cases answer with
  | ok =>
    obtain ⟨-, rfl⟩ := lawful
    simp [Scene.dropRequest]
  | error f =>
    obtain ⟨same, refuses⟩ := refused _ f rfl
    cases f with
    | notFound => exact same ▸ refuses
    | _ => cases refuses

theorem refused_of_gone (hop : m.op = .call (.putStatus w))
    (gone : m.before.requests w.name = none) : ∃ f, m.said = ⟨.call (.putStatus w), .error f⟩ := by
  obtain ⟨before, op, answer, after, lawful⟩ := m
  cases hop
  cases answer with
  | error f => exact ⟨f, rfl⟩
  | ok stored =>
    obtain ⟨old, version, hold, _⟩ := lawful
    cases gone.symm.trans hold

end Moment

namespace Course

theorem thins (h : Course others s ms s') (idle : ∀ {a b}, others a b → a.Thins name b)
    (inert : ∀ m ∈ ms, m.Inert) (hr : ∀ m ∈ ms, m.said.record? = none) : s.Thins name s' :=
  h.relates Scene.Thins.trans idle fun m hm => (inert m hm).thins (hr m hm)

theorem in_hand (h : Course others s before s')
    (idle : ∀ {a b}, others a b → a.Thins name b) (inert : ∀ m ∈ before, m.Inert)
    (hv : v.moments = before ++ after)
    (hl : latest Turn.record? (before.map Moment.said) = some held) :
    s'.requests name = some held ∨ s'.requests name = none := by
  have stays {a b : Scene} (thins : a.Thins name b)
      (ha : a.requests name = some held ∨ a.requests name = none) :
      b.requests name = some held ∨ b.requests name = none := by
    cases thins with
    | inl same => rwa [same]
    | inr gone => exact .inr gone
  induction before using List.reverseRecOn generalizing s' after with
  | nil => cases hl
  | append_singleton before m ih =>
    have hv' : v.moments = before ++ m :: after := by simpa using hv
    obtain ⟨first, last⟩ := h.split
    refine stays (last.thins idle (List.forall_mem_nil _) (List.forall_mem_nil _)) ?_
    cases hr : m.said.record? with
    | some q =>
      rw [List.map_append, latest_append] at hl
      have hq : some q = some held := by simpa [hr] using hl
      cases hq
      exact .inl (v.stored_of_record hv' hr)
    | none =>
      rw [List.map_append, latest_append] at hl
      have hl : latest Turn.record? (before.map Moment.said) = some held := by simpa [hr] using hl
      exact stays ((inert m (by simp)).thins hr)
        (ih first (fun x hx => inert x (by simp [hx])) hv' hl)

theorem edition_eq (h : Course others s before s')
    (loaded : ∀ {a b}, others a b → b.edition = a.edition) (hv : v.moments = before ++ after) :
    s'.edition = s.edition := by
  refine h.relates (R := fun a b => b.edition = a.edition) (fun hab hbc => hbc.trans hab) loaded
    fun m hm => ?_
  obtain ⟨earlier, later, rfl⟩ := List.append_of_mem hm
  have hv : v.moments = earlier ++ m :: (later ++ after) := by simp [hv]
  have permitted := v.permitted hv
  obtain ⟨before, op, answer, after, lawful⟩ := m
  have leaves : before.Leaves op after := lawful.leaves
  cases leaves with
  | adopted => cases permitted
  | _ => rfl

theorem civil (h : Course others s v.moments s')
    (idle : ∀ {a b}, others a b → a.Thins name b)
    (loaded : ∀ {a b}, others a b → b.edition = a.edition) (hs : s.edition.isSome)
    (dutiful : ∀ m ∈ v.moments, m.Dutiful tickets) :
    ∀ x ∈ v.moments.map Moment.said, x.Civil := by
  intro x hx
  obtain ⟨m, hm, rfl⟩ := List.mem_map.1 hx
  obtain ⟨before, after, hv⟩ := List.append_of_mem hm
  have first := h
  rw [hv] at first
  have refused := (dutiful m hm).refused
  have edition := first.split.1.edition_eq loaded hv
  have hand {w : Request} (hop : m.op = .call (.putStatus w)) :
      ∀ q, m.before.requests w.name = some q → q.version = w.version := by
    obtain ⟨-, -, -, hn, u, held, rfl, hl, -⟩ := v.found_of_write hv hop
    intro q hq
    rw [hn] at hq
    have stored := first.split.1.in_hand idle
      (fun x hx => (dutiful x (by simp [hv, hx])).inert) hv hl
    rw [hq] at stored
    simp only [reduceCtorEq, Option.some.injEq, or_false] at stored
    rw [stored]
    rfl
  obtain ⟨scene, op, answer, scene', lawful⟩ := m
  cases op with
  | call c =>
    cases answer with
    | ok => trivial
    | error f =>
      cases (refused c f rfl).2.denies with
      | inl denies => exact denies
      | inr stale =>
        obtain ⟨w, rfl, q, hq, hversion⟩ := stale
        exact absurd (hand rfl q hq) hversion
  | edition =>
    cases answer with
    | some => trivial
    | none =>
      rw [← edition, ← lawful.1] at hs
      cases hs
  | _ => trivial

end Course

end AccessWindow
