import Mathlib.Logic.Relation
import AccessWindow.Proofs.Reply

/-! Programs that are run while nobody else acts, in stores that can fail at any call, and attempts
at one thing: what an attempt leaves undone, the next one does, and what is done stays as it is. -/

namespace AccessWindow

open Lifecycle

/-- A call that failed has had no effect, and of a grant it is only said that it is there already,
or that it is gone, if it is so. -/
structure Moment.Candid (m : Moment) : Prop where
  inert : m.Inert
  taken : ∀ g f, m.said = ⟨.call (.addGrant g), .error f⟩ → f.isTaken →
    (m.before.grants g.scope g.name).isSome
  absent : ∀ scope key f, m.said = ⟨.call (.removeGrant scope key), .error f⟩ → f.isAbsent →
    m.before.grants scope key = none

theorem Moment.Dutiful.candid {m : Moment} {tickets : String → Prop} (h : m.Dutiful tickets) :
    m.Candid where
  inert := h.inert
  taken := by
    intro g f hm taken
    obtain ⟨-, refuses⟩ := h.refused _ f hm
    cases f with
    | alreadyExists => exact Option.isSome_iff_ne_none.2 refuses
    | _ => cases taken
  absent := by
    intro scope key f hm absent
    obtain ⟨-, refuses⟩ := h.refused _ f hm
    cases f with
    | notFound => exact refuses
    | _ => cases absent

theorem Moment.Dutiful.calm {m : Moment} (h : m.Dutiful fun _ => True)
    (apt : m.op.provides ∨ m.op.revokes) : ¬m.said.Upsets := by
  have refused := h.refused
  obtain ⟨before, op, answer, after, lawful⟩ := m
  cases op with
  | call c =>
    cases answer with
    | ok => exact id
    | error f =>
      obtain ⟨-, refuses⟩ := refused c f rfl
      cases c with
      | addGrant g =>
        cases f with
        | alreadyExists => exact nofun
        | _ => cases refuses
      | removeGrant scope key =>
        cases f with
        | notFound => exact nofun
        | _ => cases refuses
      | grantsWithin scope => cases f <;> cases refuses
      | publishEvent event => cases f <;> cases refuses
      | commentOn key body => cases f <;> first | cases refuses | exact absurd trivial refuses
      | transition key id => cases f <;> first | cases refuses | exact absurd trivial refuses
      | _ => cases apt <;> contradiction
  | _ => cases apt <;> contradiction

namespace Program

variable {α β : Type}

/-- The program is run to its end while nobody else acts. -/
inductive Runs : Program α → Scene → List Turn → Except Fault α → Scene → Prop
  | ended {result : Except Fault α} {s : Scene} : Runs (.done result) s [] result s
  | said {op : Operation} {next : op.Answer → Program α} {answer : op.Answer} {s s₁ s' : Scene}
      {rest : List Turn} {result : Except Fault α} (lawful : s.Allows op answer s₁) :
      Moment.Candid ⟨s, op, answer, s₁, lawful⟩ → Runs (next answer) s₁ rest result s' →
      Runs (.step op next) s (⟨op, answer⟩ :: rest) result s'

namespace Runs

variable {p : Program α} {f : α → Program β} {s s' : Scene} {talk : List Turn}

theorem of_course {ms : List Moment} {result : Except Fault α} (course : Course Eq s ms s')
    (candid : ∀ m ∈ ms, m.Candid) (h : p.Dialogue (ms.map Moment.said) (some result)) :
    p.Runs s (ms.map Moment.said) result s' := by
  induction ms generalizing p s with
  | nil =>
    cases course with
    | last same =>
      cases same
      cases h
      exact .ended
  | cons m ms ih =>
    have ⟨hm, hms⟩ := List.forall_mem_cons.1 candid
    cases course with
    | next same course =>
      cases same
      cases h with
      | said later => exact .said m.lawful hm (ih course hms later)

theorem of_done {result result' : Except Fault α} (h : (done result).Runs s talk result' s') :
    talk = [] ∧ result' = result ∧ s' = s := by
  cases h
  exact ⟨rfl, rfl, rfl⟩

theorem of_bind {result : Except Fault β} (h : (p >>= f).Runs s talk result s') :
    (∃ a before s₁ after, talk = before ++ after ∧ p.Runs s before (.ok a) s₁ ∧
        (f a).Runs s₁ after result s') ∨
      ∃ fault, p.Runs s talk (.error fault) s' ∧ result = .error fault := by
  change (p.bind f).Runs s talk result s' at h
  induction p generalizing s talk with
  | done ended =>
    cases ended with
    | ok a => exact .inl ⟨a, [], s, talk, rfl, .ended, h⟩
    | error fault =>
      obtain ⟨rfl, rfl, rfl⟩ := h.of_done
      exact .inr ⟨fault, .ended, rfl⟩
  | step op next ih =>
    cases h with
    | said lawful candid later =>
      cases ih _ later with
      | inl parts =>
        obtain ⟨a, before, s₁, after, rfl, first, second⟩ := parts
        exact .inl ⟨a, _ :: before, s₁, after, rfl, .said lawful candid first, second⟩
      | inr failed =>
        obtain ⟨fault, first, rfl⟩ := failed
        exact .inr ⟨fault, .said lawful candid first, rfl⟩

theorem of_ask {c : Call} {next : Except Fault c.Answer → Program α} {result : Except Fault α}
    (h : (ask c >>= next).Runs s talk result s') :
    ∃ answer s₁ rest, talk = ⟨.call c, answer⟩ :: rest ∧
      (∃ lawful : s.Allows (.call c) answer s₁,
        Moment.Candid ⟨s, .call c, answer, s₁, lawful⟩) ∧
      (next answer).Runs s₁ rest result s' := by
  cases h with
  | said lawful candid later => exact ⟨_, _, _, rfl, ⟨lawful, candid⟩, later⟩

theorem of_call {c : Call} {next : c.Answer → Program α} {result : Except Fault α}
    (h : (call c >>= next).Runs s talk result s') :
    (∃ answer s₁ rest, talk = ⟨.call c, .ok answer⟩ :: rest ∧ s.Serves c answer s₁ ∧
        (next answer).Runs s₁ rest result s') ∨
      ∃ fault, talk = [⟨.call c, .error fault⟩] ∧ result = .error fault ∧ s' = s := by
  cases h with
  | @said _ _ answer _ _ _ _ _ lawful candid later =>
    cases answer with
    | ok answer => exact .inl ⟨answer, _, _, rfl, lawful, later⟩
    | error fault =>
      obtain ⟨rfl, rfl, rfl⟩ := later.of_done
      exact .inr ⟨fault, rfl, rfl, candid.inert _ _ rfl⟩

theorem of_map {g : α → β} {result : Except Fault β}
    (h : (p >>= fun a => pure (g a)).Runs s talk result s') :
    ∃ inner, p.Runs s talk inner s' ∧ result = inner.map g := by
  cases h.of_bind with
  | inl parts =>
    obtain ⟨a, before, s₁, after, rfl, first, second⟩ := parts
    obtain ⟨rfl, rfl, rfl⟩ := second.of_done
    exact ⟨.ok a, by rwa [List.append_nil], rfl⟩
  | inr failed =>
    obtain ⟨fault, first, rfl⟩ := failed
    exact ⟨_, first, rfl⟩

end Runs

def Tries (p : Program α) (s s' : Scene) : Prop := ∃ talk result, p.Runs s talk result s'

theorem exists_calm_run {p : Program α} {kind : Operation → Bool} {s : Scene}
    (confined : p.Confined kind) (apt : ∀ op, kind op → op.provides ∨ op.revokes)
    (h : s.Listable) : ∃ talk result s', p.Runs s talk result s' ∧ ¬Upset talk := by
  obtain ⟨ms, s', result, course, dutiful, talk⟩ : ∃ ms s' result, Course Eq s ms s' ∧
      (∀ m ∈ ms, m.Dutiful fun _ => True) ∧ p.Dialogue (ms.map Moment.said) (some result) :=
    p.exists_ended h ⟨"", trivial⟩ rfl
  refine ⟨_, result, s', .of_course course (fun m hm => (dutiful m hm).candid) talk, ?_⟩
  rintro ⟨x, hx, upsets⟩
  obtain ⟨m, hm, rfl⟩ := List.mem_map.1 hx
  exact (dutiful m hm).calm (apt _ (confined.only talk _ hx)) upsets

/-- Once the program has succeeded, trying it again changes nothing. However often it was tried
before, a run in which nothing fails leaves the same grants as if it had been the only one; and
there is one where grants can be listed. -/
structure Converges (p : Program α) : Prop where
  settled : ∀ s talk a s₁ s₂, p.Runs s talk (.ok a) s₁ → Relation.ReflTransGen p.Tries s₁ s₂ →
    s₂.grants = s₁.grants
  resumed : ∀ s s₁ talk result s₂ talk' result' s₃, Relation.ReflTransGen p.Tries s s₁ →
    p.Runs s₁ talk result s₂ → ¬Upset talk → p.Runs s talk' result' s₃ → ¬Upset talk' →
    s₂.grants = s₃.grants
  possible : ∀ s, s.Listable → ∃ talk a s', p.Runs s talk (.ok a) s' ∧ ¬Upset talk

structure Seeks (p : Program α) (goal : Scene → (scope key : String) → Option Grant) : Prop where
  kept : ∀ s talk result s', p.Runs s talk result s' → goal s' = goal s
  met : ∀ s talk a s', p.Runs s talk (.ok a) s' → s'.grants = goal s
  still : ∀ s talk result s', p.Runs s talk result s' → s.grants = goal s → s'.grants = s.grants
  calm : ∀ s talk result s', p.Runs s talk result s' → ¬Upset talk → ∃ a, result = .ok a

theorem Seeks.converges {p : Program α} {goal : Scene → (scope key : String) → Option Grant}
    {kind : Operation → Bool} (h : p.Seeks goal) (confined : p.Confined kind)
    (apt : ∀ op, kind op → op.provides ∨ op.revokes) : p.Converges where
  settled s talk a s₁ s₂ run tries := by
    -- Attempts keep the goal, and where it is met they change nothing.
    have stays : s₂.grants = s₁.grants ∧ s₂.grants = goal s₂ := by
      induction tries with
      | refl => exact ⟨rfl, (h.met _ _ _ _ run).trans (h.kept _ _ _ _ run).symm⟩
      | tail _ last ih =>
        obtain ⟨talk', result, run'⟩ := last
        obtain ⟨same, there⟩ := ih
        have unmoved := h.still _ _ _ _ run' there
        exact ⟨unmoved.trans same, unmoved.trans (there.trans (h.kept _ _ _ _ run').symm)⟩
    exact stays.1
  resumed s s₁ talk result s₂ talk' result' s₃ tries run calm run' calm' := by
    obtain ⟨a, rfl⟩ := h.calm _ _ _ _ run calm
    obtain ⟨a', rfl⟩ := h.calm _ _ _ _ run' calm'
    have same : goal s₁ = goal s := by
      clear run run'
      induction tries with
      | refl => rfl
      | tail _ last ih =>
        obtain ⟨talk, result, run⟩ := last
        exact (h.kept _ _ _ _ run).trans ih
    rw [h.met _ _ _ _ run, h.met _ _ _ _ run', same]
  possible s listable := by
    obtain ⟨talk, result, s', run, calm⟩ := exists_calm_run confined apt listable
    obtain ⟨a, rfl⟩ := h.calm _ _ _ _ run calm
    exact ⟨talk, a, s', run, calm⟩

end Program

end AccessWindow
