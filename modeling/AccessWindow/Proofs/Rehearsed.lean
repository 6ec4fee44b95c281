import AccessWindow.Proofs.History
import AccessWindow.Proofs.Lookup
import AccessWindow.Rehearsal.Run

namespace AccessWindow

variable {s a b c : Scene} {name : String}

theorem Scene.KeepsStatus.trans (hab : a.KeepsStatus name b) (hbc : b.KeepsStatus name c) :
    a.KeepsStatus name c := by
  intro q hq
  obtain ⟨old, hold, hs⟩ := hbc q hq
  obtain ⟨older, holder, hs'⟩ := hab old hold
  exact ⟨older, holder, hs.trans hs'⟩

theorem Scene.Undisturbed.trans (hab : a.Undisturbed name b) (hbc : b.Undisturbed name c) :
    a.Undisturbed name c where
  clock := le_trans hab.clock hbc.clock
  spec := hab.spec.trans hbc.spec
  status := hab.status.trans hbc.status
  grants := hab.grants.trans hbc.grants

theorem Scene.undisturbed_putRequest {r : Request} (hn : r.name ≠ name) :
    s.Undisturbed name (s.putRequest r) := by
  refine undisturbed_of_imp (le_refl _) (fun q hq => ?_) fun _ _ _ hg _ => hg
  cases requests_putRequest.1 hq with
  | inl hq => exact absurd hq.1.symm hn
  | inr hq => exact hq.2

theorem Scene.undisturbed_dropRequest {gone : String} :
    s.Undisturbed name (s.dropRequest gone) := by
  refine undisturbed_of_imp (le_refl _) (fun q hq => ?_) fun _ _ _ hg _ => hg
  exact (requests_dropRequest.1 hq).2

theorem Scene.undisturbed_putGrant {g : Grant} (ho : ¬g.belongsTo name) :
    s.Undisturbed name (s.putGrant g) := by
  refine undisturbed_of_imp (le_refl _) (fun _ hq => hq) fun scope key g' hg ho' => ?_
  cases grants_putGrant.1 hg with
  | inl hg =>
    rw [hg.2.2] at ho'
    exact absurd ho' ho
  | inr hg => exact hg.2

theorem Scene.undisturbed_dropGrant {there gone : String} :
    s.Undisturbed name (s.dropGrant there gone) := by
  refine undisturbed_of_imp (le_refl _) (fun _ hq => hq) fun scope key g hg _ => ?_
  exact (grants_dropGrant.1 hg).2

namespace Rehearsal

inductive Change.Apart (name : String) : Change → Prop
  | putRequest {r} : r.name ≠ name → Apart name (.putRequest r)
  | dropRequest {gone} : Apart name (.dropRequest gone)
  | putGrant {g} : ¬g.belongsTo name → Apart name (.putGrant g)
  | dropGrant {scope gone} : Apart name (.dropGrant scope gone)
  | setTicket {key status} : Apart name (.setTicket key status)
  | dropTicket {key} : Apart name (.dropTicket key)
  | setAccount {handle account} : Apart name (.setAccount handle account)
  | setNamespace {scope labels} : Apart name (.setNamespace scope labels)
  | setSource {book} : Apart name (.setSource book)
  | setCache {book} : Apart name (.setCache book)
  | advance {millis} : 0 ≤ millis → Apart name (.advance millis)
  | disturb {call skip times fault changes} : (∀ c ∈ changes, Apart name c) →
      Apart name (.disturb call skip times fault changes)

namespace World

/-- The clock shows no leap second, has not gone back, and nothing disturbs the visits. -/
structure Calm (w : World) (name : String) : Prop where
  base : w.base.isLeap = false
  advanced : 0 ≤ w.advanced
  disturbances : ∀ d ∈ w.disturbances, ∀ c ∈ d.changes, c.Apart name

structure Shows (w : World) (s : Scene) : Prop where
  requests : ∀ name, s.requests name = w.requests.get? name
  grants : ∀ scope key, s.grants scope key = (w.grantsIn scope).get? key
  clock : s.clock = w.clock
  edition : s.edition = w.edition

variable {w : World} {s s' : Scene} {name scope key gone : String} {r : Request} {g : Grant}

theorem Shows.putRequest (h : w.Shows s) :
    Shows { w with requests := w.requests.insert r.name r } (s.putRequest r) where
  requests other := by simp [Scene.putRequest, h.requests]
  grants := h.grants
  clock := h.clock
  edition := h.edition

theorem Shows.dropRequest (h : w.Shows s) :
    Shows { w with requests := w.requests.erase gone } (s.dropRequest gone) where
  requests other := by simp [Scene.dropRequest, h.requests]
  grants := h.grants
  clock := h.clock
  edition := h.edition

theorem get?_grantsIn_putGrant :
    ((w.putGrant g).grantsIn scope).get? key =
      if scope = g.scope ∧ key = g.name then some g else (w.grantsIn scope).get? key := by
  by_cases h : scope = g.scope
  · simp [World.putGrant, grantsIn, h]
  · simp [World.putGrant, grantsIn, h]

theorem get?_grantsIn_dropGrant {there : String} :
    ((w.dropGrant there gone).grantsIn scope).get? key =
      if scope = there ∧ key = gone then none else (w.grantsIn scope).get? key := by
  by_cases h : scope = there
  · simp [World.dropGrant, grantsIn, h]
  · simp [World.dropGrant, grantsIn, h]

theorem Shows.putGrant (h : w.Shows s) : (w.putGrant g).Shows (s.putGrant g) where
  requests := h.requests
  grants scope key := by simp [get?_grantsIn_putGrant, Scene.putGrant, h.grants]
  clock := h.clock
  edition := h.edition

theorem Shows.dropGrant (h : w.Shows s) :
    (w.dropGrant scope gone).Shows (s.dropGrant scope gone) where
  requests := h.requests
  grants there key := by simp [get?_grantsIn_dropGrant, Scene.dropGrant, h.grants]
  clock := h.clock
  edition := h.edition

theorem Shows.serve (h : w.Shows s) (c : Call) :
    ∃ s', s.Allows (.call c) (w.serve c).1 s' ∧ (w.serve c).2.Shows s' := by
  cases c with
  | allRequests =>
    refine ⟨s, ⟨fun r => ?_, rfl⟩, h⟩
    rw [Dict.mem_values, h.requests]
    constructor
    · intro hr
      obtain ⟨key, hr⟩ := hr
      rwa [s.named ((h.requests key).trans hr)]
    · intro hr
      exact ⟨r.name, hr⟩
  | requestNamed name =>
    rw [World.serve]
    cases hr : w.requests.get? name with
    | none => exact ⟨s, .inl rfl, h⟩
    | some r => exact ⟨s, ⟨(h.requests name).trans hr, rfl⟩, h⟩
  | putStatus r =>
    rw [World.serve]
    cases hr : w.requests.get? r.name with
    | none => exact ⟨s, .inl rfl, h⟩
    | some stored =>
      have hstored := (h.requests r.name).trans hr
      dsimp only
      split
      · exact ⟨s, .inl rfl, h⟩
      · refine ⟨_, ⟨stored, _, hstored, rfl, rfl⟩, ?_⟩
        rw [← s.named hstored]
        exact h.putRequest (r := { stored with status := r.status, version := _ })
  | removeRequest name =>
    rw [World.serve]
    split
    · next hr =>
      obtain ⟨r, hr⟩ := Dict.contains_iff.1 hr
      refine ⟨_, ⟨?_, rfl⟩, h.dropRequest⟩
      rw [h.requests, hr, Option.isSome_some]
    · exact ⟨s, .inl rfl, h⟩
  | addGrant g =>
    rw [World.serve]
    split
    · exact ⟨s, .inl rfl, h⟩
    · next hg =>
      refine ⟨_, ⟨?_, rfl⟩, h.putGrant⟩
      rw [h.grants]
      simpa [Dict.contains] using hg
  | grantsWithin scope =>
    refine ⟨s, ⟨fun g => ?_, rfl⟩, h⟩
    rw [Dict.mem_values, h.grants]
    constructor
    · intro hg
      obtain ⟨key, hg⟩ := hg
      rwa [(s.placed ((h.grants scope key).trans hg)).2]
    · intro hg
      exact ⟨g.name, hg⟩
  | removeGrant scope key =>
    rw [World.serve]
    split
    · next hg =>
      obtain ⟨g, hg⟩ := Dict.contains_iff.1 hg
      refine ⟨_, ⟨?_, rfl⟩, h.dropGrant⟩
      rw [h.grants, hg, Option.isSome_some]
    · exact ⟨s, .inl rfl, h⟩
  | raiseTicket => exact ⟨s, rfl, h.requests, h.grants, h.clock, h.edition⟩
  | keepRulebook => exact ⟨s, rfl, h.requests, h.grants, h.clock, h.edition⟩
  | commentOn key | transition key | stateOfTicket key =>
    rw [World.serve, onTicket]
    cases w.tickets.get? key with
    | none => exact ⟨s, .inl rfl, h⟩
    | some status => exact ⟨s, rfl, h⟩
  | accountOf handle =>
    rw [World.serve]
    cases w.accounts.get? handle with
    | none => exact ⟨s, .inl rfl, h⟩
    | some account => exact ⟨s, rfl, h⟩
  | _ => exact ⟨s, rfl, h⟩

theorem Calm.of_eq {w' : World} (calm : w.Calm name) (base : w'.base = w.base)
    (advanced : w'.advanced = w.advanced) (disturbances : w'.disturbances = w.disturbances) :
    w'.Calm name where
  base := base ▸ calm.base
  advanced := advanced ▸ calm.advanced
  disturbances := disturbances ▸ calm.disturbances

theorem Calm.serve (calm : w.Calm name) (c : Call) : (w.serve c).2.Calm name := by
  cases c with
  | removeRequest | addGrant | removeGrant | requestNamed | accountOf =>
    rw [World.serve]
    split <;> exact calm.of_eq rfl rfl rfl
  | putStatus =>
    rw [World.serve]
    split
    · exact calm
    · split <;> exact calm.of_eq rfl rfl rfl
  | commentOn | transition | stateOfTicket =>
    rw [World.serve, onTicket]
    split <;> exact calm
  | _ => exact calm.of_eq rfl rfl rfl

theorem Calm.clock_le (calm : w.Calm name) (w' : World) (base : w'.base = w.base)
    (elapsed : w.elapsed ≤ w'.elapsed) : w.clock ≤ w'.clock := by
  have hn : 0 ≤ w.elapsed := by
    have := calm.advanced
    rw [World.elapsed]
    omega
  rw [World.clock, World.clock, base]
  exact Instant.getD_add?_le calm.base hn elapsed

theorem Calm.isLeap_clock (calm : w.Calm name) : w.clock.isLeap = false := by
  rw [World.clock]
  cases ht : w.base.add? w.elapsed with
  | none => rfl
  | some t => exact Instant.isLeap_of_add? calm.base ht

theorem Shows.change {c : Change} (h : w.Shows s) (calm : w.Calm name) (apart : c.Apart name) :
    ∃ s', s.Undisturbed name s' ∧ (w.change c).Shows s' ∧ (w.change c).Calm name := by
  cases apart with
  | putRequest hn =>
    exact ⟨_, Scene.undisturbed_putRequest hn, h.putRequest, calm.of_eq rfl rfl rfl⟩
  | dropRequest =>
    exact ⟨_, Scene.undisturbed_dropRequest, h.dropRequest, calm.of_eq rfl rfl rfl⟩
  | putGrant ho => exact ⟨_, Scene.undisturbed_putGrant ho, h.putGrant, calm.of_eq rfl rfl rfl⟩
  | dropGrant => exact ⟨_, Scene.undisturbed_dropGrant, h.dropGrant, calm.of_eq rfl rfl rfl⟩
  | @advance millis hm =>
    refine ⟨{ s with clock := (w.change (.advance millis)).clock },
      Scene.undisturbed_of_eq ?_ rfl rfl, ⟨h.requests, h.grants, rfl, h.edition⟩, calm.base,
      Int.add_nonneg calm.advanced hm, calm.disturbances⟩
    rw [h.clock]
    apply calm.clock_le (w.change (.advance millis)) rfl
    simp only [World.elapsed, World.change]
    omega
  | disturb happens =>
    refine ⟨s, .refl, ⟨h.requests, h.grants, h.clock, h.edition⟩, calm.base, calm.advanced, ?_⟩
    exact List.forall_mem_append.2 ⟨calm.disturbances, by simpa using happens⟩
  | @setAccount handle account | @setNamespace scope account =>
    cases account <;> exact ⟨s, .refl, ⟨h.requests, h.grants, h.clock, h.edition⟩,
      calm.of_eq rfl rfl rfl⟩
  | _ =>
    exact ⟨s, .refl, ⟨h.requests, h.grants, h.clock, h.edition⟩, calm.of_eq rfl rfl rfl⟩

theorem Shows.changes {changes : List Change} (h : w.Shows s) (calm : w.Calm name)
    (apart : ∀ c ∈ changes, c.Apart name) :
    ∃ s', s.Undisturbed name s' ∧ (changes.foldl World.change w).Shows s' ∧
      (changes.foldl World.change w).Calm name := by
  induction changes generalizing w s with
  | nil => exact ⟨s, .refl, h, calm⟩
  | cons c changes ih =>
    have ⟨hc, hrest⟩ := List.forall_mem_cons.1 apart
    obtain ⟨s₁, idle, h, calm⟩ := h.change calm hc
    obtain ⟨s₂, idle', h, calm⟩ := ih h calm hrest
    exact ⟨s₂, idle.trans idle', h, calm⟩

theorem disturbed_apart (call : String) {ds : List Disturbance}
    (h : ∀ d ∈ ds, ∀ c ∈ d.changes, c.Apart name) :
    (∀ d ∈ (disturbed call ds).1, ∀ c ∈ d.changes, c.Apart name) ∧
      ∀ d ∈ (disturbed call ds).2, ∀ c ∈ d.changes, c.Apart name := by
  induction ds with
  | nil => simp [disturbed]
  | cons d ds ih =>
    have ⟨hd, hds⟩ := List.forall_mem_cons.1 h
    have ⟨found, rest⟩ := ih hds
    rw [disturbed]
    split
    · split
      · exact ⟨found, List.forall_mem_cons.2 ⟨hd, rest⟩⟩
      · exact ⟨by simpa using hd, List.forall_mem_cons.2 ⟨hd, hds⟩⟩
    · exact ⟨found, List.forall_mem_cons.2 ⟨hd, rest⟩⟩

theorem Shows.call (h : w.Shows s) (calm : w.Calm name) (c : Call) :
    ∃ m : Moment, m.said = ⟨.call c, (w.call c).1⟩ ∧ s.Undisturbed name m.before ∧
      (w.call c).2.Shows m.after ∧ (w.call c).2.Calm name := by
  have ⟨happens, still⟩ := disturbed_apart (Call.name c) calm.disturbances
  rw [World.call]
  cases hd : disturbed (Call.name c) w.disturbances with
  | mk found disturbances =>
    rw [hd] at happens still
    have changes : ∀ c ∈ (found.map (·.changes)).getD [], c.Apart name := by
      cases found with
      | none => simp
      | some d => simpa using happens d
    have h' : Shows { w with disturbances } s := ⟨h.requests, h.grants, h.clock, h.edition⟩
    obtain ⟨s₁, idle, h₁, calm₁⟩ := h'.changes ⟨calm.base, calm.advanced, still⟩ changes
    dsimp only
    cases found.bind (·.fault) with
    | some f =>
      exact ⟨⟨s₁, .call c, .error f, s₁, .inl rfl⟩, rfl, idle,
        ⟨h₁.requests, h₁.grants, h₁.clock, h₁.edition⟩, calm₁.of_eq rfl rfl rfl⟩
    | none =>
      obtain ⟨s₂, allowed, h₂⟩ := h₁.serve c
      exact ⟨⟨s₁, .call c, _, s₂, allowed⟩, rfl, idle,
        ⟨h₂.requests, h₂.grants, h₂.clock, h₂.edition⟩, (calm₁.serve c).of_eq rfl rfl rfl⟩

theorem Shows.perform (h : w.Shows s) (calm : w.Calm name) (op : Operation) :
    ∃ (m : Moment) (s' : Scene), m.said = ⟨op, (w.perform op).1⟩ ∧
      s.Undisturbed name m.before ∧ m.after.Undisturbed name s' ∧
      (w.perform op).2.Shows s' ∧ (w.perform op).2.Calm name := by
  cases op with
  | call c =>
    obtain ⟨m, hm, idle, h, calm⟩ := h.call calm c
    exact ⟨m, m.after, hm, idle, .refl, h, calm⟩
  | clock =>
    exact ⟨⟨s, .clock, w.clock, s, h.clock.symm, rfl⟩, s, rfl, .refl, .refl, h, calm⟩
  | edition =>
    exact ⟨⟨s, .edition, w.edition, s, h.edition.symm, rfl⟩, s, rfl, .refl, .refl, h, calm⟩
  | adopt book =>
    rw [World.perform, World.adopt]
    split
    · next e changed _ =>
      exact ⟨⟨s, .adopt book, .ok (e, changed), { s with edition := some e }, rfl⟩, _, rfl, .refl,
        .refl, ⟨h.requests, h.grants, h.clock, rfl⟩, calm.of_eq rfl rfl rfl⟩
    · next f _ => exact ⟨⟨s, .adopt book, .error f, s, rfl⟩, s, rfl, .refl, .refl, h, calm⟩
  | sleep span =>
    refine ⟨⟨s, .sleep span, (), s, rfl⟩, { s with clock := (w.perform (.sleep span)).2.clock },
      rfl, .refl, Scene.undisturbed_of_eq ?_ rfl rfl, ⟨h.requests, h.grants, rfl, h.edition⟩,
      calm.of_eq rfl rfl rfl⟩
    rw [h.clock]
    apply calm.clock_le (w.perform (.sleep span)).2 rfl
    simp only [World.elapsed, World.perform]
    omega

theorem Calm.steady (calm : w.Calm name) (op : Operation) :
    ∀ t ∈ Turn.reading? ⟨op, (w.perform op).1⟩, t.isLeap = false := by
  cases op with
  | clock =>
    intro t ht
    cases ht
    exact calm.isLeap_clock
  | _ => simp [Turn.reading?]

theorem Shows.run {α : Type} {p : Program α} (h : w.Shows s) (calm : w.Calm name) :
    ∃ ms s', Course (Scene.Undisturbed name) s ms s' ∧
      p.Dialogue (ms.map Moment.said) (some (World.run p w).1) ∧
      (∀ m ∈ ms, ∀ t ∈ m.said.reading?, t.isLeap = false) ∧
      (World.run p w).2.Shows s' ∧ (World.run p w).2.Calm name := by
  induction p generalizing w s with
  | done result => exact ⟨[], s, .last .refl, .ended, by simp, h, calm⟩
  | step op next ih =>
    have steady := calm.steady op
    obtain ⟨m, s₁, hsaid, before, after, h, calm⟩ := h.perform calm op
    obtain ⟨ms, s₂, course, dialogue, steadily, h, calm⟩ := ih (w.perform op).1 h calm
    refine ⟨m :: ms, s₂, .next before (course.after after .trans), ?_, ?_, h, calm⟩
    · rw [List.map_cons, hsaid]
      exact .said dialogue
    · rw [← hsaid] at steady
      exact List.forall_mem_cons.2 ⟨steady, steadily⟩

end World

structure Occasion where
  changes : List Change
  keeper : Lifecycle.Keeper
  lastKnown : List String

def World.visited (name : String) (w : World) (occasions : List Occasion) : World :=
  occasions.foldl (fun w o =>
    (World.run (o.keeper.reconcile name o.lastKnown) (o.changes.foldl World.change w)).2) w

theorem World.Shows.visited {w : World} {s : Scene} {name : String} {occasions : List Occasion}
    (h : w.Shows s) (calm : w.Calm name)
    (apart : ∀ o ∈ occasions, ∀ c ∈ o.changes, c.Apart name) :
    ∃ (vs : List (Visit name)) (s' : Scene), History (Scene.Undisturbed name) s vs s' ∧
      vs.map (fun v => (v.keeper, v.lastKnown)) = occasions.map (fun o => (o.keeper, o.lastKnown)) ∧
      (∀ v ∈ vs, ∀ m ∈ v.moments, ∀ t ∈ m.said.reading?, t.isLeap = false) ∧
      (w.visited name occasions).Shows s' ∧ (w.visited name occasions).Calm name := by
  induction occasions using List.reverseRecOn with
  | nil => exact ⟨[], s, .start, rfl, by simp, h, calm⟩
  | append_singleton occasions o ih =>
    have ⟨earlier, last⟩ := List.forall_mem_append.1 apart
    obtain ⟨vs, s₁, history, same, steady, h, calm⟩ := ih earlier
    obtain ⟨s₂, idle, h, calm⟩ := h.changes calm (last o (by simp))
    obtain ⟨ms, s₃, course, talk, steadily, h, calm⟩ := h.run calm
      (p := o.keeper.reconcile name o.lastKnown)
    rw [World.visited, List.foldl_append]
    refine ⟨vs ++ [⟨o.keeper, o.lastKnown, ms, _, talk⟩], s₃,
      .visit history (course.after idle .trans), ?_, ?_, h, calm⟩
    · rw [List.map_append, List.map_append, same]
      rfl
    · exact List.forall_mem_append.2 ⟨steady, by simpa using steadily⟩

end Rehearsal

end AccessWindow
