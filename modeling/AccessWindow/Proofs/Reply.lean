import AccessWindow.Proofs.Dutiful

namespace AccessWindow

variable {α : Type} {s s' : Scene} {tickets : String → Prop} {r q : Request} {g : Grant}

structure Scene.Listable (s : Scene) : Prop where
  requests : ∃ rs : List Request, ∀ r, r ∈ rs ↔ s.requests r.name = some r
  grants : ∀ scope, ∃ gs : List Grant, ∀ g, g ∈ gs ↔ s.grants scope g.name = some g

namespace Scene.Listable

theorem putRequest (h : s.Listable) : (s.putRequest r).Listable where
  requests := by
    obtain ⟨rs, hrs⟩ := h.requests
    refine ⟨r :: rs.filter (·.name ≠ r.name), fun q => ?_⟩
    simp only [List.mem_cons, List.mem_filter, hrs, requests_putRequest, decide_eq_true_eq]
    constructor
    · rintro (rfl | ⟨hq, hn⟩)
      · exact .inl ⟨rfl, rfl⟩
      · exact .inr ⟨hn, hq⟩
    · rintro (⟨-, rfl⟩ | ⟨hn, hq⟩)
      · exact .inl rfl
      · exact .inr ⟨hq, hn⟩
  grants := h.grants

theorem dropRequest {gone : String} (h : s.Listable) : (s.dropRequest gone).Listable where
  requests := by
    obtain ⟨rs, hrs⟩ := h.requests
    refine ⟨rs.filter (·.name ≠ gone), fun q => ?_⟩
    simp only [List.mem_filter, hrs, requests_dropRequest, decide_eq_true_eq, and_comm]
  grants := h.grants

theorem putGrant (h : s.Listable) : (s.putGrant g).Listable where
  requests := h.requests
  grants scope := by
    obtain ⟨gs, hgs⟩ := h.grants scope
    by_cases hscope : scope = g.scope
    · refine ⟨g :: gs.filter (·.name ≠ g.name), fun g' => ?_⟩
      simp only [List.mem_cons, List.mem_filter, hgs, grants_putGrant, decide_eq_true_eq, hscope,
        true_and]
      constructor
      · rintro (rfl | ⟨hg, hn⟩)
        · exact .inl ⟨rfl, rfl⟩
        · exact .inr ⟨hn, hg⟩
      · rintro (⟨-, rfl⟩ | ⟨hn, hg⟩)
        · exact .inl rfl
        · exact .inr ⟨hg, hn⟩
    · refine ⟨gs, fun g' => ?_⟩
      simp [hgs, grants_putGrant, hscope]

theorem dropGrant {there gone : String} (h : s.Listable) : (s.dropGrant there gone).Listable where
  requests := h.requests
  grants scope := by
    obtain ⟨gs, hgs⟩ := h.grants scope
    refine ⟨gs.filter fun g => ¬(scope = there ∧ g.name = gone), fun g => ?_⟩
    simp only [List.mem_filter, hgs, grants_dropGrant, decide_eq_true_eq, and_comm]

end Scene.Listable

theorem Scene.Listable.exists_reply (h : s.Listable) (hk : ∃ key, tickets key) (op : Operation) :
    ∃ m : Moment, m.before = s ∧ m.op = op ∧ m.Dutiful tickets ∧ m.after.Listable := by
  have served {c : Call} (a : c.Answer) {s' : Scene} (serves : s.Serves c a s')
      (after : s'.Listable) (known : ∀ key, Turn.shows? ⟨.call c, .ok a⟩ = some key → tickets key) :
      ∃ m : Moment, m.before = s ∧ m.op = .call c ∧ m.Dutiful tickets ∧ m.after.Listable :=
    ⟨⟨s, .call c, .ok a, s', serves⟩, rfl, rfl, .of_served id known, after⟩
  have refused {c : Call} {f : Fault} (refuses : s.Refuses tickets c f) :
      ∃ m : Moment, m.before = s ∧ m.op = .call c ∧ m.Dutiful tickets ∧ m.after.Listable := by
    refine ⟨⟨s, .call c, .error f, s, .inl rfl⟩, rfl, rfl, ⟨?_, ?_⟩, h⟩
    · intro c' f' hm
      cases hm
      exact ⟨rfl, refuses⟩
    · cases c <;> exact nofun
  have about {c : Call} {key : String} (a : c.Answer) (serves : s.Serves c a s)
      (shows : Turn.shows? ⟨.call c, .ok a⟩ = some key)
      (refuses : ¬tickets key → s.Refuses tickets c (.notFound "")) :
      ∃ m : Moment, m.before = s ∧ m.op = .call c ∧ m.Dutiful tickets ∧ m.after.Listable := by
    by_cases hkey : tickets key
    · refine served a serves h fun key' hk' => ?_
      cases shows.symm.trans hk'
      exact hkey
    · exact refused (refuses hkey)
  cases op with
  | call c =>
    cases c with
    | allRequests =>
      obtain ⟨rs, hrs⟩ := h.requests
      exact served rs ⟨hrs, rfl⟩ h nofun
    | requestNamed name =>
      cases hr : s.requests name with
      | none => exact refused (f := .notFound "") hr
      | some r => exact served r ⟨hr, rfl⟩ h nofun
    | putStatus w =>
      cases hr : s.requests w.name with
      | none => exact refused (f := .notFound "") hr
      | some old => exact served _ ⟨old, none, hr, rfl, rfl⟩ h.putRequest nofun
    | removeRequest name =>
      cases hr : s.requests name with
      | none => exact refused (f := .notFound "") hr
      | some r => exact served () ⟨by simp [hr], rfl⟩ h.dropRequest nofun
    | addGrant g =>
      cases hg : s.grants g.scope g.name with
      | none => exact served () ⟨hg, rfl⟩ h.putGrant nofun
      | some old => exact refused (f := .alreadyExists "") (by simp [Scene.Refuses, hg])
    | grantsWithin scope =>
      obtain ⟨gs, hgs⟩ := h.grants scope
      exact served gs ⟨hgs, rfl⟩ h nofun
    | removeGrant scope key =>
      cases hg : s.grants scope key with
      | none => exact refused (f := .notFound "") hg
      | some old => exact served () ⟨by simp [hg], rfl⟩ h.dropGrant nofun
    | raiseTicket draft =>
      obtain ⟨key, hkey⟩ := hk
      refine served key rfl h fun key' hk' => ?_
      cases hk'
      exact hkey
    | commentOn key body => exact about () rfl rfl id
    | transition key id' => exact about () rfl rfl id
    | stateOfTicket key => exact about "" rfl rfl id
    | namespacesWith labels => exact served [] rfl h nofun
    | accountOf handle => exact served "" rfl h nofun
    | fetchRulebook => exact served none rfl h nofun
    | recallRulebook => exact served none rfl h nofun
    | publishEvent event => exact served () rfl h nofun
    | keepRulebook book => exact served () rfl h nofun
  | clock => exact ⟨⟨s, .clock, s.clock, s, rfl, rfl⟩, rfl, rfl, .of_mute id rfl, h⟩
  | edition => exact ⟨⟨s, .edition, s.edition, s, rfl, rfl⟩, rfl, rfl, .of_mute id rfl, h⟩
  | adopt book =>
    exact ⟨⟨s, .adopt book, .error (.configuration ""), s, rfl⟩, rfl, rfl, .of_mute id rfl, h⟩
  | sleep span => exact ⟨⟨s, .sleep span, (), s, rfl⟩, rfl, rfl, .of_mute id rfl, h⟩

theorem Program.exists_ended (p : Program α) (h : s.Listable) (hk : ∃ key, tickets key)
    {others : Scene → Scene → Prop} (idle : ∀ {a}, others a a) :
    ∃ ms s' result, Course others s ms s' ∧ (∀ m ∈ ms, m.Dutiful tickets) ∧
      p.Dialogue (ms.map Moment.said) (some result) := by
  induction p generalizing s with
  | done result => exact ⟨[], s, result, .last idle, List.forall_mem_nil _, .ended⟩
  | step op next ih =>
    obtain ⟨m, rfl, rfl, dutiful, after⟩ := h.exists_reply hk op
    obtain ⟨ms, s', result, course, rest, talk⟩ := ih m.answer after
    exact ⟨m :: ms, s', result, .next idle course, List.forall_mem_cons.2 ⟨dutiful, rest⟩,
      .said talk⟩

end AccessWindow
