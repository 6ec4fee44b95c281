import AccessWindow.Proofs.Answers
import AccessWindow.Proofs.Lookup

namespace AccessWindow

open Program

variable {answers : Answers} {spec : Request.Spec} {e : Edition} {self : Option String}

namespace Policy

theorem roleViolation?_eq_none : roleViolation? spec e = none ↔ spec.role ∈ e.rulebook.roles := by
  simp [roleViolation?, Edition.allowsRole]

theorem startViolation?_eq_none {t : Instant} : startViolation? spec t = none ↔ t < spec.start := by
  simp [startViolation?]

theorem windowViolation?_eq_none : windowViolation? spec = none ↔ spec.start < spec.finish := by
  simp [windowViolation?, Request.Spec.endsAfterStart]

theorem patternViolation?_eq_none : patternViolation? spec e = none ↔
    ∀ pattern, e.pattern = some pattern → ∀ ns ∈ spec.namespaces, pattern.matchesIn ns := by
  cases h : e.pattern <;> simp [patternViolation?, h]

theorem labelViolation?_eq_none {labelled : List String} : labelViolation? spec labelled = none ↔
    spec.labels.isEmpty ∨ ∀ ns ∈ spec.namespaces, ns ∈ labelled := by
  cases h : spec.labels.isEmpty <;> simp [labelViolation?, h]

theorem missingField?_eq_none : missingField? spec e = none ↔
    ∀ name ∈ e.rulebook.custom.keys, spec.fields.contains name := by
  simp [missingField?]

theorem fieldViolation?_eq_none : fieldViolation? spec e = none ↔ missingField? spec e = none := by
  simp [fieldViolation?]

end Policy

namespace Validator

structure InScope (answers : Answers) (spec : Request.Spec) (e : Edition) : Prop where
  pattern : ∀ pattern, e.pattern = some pattern → ∀ ns ∈ spec.namespaces, pattern.matchesIn ns
  labels : spec.labels.isEmpty = false → ∃ labelled,
    answers (.call (.namespacesWith spec.labels)) = .ok labelled ∧
      ∀ ns ∈ spec.namespaces, ns ∈ labelled

def Resolves (answers : Answers) (handle account : String) : Prop :=
  answers (.call (.accountOf handle)) = .ok account

def Named (answers : Answers) (spec : Request.Spec) (self : Option String) (name : String) : Prop :=
  ∃ handle account, spec.fields.get? name = some handle ∧ Text.blank handle = false ∧
    Resolves answers handle account ∧ self ≠ some account

theorem account?_eq_some {handle account : String} :
    (account? handle).under answers = .ok (some account) ↔ Resolves answers handle account := by
  rw [account?, under_ask_bind, Resolves]
  cases answers (.call (.accountOf handle)) with
  | ok => simp
  | error f => cases f <;> simp

theorem scopeViolation?_eq_none :
    (scopeViolation? spec e true).under answers = .ok none ↔ InScope answers spec e := by
  rw [scopeViolation?]
  cases hp : Policy.patternViolation? spec e with
  | some v =>
    have bad : ¬InScope answers spec e := fun h => by
      rw [Policy.patternViolation?_eq_none.2 h.pattern] at hp
      cases hp
    simpa using bad
  | none =>
    replace hp := Policy.patternViolation?_eq_none.1 hp
    cases hl : spec.labels.isEmpty with
    | true => simpa using ⟨hp, fun h => by simp [hl] at h⟩
    | false =>
      simp only [Bool.true_eq_false, Bool.false_eq_true, or_self, if_false]
      rw [under_call_bind]
      cases ha : answers (.call (.namespacesWith spec.labels)) with
      | ok labelled =>
        have comprised : Policy.labelViolation? spec labelled = none ↔
            ∀ ns ∈ spec.namespaces, ns ∈ labelled := by
          simp [Policy.labelViolation?_eq_none, hl]
        refine Iff.trans (by simp [Except.bind]) (comprised.trans ⟨fun h => ?_, fun h => ?_⟩)
        · exact ⟨hp, fun _ => ⟨labelled, ha, h⟩⟩
        · obtain ⟨names, hn, h⟩ := h.labels hl
          cases ha.symm.trans hn
          exact h
      | error f =>
        have bad : ¬InScope answers spec e := fun h => by
          obtain ⟨names, hn, -⟩ := h.labels hl
          cases ha.symm.trans hn
        simpa [Except.bind] using bad

theorem named_iff {name : String} : Named answers spec self name ↔
    Text.blank ((spec.fields.get? name).getD "") = false ∧ ∃ account,
      Resolves answers ((spec.fields.get? name).getD "") account ∧ self ≠ some account := by
  cases h : spec.fields.get? name with
  | none =>
    have empty : Text.blank "" = true := by decide
    simp [Named, h, empty]
  | some handle => simp [Named, h]

theorem userFieldViolation?_eq_none {entries : List (String × FieldTarget)} :
    (userFieldViolation? spec self entries).under answers = .ok none ↔
      ∀ entry ∈ entries, Named answers spec self entry.1 := by
  induction entries with
  | nil => simp [userFieldViolation?]
  | cons entry rest ih =>
    obtain ⟨name, target⟩ := entry
    rw [List.forall_mem_cons, ← ih, userFieldViolation?, named_iff]
    generalize (spec.fields.get? name).getD "" = handle
    cases hb : Text.blank handle with
    | true => simp [Except.bind]
    | false =>
      simp only [← account?_eq_some, under_bind, Bool.false_eq_true, if_false, true_and]
      cases (account? handle).under answers with
      | error f => simp [Except.bind]
      | ok found =>
        cases found with
        | none => simp [Except.bind]
        | some account =>
          by_cases hs : self = some account
          · simp [Except.bind, hs]
          · simp [Except.bind, hs]

def Identified (answers : Answers) (validator : Validator) (spec : Request.Spec) (e : Edition) :
    Prop :=
  ∃ account, Resolves answers spec.reporter account ∧
    ∀ entry ∈ e.rulebook.custom.entries, entry.2.kind = .user →
      ∃ handle other, spec.fields.get? entry.1 = some handle ∧ Text.blank handle = false ∧
        Resolves answers handle other ∧
        (validator.selfApproval ∨ e.rulebook.selfApproval ∨ account ≠ other)

variable {validator : Validator}

theorem identified_iff {account : String} (h : Resolves answers spec.reporter account) :
    Identified answers validator spec e ↔
      ∀ entry ∈ e.rulebook.custom.entries.filter fun e => e.2.kind = .user,
        Named answers spec
          (if validator.selfApproval || e.rulebook.selfApproval then none else some account)
          entry.1 := by
  have others : (∀ entry ∈ e.rulebook.custom.entries, entry.2.kind = .user →
      ∃ handle other, spec.fields.get? entry.1 = some handle ∧ Text.blank handle = false ∧
        Resolves answers handle other ∧
        (validator.selfApproval ∨ e.rulebook.selfApproval ∨ account ≠ other)) ↔
      Identified answers validator spec e := by
    refine ⟨fun hf => ⟨account, h, hf⟩, fun ⟨account', h', hf⟩ => ?_⟩
    cases h.symm.trans h'
    exact hf
  rw [← others, List.forall_mem_filter]
  cases hs : validator.selfApproval <;> cases hb : e.rulebook.selfApproval <;>
    simp [Named]

theorem identityViolation?_eq_none :
    (validator.identityViolation? spec e).under answers = .ok none ↔
      (validator.identities → Identified answers validator spec e) := by
  rw [identityViolation?]
  cases hi : validator.identities with
  | false => simp
  | true =>
    have unknown (h : ∀ account, (account? spec.reporter).under answers ≠ .ok (some account)) :
        ¬Identified answers validator spec e := by
      rintro ⟨account, resolves, -⟩
      exact h account (account?_eq_some.2 resolves)
    simp only [if_true, under_bind, forall_const]
    cases ha : (account? spec.reporter).under answers with
    | error f => simpa [Except.bind] using unknown (by simp [ha])
    | ok found =>
      cases found with
      | none => simpa [Except.bind] using unknown (by simp [ha])
      | some account =>
        rw [identified_iff (account?_eq_some.1 ha), ← userFieldViolation?_eq_none]
        rfl

structure Admissible (answers : Answers) (validator : Validator) (spec : Request.Spec)
    (e : Edition) : Prop where
  role : spec.role ∈ e.rulebook.roles
  early : answers .clock < spec.start
  window : spec.start < spec.finish
  scope : InScope answers spec e
  fields : ∀ name ∈ e.rulebook.custom.keys, spec.fields.contains name
  identities : validator.identities → Identified answers validator spec e

theorem first_eq_none {first second : Program (Option Violation)} :
    (do match ← first with
        | some v => return some v
        | none => second).under answers = .ok none ↔
      first.under answers = .ok none ∧ second.under answers = .ok none := by
  rw [under_bind]
  cases first.under answers with
  | error => simp [Except.bind]
  | ok found => cases found <;> simp [Except.bind]

theorem violation?_eq_none :
    (validator.violation? spec e (answers .clock)).under answers = .ok none ↔
      Admissible answers validator spec e := by
  rw [violation?]
  cases hs : Policy.roleViolation? spec e <|> Policy.startViolation? spec (answers .clock)
      <|> Policy.windowViolation? spec with
  | some v =>
    have bad : ¬Admissible answers validator spec e := by
      intro h
      rw [Policy.roleViolation?_eq_none.2 h.role, Policy.startViolation?_eq_none.2 h.early,
        Policy.windowViolation?_eq_none.2 h.window] at hs
      cases hs
    simpa using bad
  | none =>
    have static : spec.role ∈ e.rulebook.roles ∧ answers .clock < spec.start ∧
        spec.start < spec.finish := by
      simpa [Policy.roleViolation?_eq_none, Policy.startViolation?_eq_none,
        Policy.windowViolation?_eq_none] using hs
    refine first_eq_none.trans ?_
    rw [scopeViolation?_eq_none]
    have fields : Policy.fieldViolation? spec e = none ↔
        ∀ name ∈ e.rulebook.custom.keys, spec.fields.contains name :=
      Policy.fieldViolation?_eq_none.trans Policy.missingField?_eq_none
    cases hf : Policy.fieldViolation? spec e with
    | some v =>
      have bad : ¬Admissible answers validator spec e := by
        intro h
        rw [fields.2 h.fields] at hf
        cases hf
      simpa using bad
    | none =>
      obtain ⟨role, early, window⟩ := static
      refine (and_congr_right' identityViolation?_eq_none).trans ⟨fun h => ?_, fun h => ?_⟩
      · exact ⟨role, early, window, h.1, fields.1 hf, h.2⟩
      · exact ⟨h.scope, h.identities⟩

end Validator

end AccessWindow
