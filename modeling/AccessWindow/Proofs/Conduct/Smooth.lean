import AccessWindow.Proofs.Admissible
import AccessWindow.Proofs.Instant

namespace AccessWindow

open Lifecycle Program Validator

variable {α : Type} {talk said rest : List Turn} {answers : Answers} {spec : Request.Spec}

def Operation.isQuestion : Operation → Bool
  | .clock | .edition | .call (.namespacesWith _) | .call (.accountOf _) => true
  | _ => false

/-- Nothing fails, every question is answered as laid down, and the request keeps what it asks
for. -/
structure Smooth (answers : Answers) (spec : Request.Spec) (talk : List Turn) : Prop where
  calm : ¬Upset talk
  told : ∀ x ∈ talk, x.1.isQuestion → x.2 = answers x.1
  spec : ∀ x ∈ talk, ∀ held, x.record? = some held → held.spec = spec

namespace Smooth

theorem of_subset (h : Smooth answers spec talk) (sub : said ⊆ talk) :
    Smooth answers spec said where
  calm := fun ⟨x, hx, upsets⟩ => h.calm ⟨x, sub hx, upsets⟩
  told x hx := h.told x (sub hx)
  spec x hx := h.spec x (sub hx)

theorem left (h : Smooth answers spec (said ++ rest)) : Smooth answers spec said :=
  h.of_subset (List.subset_append_left said rest)

theorem right (h : Smooth answers spec (said ++ rest)) : Smooth answers spec rest :=
  h.of_subset (List.subset_append_right said rest)

theorem tail {x : Turn} (h : Smooth answers spec (x :: rest)) : Smooth answers spec rest :=
  h.of_subset (List.subset_cons_self x rest)

theorem bears {c : Call} {f : Fault} (h : Smooth answers spec (⟨.call c, .error f⟩ :: rest)) :
    c.bears f = true := by
  cases hb : c.bears f with
  | true => rfl
  | false => exact absurd ⟨_, List.mem_cons_self, hb⟩ h.calm

theorem ended {p : Program α} {result : Except Fault α} (h : Smooth answers spec talk)
    (confined : p.Confined Operation.isQuestion) (d : p.Dialogue talk (some result)) :
    result = p.under answers := confined.ended d h.told

end Smooth

def Lands (phase : Phase) (talk : List Turn) : Prop :=
  ∃ before w stored, talk = before ++ [⟨.call (.putStatus w), .ok stored⟩] ∧ w.status.phase = phase

theorem Lands.prepend {phase : Phase} (h : Lands phase talk) : Lands phase (said ++ talk) := by
  obtain ⟨before, w, stored, rfl, hw⟩ := h
  exact ⟨said ++ before, w, stored, by simp, hw⟩

inductive Decided (accepts : Prop) (talk : List Turn) : Prop
  | accepted : accepts → Lands .preApproved talk → Decided accepts talk
  | refused : ¬accepts → Lands .rejected talk → Decided accepts talk

namespace Decided

variable {accepts accepts' : Prop}

theorem congr (h : Decided accepts talk) (iff : accepts ↔ accepts') : Decided accepts' talk :=
  propext iff ▸ h

theorem prepend (h : Decided accepts talk) : Decided accepts (said ++ talk) := by
  cases h with
  | accepted ha lands => exact .accepted ha lands.prepend
  | refused ha lands => exact .refused ha lands.prepend

end Decided

namespace Lifecycle

variable {r q stored : Request} {e : Edition} {u : Request.Update} {key : String} {keeper : Keeper}
  {outcome : Outcome}

theorem writeStatus_smooth {retry : Retry} {left : Nat} {written : Request × Except Fault Unit}
    (h : Smooth answers spec talk)
    (d : (writeStatus retry u left r).Dialogue talk (some (.ok written))) :
    ∃ stored, talk = [⟨.call (.putStatus (r.record u)), .ok stored⟩] ∧
      written = (stored, .ok ()) := by
  rw [writeStatus] at d
  obtain ⟨answer, rest, rfl, later⟩ := d.of_ask
  cases answer with
  | error f => cases h.bears
  | ok stored =>
    obtain ⟨rfl, he⟩ := later.of_done
    cases he
    exact ⟨stored, rfl, rfl⟩

namespace Keeper

theorem record_smooth (h : Smooth answers spec talk)
    (d : (keeper.record r u).Dialogue talk (some (.ok stored))) :
    talk = [⟨.call (.putStatus (r.record u)), .ok stored⟩] ∧ stored.spec = spec := by
  obtain ⟨written, said, rest, rfl, first, second⟩ := d.of_bind_ok
  obtain ⟨q, rfl, rfl⟩ := writeStatus_smooth h.left first
  obtain ⟨rfl, he⟩ := second.of_done
  cases he
  exact ⟨rfl, h.spec _ List.mem_cons_self stored rfl⟩

theorem announced_record_lands {reason : Event.Reason} {message : String} {ended : Outcome}
    (h : Smooth answers spec talk)
    (d : (do
      keeper.announce r reason message
      let _ ← keeper.record r u
      return outcome).Dialogue talk (some (.ok ended))) : Lands u.phase talk := by
  obtain ⟨⟨⟩, said, rest, rfl, -, second⟩ := d.of_bind_ok
  obtain ⟨stored, put, last, rfl, third, fourth⟩ := second.of_bind_ok
  obtain ⟨rfl, -⟩ := record_smooth h.right.left third
  obtain ⟨rfl, -⟩ := fourth.of_done
  exact ⟨said, r.record u, stored, by simp, rfl⟩

theorem awaitWindow_decided (hr : r.spec = spec) (steady : (answers .clock).isLeap = false)
    (h : Smooth answers spec talk)
    (d : (keeper.awaitWindow r key e).Dialogue talk (some (.ok outcome))) :
    Decided (answers .clock < spec.start) talk := by
  obtain ⟨t, rest, rfl, later⟩ := d.of_perform
  obtain rfl : t = answers .clock := h.told _ List.mem_cons_self rfl
  cases hu : r.spec.start.until? (answers .clock) with
  | none =>
    rw [hu] at later
    have late : ¬answers .clock < spec.start := by
      rw [← hr]
      exact not_lt_of_ge (Instant.le_of_until?_eq_none hu steady)
    have lands := announced_record_lands h.tail later
    exact .refused late (lands.prepend : Lands _ ([_] ++ rest))
  | some delay =>
    rw [hu] at later
    have early : answers .clock < spec.start := hr ▸ Instant.lt_of_until?_eq_some hu
    obtain ⟨⟨⟩, more, rfl, last⟩ := later.of_call_ok
    have lands := announced_record_lands h.tail.tail last
    exact .accepted early (lands.prepend : Lands _ ([_, _] ++ more))

structure Passes (keeper : Keeper) (answers : Answers) (spec : Request.Spec) (e : Edition) : Prop
    where
  role : spec.role ∈ e.rulebook.roles
  window : spec.start < spec.finish
  scope : (scopeViolation? spec e (!keeper.labelsAtAdmission)).under answers = .ok none
  early : answers .clock < spec.start

theorem judge_decided (hr : r.spec = spec) (steady : (answers .clock).isLeap = false)
    (h : Smooth answers spec talk)
    (d : (keeper.judge r key e).Dialogue talk (some (.ok outcome))) :
    Decided (keeper.Passes answers spec e) talk := by
  subst hr
  rw [judge] at d
  split at d
  · next hrole =>
    refine .refused (fun passes => ?_) (announced_record_lands h d)
    simp [Edition.allowsRole, passes.role] at hrole
  · next hrole =>
    replace hrole : r.spec.role ∈ e.rulebook.roles := by simpa [Edition.allowsRole] using hrole
    split at d
    · next v hwindow =>
      refine .refused (fun passes => ?_) (announced_record_lands h d)
      rw [Policy.windowViolation?_eq_none.2 passes.window] at hwindow
      cases hwindow
    · next hwindow =>
      replace hwindow :=
        Policy.windowViolation?_eq_none.1 (Option.eq_none_iff_forall_ne_some.2 hwindow)
      obtain ⟨found, said, rest, rfl, first, second⟩ := d.of_bind_ok
      have hscope := h.left.ended (scopeViolation?_confined rfl) first
      cases found with
      | some v =>
        refine .refused (fun passes => ?_) (announced_record_lands h.right second).prepend
        cases hscope.trans passes.scope
      | none =>
        refine (awaitWindow_decided rfl steady h.right second).prepend.congr ⟨fun early => ?_, ?_⟩
        · exact ⟨hrole, hwindow, hscope.symm, early⟩
        · exact Passes.early

structure Accepts (keeper : Keeper) (answers : Answers) (spec : Request.Spec) (e : Edition) :
    Prop where
  fields : Policy.missingField? spec e = none
  reporter : ∃ account, Resolves answers spec.reporter account
  passes : keeper.Passes answers spec e

theorem requestApproval_opened (h : Smooth answers r.spec talk)
    (d : (keeper.requestApproval r e).Dialogue talk (some (.ok (some (q, key))))) :
    (∃ account, Resolves answers r.spec.reporter account) ∧ q.spec = r.spec := by
  obtain ⟨found, said, rest, rfl, first, second⟩ := d.of_bind_ok
  have resolved := h.left.ended (account?_confined rfl) first
  cases found with
  | none =>
    obtain ⟨_, _, _, -, -, third⟩ := second.of_bind_ok
    cases third.of_done.2
  | some account =>
    obtain ⟨raised, more, rfl, third⟩ := second.of_call_ok
    obtain ⟨stored, put, last, rfl, fourth, fifth⟩ := third.of_bind_ok
    obtain ⟨-, hspec⟩ := record_smooth h.right.tail.left fourth
    cases fifth.of_done.2
    exact ⟨⟨account, account?_eq_some.1 resolved.symm⟩, hspec⟩

theorem requestApproval_refused (h : Smooth answers r.spec talk)
    (d : (keeper.requestApproval r e).Dialogue talk (some (.ok none))) :
    (¬∃ account, Resolves answers r.spec.reporter account) ∧ Lands .rejected talk := by
  obtain ⟨found, said, rest, rfl, first, second⟩ := d.of_bind_ok
  have resolved := h.left.ended (account?_confined rfl) first
  cases found with
  | none =>
    obtain ⟨ended, put, last, rfl, third, fourth⟩ := second.of_bind_ok
    obtain ⟨rfl, -⟩ := fourth.of_done
    refine ⟨?_, ?_⟩
    · rintro ⟨account, resolves⟩
      cases resolved.trans (account?_eq_some.2 resolves)
    · rw [List.append_nil]
      exact (announced_record_lands h.right.left third).prepend
  | some account =>
    obtain ⟨raised, more, rfl, third⟩ := second.of_call_ok
    obtain ⟨stored, put, last, rfl, fourth, fifth⟩ := third.of_bind_ok
    cases fifth.of_done.2

theorem review_decided (hr : r.spec = spec) (ht : r.status.ticket = .unassigned)
    (steady : (answers .clock).isLeap = false) (h : Smooth answers spec talk)
    (d : (keeper.review r e).Dialogue talk (some (.ok outcome))) :
    Decided (keeper.Accepts answers spec e) talk := by
  subst hr
  rw [review, ht] at d
  split at d
  · contradiction
  · split at d
    · next name hmissing =>
      refine .refused (fun accepts => ?_) (announced_record_lands h d)
      cases hmissing.symm.trans accepts.fields
    · next hfields =>
      replace hfields : Policy.missingField? r.spec e = none :=
        Option.eq_none_iff_forall_ne_some.2 hfields
      obtain ⟨asked, said, rest, rfl, first, second⟩ := d.of_bind_ok
      cases asked with
      | none =>
        obtain ⟨unknown, lands⟩ := requestApproval_refused h.left first
        obtain ⟨rfl, -⟩ := second.of_done
        rw [List.append_nil]
        exact .refused (fun accepts => unknown accepts.reporter) lands
      | some opened =>
        obtain ⟨q, key⟩ := opened
        obtain ⟨known, hq⟩ := requestApproval_opened h.left first
        refine (judge_decided hq steady h.right second).prepend.congr ⟨fun passes => ?_, ?_⟩
        · exact ⟨hfields, known, passes⟩
        · exact Accepts.passes

def checked (keeper : Keeper) (spec : Request.Spec) : Request.Spec :=
  if keeper.labelsAtAdmission then { spec with labels := .empty } else spec

theorem scopeViolation?_checked :
    scopeViolation? (keeper.checked spec) e true =
      scopeViolation? spec e (!keeper.labelsAtAdmission) := by
  cases hl : keeper.labelsAtAdmission with
  | false => simp [checked, hl]
  | true => simp [checked, hl, scopeViolation?, Policy.patternViolation?, Dict.isEmpty, Dict.empty]

theorem accepts_iff (selfApproval : Bool) : keeper.Accepts answers spec e ↔
    ((⟨false, selfApproval⟩ : Validator).violation? (keeper.checked spec) e
        (answers .clock)).under answers = .ok none ∧
      ∃ account, Resolves answers spec.reporter account := by
  have same : (keeper.checked spec).role = spec.role ∧ (keeper.checked spec).start = spec.start ∧
      (keeper.checked spec).finish = spec.finish ∧ (keeper.checked spec).fields = spec.fields := by
    rw [checked]
    split <;> exact ⟨rfl, rfl, rfl, rfl⟩
  obtain ⟨hrole, hstart, hfinish, hfields⟩ := same
  rw [violation?_eq_none]
  constructor
  · intro h
    refine ⟨⟨?_, ?_, ?_, ?_, ?_, nofun⟩, h.reporter⟩
    · exact hrole ▸ h.passes.role
    · exact hstart ▸ h.passes.early
    · exact hstart ▸ hfinish ▸ h.passes.window
    · exact scopeViolation?_eq_none.1 (scopeViolation?_checked ▸ h.passes.scope)
    · exact hfields ▸ Policy.missingField?_eq_none.1 h.fields
  · intro h
    obtain ⟨h, reporter⟩ := h
    refine ⟨Policy.missingField?_eq_none.2 (hfields ▸ h.fields), reporter, ?_, ?_, ?_, ?_⟩
    · exact hrole ▸ h.role
    · exact hstart ▸ hfinish ▸ h.window
    · exact scopeViolation?_checked ▸ scopeViolation?_eq_none.2 h.scope
    · exact hstart ▸ h.early

end Keeper

end Lifecycle

end AccessWindow
