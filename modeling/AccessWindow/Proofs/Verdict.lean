import AccessWindow.Hook.Router
import AccessWindow.Json.Printer
import AccessWindow.Proofs.Admissible

namespace AccessWindow.Hook

open Json Program Validator

section Rules

variable {answers : Answers} {validator : Validator} {lets : Prop}

inductive Verdict.Rules (lets : Prop) : Verdict → Prop
  | allowed : lets → Rules lets .allowed
  | denied {code message} : ¬lets → code ∈ [400, 403, 500] → Rules lets (.denied code message)

theorem judge_rules (answers : Answers) (validator : Validator) (spec : Request.Spec) :
    ∃ v, (judge validator spec).under answers = .ok v ∧
      v.Rules (∃ e, answers .edition = some e ∧ Admissible answers validator spec e) := by
  rw [judge, under_bind, under_attempt, under_edition]
  cases he : answers .edition with
  | none => exact ⟨_, rfl, .denied (by simp) (by simp)⟩
  | some e =>
    have known : (∃ e', some e = some e' ∧ Admissible answers validator spec e') ↔
        Admissible answers validator spec e := by simp
    rw [known, ← violation?_eq_none]
    simp only [Except.bind, under_bind, under_now, under_attempt]
    cases (validator.violation? spec e (answers .clock)).under answers with
    | error f => exact ⟨_, rfl, .denied (by simp) (by simp)⟩
    | ok found =>
      cases found with
      | none => exact ⟨_, rfl, .allowed rfl⟩
      | some v => exact ⟨_, rfl, .denied (by simp) (by simp)⟩

/-- What a submission must be like to be let in: a deletion, or else an object that can be read and
that complies with the edition in force. -/
inductive Welcome (answers : Answers) (validator : Validator) (s : Submission) : Prop
  | deletion : Text.eqIgnoreCase s.operation "DELETE" → Welcome answers validator s
  | admissible {object submitted e} : s.object = some object →
      Submitted.record.codec.decodeValue object = .ok submitted → answers .edition = some e →
      Admissible answers validator submitted.spec e → Welcome answers validator s

theorem Verdict.Rules.congr {lets' : Prop} {v : Verdict} (h : v.Rules lets)
    (iff : lets ↔ lets') : v.Rules lets' := propext iff ▸ h

theorem verdict_rules (answers : Answers) (validator : Validator) (s : Submission) :
    ∃ v, (verdict validator s).under answers = .ok v ∧ v.Rules (Welcome answers validator s) := by
  rw [verdict]
  cases hd : s.isDeletion with
  | true => exact ⟨_, rfl, .allowed (.deletion hd)⟩
  | false =>
    have kept (h : Welcome answers validator s) : ∃ object submitted e, s.object = some object ∧
        Submitted.record.codec.decodeValue object = .ok submitted ∧ answers .edition = some e ∧
        Admissible answers validator submitted.spec e := by
      cases h with
      | deletion h => cases hd.symm.trans h
      | admissible ho hs he h => exact ⟨_, _, _, ho, hs, he, h⟩
    simp only [Bool.false_eq_true, if_false]
    cases ho : s.object with
    | none =>
      refine ⟨_, rfl, .denied (fun h => ?_) (by simp)⟩
      obtain ⟨object, -, -, ho', -⟩ := kept h
      cases ho.symm.trans ho'
    | some object =>
      dsimp only
      cases hs : Submitted.record.codec.decodeValue object with
      | error flaw =>
        refine ⟨_, rfl, .denied (fun h => ?_) (by simp)⟩
        obtain ⟨object, submitted, -, ho', hs', -⟩ := kept h
        cases ho.symm.trans ho'
        cases hs.symm.trans hs'
      | ok submitted =>
        obtain ⟨v, hv, rules⟩ := judge_rules answers validator submitted.spec
        refine ⟨v, hv, rules.congr ⟨fun ⟨e, he, h⟩ => .admissible ho hs he h, fun h => ?_⟩⟩
        obtain ⟨object, submitted, e, ho', hs', he, h⟩ := kept h
        cases ho.symm.trans ho'
        cases hs.symm.trans hs'
        exact ⟨e, he, h⟩

/-- Every review of a submission is answered, with the uid of the submission. It is let in if and
only if it is welcome; in every other case the answer is a refusal with a code and a reason. -/
theorem reviewReply_allows_iff {i : Http.Incoming} {review : Review} {s : Submission}
    (read : readReview i = .ok review) (hs : review.submission = some s) :
    ∃ allowed rest, (reviewReply validator i).under answers = .ok ⟨200, .json (.object [
        ("apiVersion", .string (review.apiVersion.getD "admission.k8s.io/v1")),
        ("kind", .string "AdmissionReview"),
        ("response", .object (("uid", .string s.uid) :: ("allowed", .bool allowed) :: rest))])⟩ ∧
      (allowed = true ↔ Welcome answers validator s) ∧
      (allowed = false → ∃ code message,
        rest = [("status", .object [("code", .nat code), ("message", .string message)])] ∧
          code ∈ [400, 403, 500]) := by
  obtain ⟨v, hv, rules⟩ := verdict_rules answers validator s
  have reply : (reviewReply validator i).under answers =
      .ok ⟨200, .json (v.review review.apiVersion s.uid)⟩ := by
    rw [reviewReply, read]
    simp [hs, hv, Except.bind]
  rw [reply]
  cases rules with
  | allowed welcome => exact ⟨true, [], rfl, by simpa using welcome, by simp⟩
  | denied unwelcome hc =>
    exact ⟨false, _, rfl, by simpa using unwelcome, fun _ => ⟨_, _, rfl, hc⟩⟩

end Rules

namespace Sample

def edition : Edition where
  version := 1
  rulebook := { Rulebook.standard with
    custom := .ofList [("Approver", ⟨.user, "customfield_1"⟩)], namespacePattern := none }
  pattern := none
  filled := by decide
  compiled := rfl

def spec : Request.Spec where
  reporter := "dev@example.com"
  others := []
  role := "edit"
  namespaces := ["team-a"]
  labels := .ofList [("team", "a")]
  start := ⟨3600, 0, by decide⟩
  finish := ⟨7200, 0, by decide⟩
  fields := .ofList [("Approver", "lead@example.com")]

def answers : Answers
  | .edition => some edition
  | .clock => .epoch
  | .call (.namespacesWith _) => .ok ["team-a", "team-b"]
  | .call (.accountOf handle) => .ok handle
  | .call _ => .error (.external none "down")
  | .adopt _ => .error (.configuration "down")
  | .sleep _ => ()

theorem spec_admissible : Admissible answers ⟨true, false⟩ spec edition where
  role := by decide
  early := by decide
  window := by decide
  scope := ⟨nofun, fun _ => ⟨["team-a", "team-b"], rfl, by decide⟩⟩
  fields := by decide
  identities _ := by
    refine ⟨"dev@example.com", rfl, fun entry h _ => ⟨"lead@example.com", "lead@example.com", ?_⟩⟩
    obtain rfl : entry = ("Approver", ⟨.user, "customfield_1"⟩) := List.mem_singleton.1 h
    exact ⟨by decide, by decide, rfl, by decide⟩

def posted : Http.Incoming where
  method := "POST"
  target := "/validate-jitrequest"
  contentType := some "application/json"
  body := Text.Utf8.encodeChars (compact (.object [("request", .object [
    ("uid", .string "r-1"),
    ("operation", .string "CREATE"),
    ("object", .object [("spec", Request.Spec.record.codec.write spec)])])]))

theorem read_posted : ((readReview posted).toOption.bind (·.submission)).bind (fun s =>
    (s.object.bind fun o => (Submitted.record.codec.decodeValue o).toOption).map (s.uid, ·.spec)) =
      some ("r-1", spec) := by
  decide +kernel

theorem posted_allowed : ∃ review s, readReview posted = .ok review ∧
    review.submission = some s ∧ ∃ rest, (reviewReply ⟨true, false⟩ posted).under answers =
      .ok ⟨200, .json (.object [
        ("apiVersion", .string (review.apiVersion.getD "admission.k8s.io/v1")),
        ("kind", .string "AdmissionReview"),
        ("response", .object (("uid", .string "r-1") :: ("allowed", .bool true) :: rest))])⟩ := by
  obtain ⟨s, hs, hrest⟩ := Option.bind_eq_some_iff.1 read_posted
  obtain ⟨submitted, hsub, heq⟩ := Option.map_eq_some_iff.1 hrest
  obtain ⟨o, ho, hdec⟩ := Option.bind_eq_some_iff.1 hsub
  obtain ⟨huid, hspec⟩ := Prod.mk.inj heq
  cases hr : readReview posted with
  | error reply => simp [hr, Except.toOption] at hs
  | ok review =>
    replace hs : review.submission = some s := by simpa [hr, Except.toOption] using hs
    have hd : Submitted.record.codec.decodeValue o = .ok submitted := by
      cases hv : Submitted.record.codec.decodeValue o with
      | error flaw => simp [hv, Except.toOption] at hdec
      | ok read => simpa [hv, Except.toOption] using hdec
    obtain ⟨allowed, rest, reply, iff, -⟩ :=
      @reviewReply_allows_iff answers ⟨true, false⟩ posted review s hr hs
    obtain rfl : allowed = true :=
      iff.2 (.admissible ho hd (e := edition) rfl (hspec ▸ spec_admissible))
    exact ⟨review, s, rfl, hs, rest, huid ▸ reply⟩

end Sample

end AccessWindow.Hook
