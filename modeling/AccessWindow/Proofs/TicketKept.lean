import AccessWindow.Proofs.Progress

namespace AccessWindow

open Lifecycle

variable {others : Scene → Scene → Prop} {s s' : Scene} {m : Moment}
  {before after rest : List Moment} {name key : String} {past : List Turn} {r q : Request}
  {e : Edition} {u : Request.Update} {v : Visit name}

def Scene.Ticketed (s : Scene) (name key : String) : Prop :=
  ∀ q, s.requests name = some q → q.status.ticket = .issue key

def Moment.Stores (m : Moment) (name : String) : Prop :=
  ∃ w q, m.op = .call (.putStatus w) ∧ m.after.requests name = some q ∧ q.status = w.status

/-- The visit has found a fresh request that lacks a field of the edition in force. -/
def Visit.Lacks (v : Visit name) : Prop :=
  ∃ r e field, Found name (v.moments.map Moment.said) r e ∧ r.status.phase = .fresh ∧
    Policy.missingField? r.spec e = some field

namespace Lifecycle.Decides

theorem skips {field : String} (h : Decides past r e u) (hf : r.status.phase = .fresh)
    (hm : Policy.missingField? r.spec e = some field) : u.ticket = .skipped := by
  cases h with
  | missing => rfl
  | unknown => rfl
  | opened review => cases review.fields.symm.trans hm
  | refused review => cases review.fields.symm.trans hm
  | accepted review => cases review.fields.symm.trans hm
  | granted hp => cases hp.symm.trans hf
  | resumed hp => cases hp.symm.trans hf
  | unapproved hp => cases hp.symm.trans hf

theorem keeps (h : Decides past r e u) (hk : r.status.ticket = .issue key) :
    u.ticket = .issue key ∨
      r.status.phase = .fresh ∧ ∃ field, Policy.missingField? r.spec e = some field := by
  cases h with
  | missing hf _ hm => exact .inr ⟨hf, _, hm⟩
  | unknown _ hu => cases hu.symm.trans hk
  | opened _ hu => cases hu.symm.trans hk
  | refused _ hand => exact .inl (hand.kept_eq hk)
  | accepted _ hand => exact .inl (hand.kept_eq hk)
  | granted => exact .inl hk
  | resumed => exact .inl hk
  | unapproved => exact .inl hk

end Lifecycle.Decides

namespace Course

theorem ticketed (h : Course others s before m.before)
    (status : ∀ {a b}, others a b → a.KeepsStatus name b) (hv : v.moments = before ++ m :: after)
    (keeps : m.Stores name → ¬v.Lacks) (ht : m.before.Ticketed name key) :
    m.after.Ticketed name key := by
  intro q hq
  obtain ⟨old, hold, -, hstatus⟩ := m.lawful.leaves.request_before hq
  have hk := ht old hold
  cases hstatus with
  | inl same => exact same ▸ hk
  | inr hw =>
    obtain ⟨w, hop, -, hwritten⟩ := hw
    obtain ⟨r, e, hf, u, held, rfl, dec, hfrom⟩ := h.before_write status hv hop hold
    rw [hwritten]
    cases hfrom with
    | inl hr =>
      cases dec.keeps (hr ▸ hk) with
      | inl hu => exact hu
      | inr lacks =>
        obtain ⟨hfresh, field, hm⟩ := lacks
        have lacks : v.Lacks := ⟨r, e, field, v.found_whole hv hf, hfresh, hm⟩
        exact absurd lacks (keeps ⟨_, q, hop, hq, hwritten⟩)
    | inr hlater => exact hlater.1.symm.trans hk

theorem stays_ticketed {a : Scene} (h : Course others s v.moments s')
    (status : ∀ {a b}, others a b → a.KeepsStatus name b) (hv : v.moments = before ++ rest)
    (course : Course others a rest s') (keeps : ∀ m ∈ rest, m.Stores name → ¬v.Lacks)
    (ha : a.Ticketed name key) :
    s'.Ticketed name key ∧ ∀ m ∈ rest, m.after.Ticketed name key := by
  induction rest generalizing a before with
  | nil =>
    cases course with
    | last idle =>
      refine ⟨fun q hq => ?_, by simp⟩
      obtain ⟨old, hold, hs⟩ := status idle q hq
      exact hs ▸ ha old hold
  | cons m rest ih =>
    cases course with
    | next idle course =>
      have ⟨hm, hrest⟩ := List.forall_mem_cons.1 keeps
      have hbefore : m.before.Ticketed name key := by
        intro q hq
        obtain ⟨old, hold, hs⟩ := status idle q hq
        exact hs ▸ ha old hold
      have upto := h
      rw [hv] at upto
      have hafter := upto.split.1.ticketed status hv hm hbefore
      have hv : v.moments = (before ++ [m]) ++ rest := by simp [hv]
      have ⟨hend, hmoments⟩ := ih hv course hrest hafter
      exact ⟨hend, List.forall_mem_cons.2 ⟨hafter, hmoments⟩⟩

theorem drops (hv : v.moments = before ++ m :: after) (lacks : v.Lacks) (stores : m.Stores name) :
    ¬m.after.Ticketed name key := by
  intro ht
  obtain ⟨w, q, hop, hq, hs⟩ := stores
  obtain ⟨r, e, field, hf, hfresh, hm⟩ := lacks
  obtain ⟨r', e', hf', -, u, held, rfl, -, dec, -⟩ := v.found_of_write hv hop
  obtain ⟨rfl, rfl⟩ := (v.found_whole hv hf').unique hf (List.prefix_refl _)
  have hk := ht q hq
  rw [hs, Request.record, dec.skips hfresh hm] at hk
  cases hk

end Course

theorem History.stays_ticketed {vs : List (Visit name)} (h : History others s vs s')
    (status : ∀ {a b}, others a b → a.KeepsStatus name b)
    (keeps : ∀ v ∈ vs, ∀ m ∈ v.moments, m.Stores name → ¬v.Lacks) (hs : s.Ticketed name key) :
    s'.Ticketed name key ∧ ∀ v ∈ vs, ∀ m ∈ v.moments, m.after.Ticketed name key := by
  induction h with
  | start => exact ⟨hs, by simp⟩
  | @visit vs s₁ v s₂ _ course ih =>
    have ⟨hearlier, hlast⟩ := List.forall_mem_append.1 keeps
    have ⟨hs₁, past⟩ := ih hearlier
    have whole : v.moments = [] ++ v.moments := rfl
    have ⟨hs₂, last⟩ := course.stays_ticketed status whole course (hlast v (by simp)) hs₁
    exact ⟨hs₂, List.forall_mem_append.2 ⟨past, by simpa using last⟩⟩

/-- Once a ticket is on record, it stays there if and only if no status is stored by a visit that
lacks a field. -/
theorem ticket_kept_iff {vs : List (Visit name)} (h : History others s vs s')
    (status : ∀ {a b}, others a b → a.KeepsStatus name b) {earlier later : List (Visit name)}
    (hvs : vs = earlier ++ v :: later) (hv : v.moments = before ++ m :: after)
    (hq : m.after.requests name = some q) (hk : q.status.ticket = .issue key) :
    ((∀ m ∈ after, m.after.Ticketed name key) ∧
        ∀ w ∈ later, ∀ m ∈ w.moments, m.after.Ticketed name key) ↔
      (∀ m ∈ after, m.Stores name → ¬v.Lacks) ∧
        ∀ w ∈ later, ∀ m ∈ w.moments, m.Stores name → ¬w.Lacks := by
  subst hvs
  obtain ⟨s₁, s₂, -, course, rest⟩ := h.split
  constructor
  · intro ⟨here, there⟩
    constructor
    · intro m' hm' stores lacks
      obtain ⟨ms, tail, rfl⟩ := List.append_of_mem hm'
      have hv' : v.moments = (before ++ m :: ms) ++ m' :: tail := by simp [hv]
      exact Course.drops hv' lacks stores (here m' hm')
    · intro w hw m' hm' stores lacks
      obtain ⟨ms, tail, hv'⟩ := List.append_of_mem hm'
      exact Course.drops hv' lacks stores (there w hw m' hm')
  · intro ⟨here, there⟩
    have ht : m.after.Ticketed name key := by
      intro q' hq'
      cases hq.symm.trans hq'
      exact hk
    have upto := course
    rw [hv] at upto
    have hv : v.moments = (before ++ [m]) ++ after := by simp [hv]
    have ⟨hs₂, hhere⟩ := course.stays_ticketed status hv upto.split.2 here ht
    exact ⟨hhere, (rest.stays_ticketed status there hs₂).2⟩

namespace Sample

theorem submitted_ticket_kept :
    ((∀ m ∈ submitted.moments.drop 5, m.after.Ticketed "jit-1" "IAM-1") ∧
        ∀ w ∈ ([] : List (Visit "jit-1")), ∀ m ∈ w.moments, m.after.Ticketed "jit-1" "IAM-1") ↔
      (∀ m ∈ submitted.moments.drop 5, m.Stores "jit-1" → ¬submitted.Lacks) ∧
        ∀ w ∈ ([] : List (Visit "jit-1")), ∀ m ∈ w.moments, m.Stores "jit-1" → ¬w.Lacks := by
  have history : History (Scene.Undisturbed "jit-1") submission ([] ++ [submitted]) underReview :=
    .visit .start submitted_course
  have opened : submitted.moments = submitted.moments.take 4 ++ ⟨submission,
      .call (.putStatus ((request .initial).record ticketing)), .ok ticketed, underReview,
      request .initial, some "2", rfl, rfl, rfl⟩ :: submitted.moments.drop 5 := rfl
  exact ticket_kept_iff history Scene.Undisturbed.status rfl opened (q := ticketed) rfl rfl

def stricter : Edition :=
  ⟨2, { edition.rulebook with custom := .ofList [("CostCentre", ⟨.text, "customfield_1"⟩)] }, none,
    by decide, rfl⟩

def amended : Scene := { underReview with edition := some stricter }

def dropping : Request.Update := ⟨.rejected, "missing custom field: CostCentre", .skipped⟩

def dropped : Request := { ticketed.record dropping with version := some "3" }

def rejected : Visit "jit-1" where
  keeper := keeper
  lastKnown := []
  moments := [
    ⟨amended, .call (.requestNamed "jit-1"), .ok ticketed, amended, rfl, rfl⟩,
    ⟨amended, .edition, some stricter, amended, rfl, rfl⟩,
    ⟨amended, .call (.publishEvent ⟨"jit-1", "u1", .validationFailed,
      "missing custom field: CostCentre"⟩), .ok (), amended, rfl⟩,
    ⟨amended, .call (.putStatus (ticketed.record dropping)), .ok dropped,
      amended.putRequest dropped, ticketed, some "3", rfl, rfl, rfl⟩]
  result := some (.ok .done)
  talk := Program.dialogue_of_replay (by decide +kernel)

/-- A ticket that is on record can be dropped, while the rules change and nobody else writes the
status. -/
theorem ticket_can_be_dropped :
    ∃ s', History (Scene.Undisturbed "jit-1") submission [submitted, rejected] s' ∧
      (∃ m ∈ submitted.moments, ∃ q, m.after.requests "jit-1" = some q ∧
        q.status.ticket = .issue "IAM-1") ∧
      ∃ m ∈ rejected.moments, ∃ q, m.after.requests "jit-1" = some q ∧
        q.status.ticket = .skipped := by
  have course : Course (Scene.Undisturbed "jit-1") underReview rejected.moments
      (amended.putRequest dropped) :=
    .next (Scene.undisturbed_of_eq (le_refl _) rfl rfl) <| .next .refl <| .next .refl <|
      .next .refl <| .last .refl
  have first : History (Scene.Undisturbed "jit-1") submission ([] ++ [submitted]) underReview :=
    .visit .start submitted_course
  have history : History (Scene.Undisturbed "jit-1") submission ([submitted] ++ [rejected])
      (amended.putRequest dropped) :=
    .visit first course
  refine ⟨_, history, ⟨submitted.moments[4], ?_, ticketed, rfl, rfl⟩,
    rejected.moments[3], ?_, dropped, rfl, rfl⟩
  · exact List.getElem_mem _
  · exact List.getElem_mem _

end Sample

end AccessWindow
