import AccessWindow.Proofs.History

namespace AccessWindow

open Lifecycle

variable {others : Scene → Scene → Prop} {s s' : Scene} {m : Moment} {before after : List Moment}
  {name : String} {past : List Turn} {r q held : Request} {e : Edition} {u : Request.Update}
  {spec : Request.Spec} {v : Visit name}

def Phase.Leads : Phase → Phase → Prop
  | .fresh, p => p = .fresh ∨ p = .preApproved ∨ p = .rejected
  | .preApproved, p => p = .preApproved ∨ p = .succeeded ∨ p = .rejected
  | p, p' => p' = p

theorem Phase.leads_refl (p : Phase) : p.Leads p := by
  cases p <;> simp [Leads]

inductive Request.Status.Reached (spec : Request.Spec) : Request.Status → Prop
  | initial : Reached spec .initial
  | opened {message key} :
      Reached spec ⟨.fresh, message, .issue key, some spec.start, some spec.finish⟩
  | preApproved {message key} : spec.start < spec.finish →
      Reached spec ⟨.preApproved, message, .issue key, some spec.start, some spec.finish⟩
  | succeeded {message key} : spec.start < spec.finish →
      Reached spec ⟨.succeeded, message, .issue key, some spec.start, some spec.finish⟩
  | rejected {message key} :
      Reached spec ⟨.rejected, message, .issue key, some spec.start, some spec.finish⟩
  | skipped {message} :
      Reached spec ⟨.rejected, message, .skipped, some spec.start, some spec.finish⟩

theorem Request.Status.Reached.inhand {status : Request.Status} (h : status.Reached spec)
    (hp : status.phase = .preApproved) :
    spec.start < spec.finish ∧ ∃ key, status.ticket = .issue key := by
  cases h with
  | preApproved hw => exact ⟨hw, _, rfl⟩
  | _ => cases hp

inductive Lifecycle.Unanswerable (past : List Turn) (r : Request) (e : Edition) : Prop
  | field {field} : Policy.missingField? r.spec e = some field → Unanswerable past r e
  | reporter {message} : Heard past (.accountOf r.spec.reporter) (.error (.notFound message)) →
      Unanswerable past r e

namespace Lifecycle.Decides

theorem leads (h : Decides past r e u) : r.status.phase.Leads u.phase := by
  cases h with
  | missing hf => simp [hf, Phase.Leads]
  | unknown review => simp [review.fresh, Phase.Leads]
  | opened review => simp [review.fresh, Phase.Leads]
  | refused review => simp [review.fresh, Phase.Leads]
  | accepted review => simp [review.fresh, Phase.Leads]
  | granted hp => simp [hp, Phase.Leads]
  | resumed hp => simp [hp, Phase.Leads]
  | unapproved hp => simp [hp, Phase.Leads]

theorem unanswerable (h : Decides past r e u) (hr : r.status.Reached spec)
    (hu : u.ticket = .skipped) : u.phase = .rejected ∧ Unanswerable past r e := by
  cases h with
  | missing hf ht hm => exact ⟨rfl, .field hm⟩
  | unknown review ht hh => exact ⟨rfl, .reporter hh⟩
  | opened => cases hu
  | refused => cases hu
  | accepted => cases hu
  | granted hp =>
    obtain ⟨-, key, hk⟩ := hr.inhand hp
    cases hk.symm.trans hu
  | resumed hp =>
    obtain ⟨-, key, hk⟩ := hr.inhand hp
    cases hk.symm.trans hu
  | unapproved hp =>
    obtain ⟨-, key, hk⟩ := hr.inhand hp
    cases hk.symm.trans hu

theorem reached (h : Decides past r e u) (hr : r.status.Reached spec)
    (records : ∀ x ∈ past, ∀ held, x.record? = some held → held.spec = spec)
    (hs : held.spec = spec) : (held.record u).status.Reached spec := by
  subst hs
  cases h with
  | missing => exact .skipped
  | unknown => exact .skipped
  | opened => exact .opened
  | refused => exact .rejected
  | accepted _ _ hx hrec passed =>
    have hw := passed.window
    rw [records _ hx _ hrec] at hw
    exact .preApproved hw
  | granted hp =>
    obtain ⟨hw, key, hk⟩ := hr.inhand hp
    rw [hk]
    exact .succeeded hw
  | resumed hp =>
    obtain ⟨hw, key, hk⟩ := hr.inhand hp
    rw [hk]
    exact .succeeded hw
  | unapproved hp =>
    obtain ⟨-, key, hk⟩ := hr.inhand hp
    rw [hk]
    exact .rejected

end Lifecycle.Decides

def Scene.Orderly (s : Scene) (name : String) : Prop :=
  ∀ q, s.requests name = some q → q.status.Reached q.spec

namespace Course

theorem write_reached {w old : Request} (h : Course others s before s')
    (spec : ∀ {a b}, others a b → a.KeepsSpec name b)
    (status : ∀ {a b}, others a b → a.KeepsStatus name b) (hv : v.moments = before ++ m :: after)
    (hs : s.Orderly name) (hold : s.requests name = some old)
    (hop : m.op = .call (.putStatus w)) : w.status.Reached old.spec := by
  obtain ⟨r, e, hf, -, u, held, rfl, hl, dec, -⟩ := v.found_of_write hv hop
  have records : ∀ x ∈ before.map Moment.said, ∀ held, x.record? = some held →
      held.spec = old.spec := by
    intro x hx held hr
    obtain ⟨first, hfirst, hspec⟩ := h.spec_of_record spec hv hx hr
    cases hold.symm.trans hfirst
    exact hspec
  have hr : r.status.Reached old.spec := by
    obtain ⟨first, hfirst, hstatus⟩ := h.found_status status hf
    cases hold.symm.trans hfirst
    exact hstatus ▸ hs old hold
  obtain ⟨x, hx, hrec⟩ := exists_of_latest hl
  exact dec.reached hr records (records x hx held hrec)

theorem orderly (h : Course others s before s')
    (spec : ∀ {a b}, others a b → a.KeepsSpec name b)
    (status : ∀ {a b}, others a b → a.KeepsStatus name b) (hv : v.moments = before ++ after)
    (hs : s.Orderly name) : s'.Orderly name := by
  intro q hq
  obtain ⟨old, hold, hspec⟩ := h.keepsSpec spec q hq
  obtain ⟨old', hold', hstatus⟩ := h.status_before status hq
  cases hold.symm.trans hold'
  rw [hspec]
  cases hstatus with
  | inl same => exact same ▸ hs old hold
  | inr hw =>
    obtain ⟨m, hm, w, hop, -, hwritten⟩ := hw
    obtain ⟨ms, rest, rfl⟩ := List.append_of_mem hm
    have hv : v.moments = ms ++ m :: (rest ++ after) := by simp [hv]
    exact hwritten ▸ h.split.1.write_reached spec status hv hs hold hop

theorem orderly_after (h : Course others s before m.before)
    (spec : ∀ {a b}, others a b → a.KeepsSpec name b)
    (status : ∀ {a b}, others a b → a.KeepsStatus name b) (hv : v.moments = before ++ m :: after)
    (hs : s.Orderly name) : m.after.Orderly name := by
  intro q hq
  obtain ⟨old, hold, hspec, hstatus⟩ := m.lawful.leaves.request_before hq
  cases hstatus with
  | inl same =>
    rw [same, hspec]
    exact h.orderly spec status hv hs old hold
  | inr hw =>
    obtain ⟨w, hop, -, hwritten⟩ := hw
    obtain ⟨first, hfirst, hspec'⟩ := h.keepsSpec spec old hold
    rw [hwritten, hspec, hspec']
    exact h.write_reached spec status hv hs hfirst hop

theorem before_write (h : Course others s before m.before)
    (status : ∀ {a b}, others a b → a.KeepsStatus name b) (hv : v.moments = before ++ m :: after)
    {w : Request} (hop : m.op = .call (.putStatus w)) (hq : m.before.requests name = some q) :
    ∃ r e, Found name (before.map Moment.said) r e ∧ ∃ (u : Request.Update) (held : Request),
      w = held.record u ∧ Decides (before.map Moment.said) r e u ∧
        (q.status = r.status ∨
          q.status.ticket = u.ticket ∧
            (q.status.phase = u.phase ∨ q.status.phase = .fresh ∧ r.status.phase = .fresh)) := by
  obtain ⟨r, e, hf, -, u, held, hw, -, dec, cont⟩ := v.found_of_write hv hop
  refine ⟨r, e, hf, u, held, hw, dec, (h.status_found status hf hq).imp id fun hwritten => ?_⟩
  obtain ⟨m', hm', w', hop', -, hstatus⟩ := hwritten
  obtain ⟨ms, rest, rfl⟩ := List.append_of_mem hm'
  have hv' : v.moments = ms ++ m' :: (rest ++ m :: after) := by simp [hv]
  obtain ⟨r', e', hf', -, u', held', rfl, -, dec', -⟩ := v.found_of_write hv' hop'
  have hr : r' = r := (hf'.unique hf (by rw [List.map_append]; exact List.prefix_append _ _)).1
  cases cont m'.said (List.mem_map_of_mem hm') _ hop' with
  | inl same =>
    obtain ⟨held'', hsame⟩ := same
    rw [hstatus, hsame]
    exact ⟨rfl, .inl rfl⟩
  | inr first =>
    rw [hstatus]
    refine ⟨first.2, .inr ⟨first.1, ?_⟩⟩
    have hleads := dec'.leads
    rw [show u'.phase = .fresh from first.1, hr] at hleads
    cases hp : r.status.phase <;> simp_all [Phase.Leads]

theorem leads {q' : Request} (h : Course others s before m.before)
    (status : ∀ {a b}, others a b → a.KeepsStatus name b) (hv : v.moments = before ++ m :: after)
    (hq : m.before.requests name = some q) (hq' : m.after.requests name = some q') :
    q.status.phase.Leads q'.status.phase := by
  obtain ⟨old, hold, -, hstatus⟩ := m.lawful.leaves.request_before hq'
  cases hq.symm.trans hold
  cases hstatus with
  | inl same => exact same ▸ Phase.leads_refl _
  | inr hw =>
    obtain ⟨w, hop, -, hwritten⟩ := hw
    obtain ⟨r, e, -, u, held, rfl, dec, hfrom⟩ := h.before_write status hv hop hq
    have hleads := dec.leads
    rw [hwritten]
    cases hfrom with
    | inl hr => exact hr ▸ hleads
    | inr hlater =>
      cases hlater.2 with
      | inl hsame => exact hsame ▸ Phase.leads_refl _
      | inr hfresh => rwa [hfresh.1, ← hfresh.2]

theorem unanswerable {w : Request} (h : Course others s before s')
    (status : ∀ {a b}, others a b → a.KeepsStatus name b) (hv : v.moments = before ++ m :: after)
    (hs : s.Orderly name) (hop : m.op = .call (.putStatus w)) (hw : w.status.ticket = .skipped) :
    w.status.phase = .rejected ∧ ∃ r e, Found name (before.map Moment.said) r e ∧
      Unanswerable (before.map Moment.said) r e := by
  obtain ⟨r, e, hf, -, u, held, rfl, -, dec, -⟩ := v.found_of_write hv hop
  obtain ⟨old, hold, hstatus⟩ := h.found_status status hf
  have hr : r.status.Reached old.spec := hstatus ▸ hs old hold
  have ⟨hp, why⟩ := dec.unanswerable hr hw
  exact ⟨hp, r, e, hf, why⟩

end Course

theorem History.orderly {vs : List (Visit name)} (h : History others s vs s')
    (spec : ∀ {a b}, others a b → a.KeepsSpec name b)
    (status : ∀ {a b}, others a b → a.KeepsStatus name b) (hs : s.Orderly name) :
    s'.Orderly name := by
  induction h with
  | start => exact hs
  | @visit vs s₁ v s₂ _ course ih =>
    exact course.orderly spec status (List.append_nil v.moments).symm ih

structure InOrder (name : String) (past : List Moment) (m : Moment) : Prop where
  before : m.before.Orderly name
  after : m.after.Orderly name
  leads : ∀ q q', m.before.requests name = some q → m.after.requests name = some q' →
    q.status.phase.Leads q'.status.phase
  unanswerable : ∀ w, m.op = .call (.putStatus w) → w.status.ticket = .skipped →
    w.status.phase = .rejected ∧ ∃ r e, Found name (past.map Moment.said) r e ∧
      Unanswerable (past.map Moment.said) r e

theorem statuses_in_order {vs : List (Visit name)} (h : History others s vs s')
    (spec : ∀ {a b}, others a b → a.KeepsSpec name b)
    (status : ∀ {a b}, others a b → a.KeepsStatus name b)
    (fresh : ∀ q, s.requests name = some q → q.status = .initial) :
    s'.Orderly name ∧ ∀ earlier v later before m after, vs = earlier ++ v :: later →
      v.moments = before ++ m :: after → InOrder name before m := by
  have hs : s.Orderly name := fun q hq => fresh q hq ▸ .initial
  refine ⟨h.orderly spec status hs, ?_⟩
  intro earlier v later before m after hvs hv
  subst hvs
  obtain ⟨s₁, s₂, first, course, -⟩ := h.split
  have hs := first.orderly spec status hs
  rw [hv] at course
  have upto := course.split.1
  constructor
  · exact upto.orderly spec status hv hs
  · exact upto.orderly_after spec status hv hs
  · exact fun q q' hq hq' => upto.leads status hv hq hq'
  · exact fun w hop hw => upto.unanswerable status hv hs hop hw

namespace Sample

def submission : Scene := scene .initial .epoch

def ticketing : Request.Update := ⟨.fresh, "Jira ticket IAM-1 created", .issue "IAM-1"⟩

def ticketed : Request := { (request .initial).record ticketing with version := some "2" }

def underReview : Scene := submission.putRequest ticketed

def submitted : Visit "jit-1" where
  keeper := keeper
  lastKnown := []
  moments := [
    ⟨submission, .call (.requestNamed "jit-1"), .ok (request .initial), submission, rfl, rfl⟩,
    ⟨submission, .edition, some edition, submission, rfl, rfl⟩,
    ⟨submission, .call (.accountOf "dev@example.com"), .ok "dev", submission, rfl⟩,
    ⟨submission, .call (.raiseTicket (.ofRequest Sample.spec "dev" edition)), .ok "IAM-1",
      submission, rfl⟩,
    ⟨submission, .call (.putStatus ((request .initial).record ticketing)), .ok ticketed,
      underReview, request .initial, some "2", rfl, rfl, rfl⟩,
    ⟨underReview, .clock, .epoch, underReview, rfl, rfl⟩,
    ⟨underReview, .call (.commentOn "IAM-1"
        (Ticket.preApprovedNote Sample.spec edition.rulebook.comment)),
      .error (.external none "down"), underReview, .inl rfl⟩]
  result := some (.error (.external none "down"))
  talk := Program.dialogue_of_replay (by decide +kernel)

theorem submitted_course :
    Course (Scene.Undisturbed "jit-1") submission submitted.moments underReview :=
  .next .refl <| .next .refl <| .next .refl <| .next .refl <| .next .refl <| .next .refl <|
    .next .refl <| .last .refl

theorem submitted_in_order : underReview.Orderly "jit-1" ∧
    ∀ earlier v later before m after, [submitted] = earlier ++ v :: later →
      v.moments = before ++ m :: after → InOrder "jit-1" before m := by
  have history : History (Scene.Undisturbed "jit-1") submission ([] ++ [submitted]) underReview :=
    .visit .start submitted_course
  refine statuses_in_order history Scene.Undisturbed.spec Scene.Undisturbed.status ?_
  intro q hq
  cases hq
  rfl

end Sample

end AccessWindow
