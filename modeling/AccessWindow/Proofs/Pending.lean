import AccessWindow.Proofs.Tracking

namespace AccessWindow.Schedule

inductive Step
  | observed (listing : List Listed) (now : Instant)
  | succeeded (task : Task) (outcome : Lifecycle.Outcome) (now : Instant)
  | failed (task : Task) (now : Instant)

namespace Step

def apply (s : Schedule) : Step → Schedule × List Task
  | observed listing now => s.observe listing now
  | succeeded task outcome now => (s.noteSuccess task outcome now, [])
  | failed task now => (s.noteFailure task now, [])

def Spares (name : String) : Step → Prop
  | observed listing _ => ∀ item ∈ listing, item.name ≠ name
  | succeeded task _ _ | failed task _ => task.name ≠ name

/-- The step does not look for tasks at the limit or later. -/
def Before (limit : Instant) : Step → Prop
  | observed _ now => now < limit
  | _ => True

/-- Nothing in the step tells that a request of this name has the namespace. -/
def Lacks (name scope : String) : Step → Prop
  | observed listing _ => ∀ item ∈ listing, item.name = name → scope ∉ item.namespaces
  | succeeded _ _ _ => True
  | failed task _ => task.name = name → scope ∉ task.namespaces

end Step

def run : List Step → Schedule → Schedule × List Task
  | [], s => (s, [])
  | step :: rest, s =>
    let (s, tasks) := step.apply s
    let (s, later) := run rest s
    (s, tasks ++ later)

/-- A clean-up in these namespaces has failed and waits for its time. -/
def Pending (s : Schedule) (name : String) (scopes : List String) (retry : Instant) : Prop :=
  s.tracked.get? name = some ⟨none, scopes, some retry, true⟩

def Lacks (s : Schedule) (name scope : String) : Prop :=
  ∀ t ∈ s.tracked.get? name, scope ∉ t.namespaces

variable {s : Schedule} {listing first : List Listed} {now seen failed retry : Instant}
  {name scope : String} {scopes : List String} {task : Task} {step : Step} {steps : List Step}

theorem run_cons {rest : List Step} :
    run (step :: rest) s =
      ((run rest (step.apply s).1).1, (step.apply s).2 ++ (run rest (step.apply s).1).2) := rfl

namespace Step

@[simp] theorem pause_apply : (step.apply s).1.pause = s.pause := by
  cases step <;> simp [apply]

theorem apply_of_spares (spares : step.Spares name)
    (waits : ∀ t ∈ s.tracked.get? name, t.vanished ∧ ∃ due, t.due = some due ∧ step.Before due) :
    (step.apply s).1.tracked.get? name = s.tracked.get? name ∧
      ∀ task ∈ (step.apply s).2, task.name ≠ name := by
  cases step with
  | observed listing now =>
    have stays : ∀ t, s.tracked.get? name = some t → ¬t.leaves now := by
      intro t ht leaves
      obtain ⟨hv, due, hd, hlt⟩ := waits t ht
      exact not_le_of_gt hlt (Tracked.leaves_iff.1 leaves hv due hd)
    constructor
    · refine Option.ext fun t => ?_
      rw [apply, get?_observe_of_absent spares, and_iff_left_of_imp (stays t)]
    · intro task htask hn
      obtain ⟨t, ht, leaves, -⟩ := (mem_observe_of_absent spares hn).1 htask
      exact stays t ht leaves
  | succeeded task outcome now =>
    refine ⟨?_, by simp [apply]⟩
    rw [apply, get?_noteSuccess, if_neg (Ne.symm spares)]
  | failed task now =>
    refine ⟨?_, by simp [apply]⟩
    rw [apply, get?_noteFailure, if_neg (Ne.symm spares)]

theorem apply_lacks (hs : s.Lacks name scope) (lacks : step.Lacks name scope) :
    (step.apply s).1.Lacks name scope ∧
      ∀ task ∈ (step.apply s).2, task.name = name → scope ∉ task.namespaces := by
  cases step with
  | observed listing now =>
    by_cases shown : ∃ item ∈ listing, item.name = name
    · constructor
      · intro t ht
        obtain ⟨item, hitem, hn, t', ht', hscopes⟩ := get?_observe_of_shown s now shown
        cases ht'.symm.trans ht
        exact hscopes ▸ lacks item hitem hn
      · intro task htask hn
        obtain ⟨item, hitem, hn, hscopes, -⟩ := mem_observe_of_shown shown htask hn
        exact hscopes ▸ lacks item hitem hn
    · have absent : ∀ item ∈ listing, item.name ≠ name := fun item hi hn => shown ⟨item, hi, hn⟩
      constructor
      · intro t ht
        exact hs t ((get?_observe_of_absent absent).1 ht).1
      · intro task htask hn
        obtain ⟨t, ht, -, rfl⟩ := (mem_observe_of_absent absent hn).1 htask
        exact hs t ht
  | succeeded task outcome now =>
    refine ⟨?_, by simp [apply]⟩
    intro t ht
    rw [apply, get?_noteSuccess] at ht
    split at ht
    · obtain ⟨t', ht', rfl⟩ := Option.map_eq_some_iff.1 ht
      exact hs t' ht'
    · exact hs t ht
  | failed task now =>
    refine ⟨?_, by simp [apply]⟩
    intro t ht
    rw [apply, get?_noteFailure] at ht
    split at ht
    · next hn =>
      cases ht
      cases hget : s.tracked.get? name with
      | none => simpa using lacks hn.symm
      | some t => simpa using hs t hget
    · exact hs t ht

end Step

@[simp] theorem pause_run : (run steps s).1.pause = s.pause := by
  induction steps generalizing s with
  | nil => rfl
  | cons step rest ih => rw [run_cons, ih, Step.pause_apply]

theorem run_of_spares (spares : ∀ step ∈ steps, step.Spares name)
    (waits : ∀ t ∈ s.tracked.get? name, t.vanished ∧ ∃ due, t.due = some due ∧
      ∀ step ∈ steps, step.Before due) :
    (run steps s).1.tracked.get? name = s.tracked.get? name ∧
      ∀ task ∈ (run steps s).2, task.name ≠ name := by
  induction steps generalizing s with
  | nil => simp [run]
  | cons step rest ih =>
    have ⟨hstep, hrest⟩ := List.forall_mem_cons.1 spares
    have now : ∀ t ∈ s.tracked.get? name, t.vanished ∧ ∃ due, t.due = some due ∧
        step.Before due := by
      intro t ht
      obtain ⟨hv, due, hd, before⟩ := waits t ht
      exact ⟨hv, due, hd, before step List.mem_cons_self⟩
    obtain ⟨hget, htasks⟩ := Step.apply_of_spares hstep now
    have later : ∀ t ∈ (step.apply s).1.tracked.get? name, t.vanished ∧ ∃ due, t.due = some due ∧
        ∀ step ∈ rest, step.Before due := by
      intro t ht
      obtain ⟨hv, due, hd, before⟩ := waits t (hget ▸ ht)
      exact ⟨hv, due, hd, fun step hs => before step (List.mem_cons_of_mem _ hs)⟩
    obtain ⟨hget', htasks'⟩ := ih hrest later
    rw [run_cons]
    exact ⟨hget'.trans hget, List.forall_mem_append.2 ⟨htasks, htasks'⟩⟩

theorem run_lacks (hs : s.Lacks name scope) (lacks : ∀ step ∈ steps, step.Lacks name scope) :
    ∀ task ∈ (run steps s).2, task.name = name → scope ∉ task.namespaces := by
  induction steps generalizing s with
  | nil => simp [run]
  | cons step rest ih =>
    have ⟨hstep, hrest⟩ := List.forall_mem_cons.1 lacks
    have ⟨hafter, htasks⟩ := Step.apply_lacks hs hstep
    rw [run_cons]
    exact List.forall_mem_append.2 ⟨htasks, ih hafter hrest⟩

theorem get?_of_handed (h : ⟨name, scopes, .vanished⟩ ∈ (s.observe first seen).2) :
    (s.observe first seen).1.tracked.get? name = none := by
  cases mem_observe.1 h with
  | inl h =>
    obtain ⟨item, -, -, -, hv⟩ := mem_observeItems h
    exact absurd rfl hv
  | inr h =>
    obtain ⟨t, ht, -⟩ := h
    rw [get?_observe, if_pos (List.mem_map.2 ⟨_, ht, rfl⟩)]

theorem pending_of_failure (h : s.tracked.get? name = none) :
    (s.noteFailure ⟨name, scopes, .vanished⟩ failed).Pending name scopes
      (failed.after s.pause) := by
  rw [Pending, get?_noteFailure, if_pos rfl, h, Option.getD_none]

theorem Pending.covered_iff (h : s.Pending name scopes retry)
    (unique : ∀ a ∈ listing, ∀ b ∈ listing, a.name = b.name → a = b)
    (ends : retry ≤ now ∨ ∃ item ∈ listing, item.name = name) :
    (∃ task ∈ (s.observe listing now).2, task.name = name ∧ scopes ⊆ task.namespaces) ↔
      ∀ item ∈ listing, item.name = name → scopes ⊆ item.namespaces := by
  by_cases shown : ∃ item ∈ listing, item.name = name
  · have new : ∀ t ∈ s.tracked.get? name, t.vanished := by
      intro t ht
      cases h.symm.trans ht
      rfl
    obtain ⟨item, hitem, hn, htask⟩ := firstSeen_mem_observeItems now new shown
    have only {other : Listed} (hother : other ∈ listing) (hname : other.name = name) :
        other = item := unique other hother item hitem (hname.trans hn.symm)
    constructor
    · rintro ⟨task, htask, hname, hcovers⟩ other hother hother'
      obtain ⟨shown, hshown, hshown', hscopes, -⟩ := mem_observe_of_shown shown htask hname
      rwa [only hother hother', ← only hshown hshown', ← hscopes]
    · exact fun covers => ⟨_, mem_observe.2 (.inl htask), rfl, covers item hitem hn⟩
  · have absent : ∀ item ∈ listing, item.name ≠ name := fun item hi hn => shown ⟨item, hi, hn⟩
    have leaves : (⟨none, scopes, some retry, true⟩ : Tracked).leaves now := by
      rw [Tracked.leaves_iff]
      rintro - due hd
      cases hd
      exact ends.resolve_right shown
    refine iff_of_true ?_ fun item hi hn => absurd hn (absent item hi)
    exact ⟨_, (mem_observe_of_absent absent rfl).2 ⟨_, h, leaves, rfl⟩, rfl, fun _ h => h⟩

/-- After a clean-up has failed, nothing is done for its name until its time has come or a request
of the name is listed. What is then done covers the namespaces of the clean-up if and only if the
request that is listed names them all. One that it does not name is not covered again, unless a
later request of the name has it. -/
theorem cleanup_retried_iff
    (handed : ⟨name, scopes, .vanished⟩ ∈ (s.observe first seen).2) {meanwhile waiting : List Step}
    (spares : ∀ step ∈ meanwhile, step.Spares name)
    (waits : ∀ step ∈ waiting, step.Spares name ∧ step.Before (failed.after s.pause))
    (unique : ∀ a ∈ listing, ∀ b ∈ listing, a.name = b.name → a = b)
    (ends : failed.after s.pause ≤ now ∨ ∃ item ∈ listing, item.name = name) :
    let noted := (run meanwhile (s.observe first seen).1).1.noteFailure
      ⟨name, scopes, .vanished⟩ failed
    let last := ((run waiting noted).1.observe listing now)
    (∀ task ∈ (run waiting noted).2, task.name ≠ name) ∧
      ((∃ task ∈ last.2, task.name = name ∧ scopes ⊆ task.namespaces) ↔
        ∀ item ∈ listing, item.name = name → scopes ⊆ item.namespaces) ∧
      ∀ item ∈ listing, item.name = name → ∀ scope ∉ item.namespaces,
        ∀ later, (∀ step ∈ later, step.Lacks name scope) →
          ∀ task ∈ (run later last.1).2, task.name = name → scope ∉ task.namespaces := by
  intro noted last
  have untracked := get?_of_handed handed
  obtain ⟨hmeanwhile, -⟩ := run_of_spares spares (s := (s.observe first seen).1)
    (by simp [untracked])
  have pending : noted.Pending name scopes (failed.after s.pause) := by
    have same : (run meanwhile (s.observe first seen).1).1.pause = s.pause := by
      rw [pause_run, pause_observe]
    rw [← same]
    exact pending_of_failure (hmeanwhile.trans untracked)
  have pause : ∀ t ∈ noted.tracked.get? name, t.vanished ∧ ∃ due, t.due = some due ∧
      ∀ step ∈ waiting, step.Before due := by
    intro t ht
    cases pending.symm.trans ht
    exact ⟨rfl, _, rfl, fun step hs => (waits step hs).2⟩
  obtain ⟨hget, htasks⟩ := run_of_spares (fun step hs => (waits step hs).1) pause
  have pending : (run waiting noted).1.Pending name scopes (failed.after s.pause) :=
    hget.trans pending
  refine ⟨htasks, pending.covered_iff unique ends, ?_⟩
  intro item hitem hn scope hscope later lacks
  refine run_lacks ?_ lacks
  intro t ht
  obtain ⟨other, hother, hn', t', ht', hscopes⟩ :=
    get?_observe_of_shown (run waiting noted).1 now ⟨item, hitem, hn⟩
  cases ht'.symm.trans ht
  rwa [hscopes, unique other hother item hitem (hn'.trans hn.symm)]

namespace Sample

def known : Schedule :=
  ((Schedule.start (.ofSeconds 10)).observe [⟨"jit-1", some "1", ["team-a"]⟩] .epoch).1

def cleanUp : Task := ⟨"jit-1", ["team-a"], .vanished⟩

def halfway : Instant := ⟨5, 0, by decide⟩

def atRetry : Instant := Instant.epoch.after (.ofSeconds 10)

def reused : Listed := ⟨"jit-1", some "7", ["team-b"]⟩

def noted : Schedule := (run [] (known.observe [] .epoch).1).1.noteFailure cleanUp .epoch

theorem halfway_before : (Step.observed [] halfway).Before (Instant.epoch.after known.pause) := by
  rw [Step.Before]
  decide +kernel

theorem reused_retried :
    (∀ task ∈ (run [.observed [] halfway] noted).2, task.name ≠ "jit-1") ∧
      ((∃ task ∈ ((run [.observed [] halfway] noted).1.observe [reused] atRetry).2,
          task.name = "jit-1" ∧ ["team-a"] ⊆ task.namespaces) ↔
        ∀ item ∈ [reused], item.name = "jit-1" → ["team-a"] ⊆ item.namespaces) ∧
      ∀ item ∈ [reused], item.name = "jit-1" → ∀ scope ∉ item.namespaces,
        ∀ later, (∀ step ∈ later, step.Lacks "jit-1" scope) →
          ∀ task ∈ (run later ((run [.observed [] halfway] noted).1.observe [reused] atRetry).1).2,
            task.name = "jit-1" → scope ∉ task.namespaces := by
  have handed : ⟨"jit-1", ["team-a"], .vanished⟩ ∈ (known.observe [] .epoch).2 := by
    decide +kernel
  have ends : Instant.epoch.after known.pause ≤ atRetry ∨ ∃ item ∈ [reused], item.name = "jit-1" :=
    .inr ⟨reused, List.mem_singleton.2 rfl, rfl⟩
  have spares : ∀ step ∈ ([] : List Step), step.Spares "jit-1" := by simp
  exact cleanup_retried_iff handed spares
    (List.forall_mem_singleton.2 ⟨by simp [Step.Spares], halfway_before⟩)
    (fun _ ha _ hb _ => (List.mem_singleton.1 ha).trans (List.mem_singleton.1 hb).symm) ends

def anew : Schedule × List Task := noted.observe [reused] halfway

def dealtWith : Schedule := anew.1.noteSuccess ⟨"jit-1", ["team-b"], .firstSeen⟩ .done halfway

/-- No task covers the namespaces of a failed clean-up when its time has come, and none that does
has succeeded. -/
theorem cleanup_can_be_forgotten :
    cleanUp ∈ (known.observe [] .epoch).2 ∧ anew.2 = [⟨"jit-1", ["team-b"], .firstSeen⟩] ∧
      ¬cleanUp.namespaces ⊆ ["team-b"] ∧ (dealtWith.observe [reused] atRetry).2 = [] := by
  decide +kernel

end Sample

end AccessWindow.Schedule
