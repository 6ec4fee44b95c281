import AccessWindow.Proofs.Delay
import AccessWindow.Proofs.Orphans
import AccessWindow.Proofs.Watches

namespace AccessWindow

namespace Schedule

open Time

variable {s : Schedule} {listing : List Listed} {item : Listed} {now due : Instant}
  {name : String} {task : Task} {tasks before after : List Task} {t : Tracked}
  {pause delay : Duration} {outcome : Lifecycle.Outcome}

def Wakes (s : Schedule) (name : String) (due : Instant) : Prop :=
  ∃ t, s.tracked.get? name = some t ∧ t.due = some due

theorem earlier_eq_min (a b : Instant) : earlier a b = min a b := by
  rw [earlier, min_def]
  split
  · next h => rw [if_neg (not_le_of_gt h)]
  · next h => rw [if_pos (le_of_not_gt h)]

theorem mem_dues : due ∈ s.tracked.values.filterMap (·.due) ↔ ∃ name, s.Wakes name due := by
  simp only [List.mem_filterMap, Dict.mem_values, Wakes]
  constructor
  · rintro ⟨t, ⟨name, ht⟩, hdue⟩
    exact ⟨name, t, ht, hdue⟩
  · rintro ⟨name, t, ht, hdue⟩
    exact ⟨t, ⟨name, ht⟩, hdue⟩

theorem nextDue?_eq_none : s.nextDue? now = none ↔ ∀ name due, ¬s.Wakes name due := by
  have none_due : (∀ name due, ¬s.Wakes name due) ↔ s.tracked.values.filterMap (·.due) = [] := by
    rw [List.eq_nil_iff_forall_not_mem]
    simp only [mem_dues, not_exists]
    exact forall_comm
  rw [none_due, nextDue?]
  split <;> simp_all

theorem exists_earliest (h : s.nextDue? now = some delay) :
    ∃ first, delay = (first.since now).toNat ∧ (∃ name, s.Wakes name first) ∧
      ∀ name due, s.Wakes name due → first ≤ due := by
  rw [nextDue?] at h
  split at h
  · cases h
  · next due dues hdues =>
    have hfirst : (due :: dues).min? = some (dues.foldl earlier due) := by
      rw [List.min?_cons', show earlier = min from funext₂ earlier_eq_min]
    obtain ⟨hmem, hle⟩ := List.min?_eq_some_iff.1 hfirst
    rw [← hdues] at hmem hle
    refine ⟨_, (Option.some.inj h).symm, mem_dues.1 hmem, fun name due hwakes => ?_⟩
    exact hle due (mem_dues.2 ⟨name, hwakes⟩)

theorem Tracked.due_listed {known : Option Tracked} (h : (listed known item now).due = some due) :
    (∃ t, known = some t ∧ t.due = some due) ∧ now < due := by
  rw [listed] at h
  cases htrigger : trigger? known item now with
  | some trigger => simp [htrigger] at h
  | none =>
    obtain ⟨t, rfl, hdue⟩ : ∃ t, known = some t ∧ t.due = some due := by
      simpa [htrigger, Option.bind_eq_some_iff] using h
    refine ⟨⟨t, rfl, hdue⟩, lt_of_not_ge fun hle => ?_⟩
    have isDue : t.isDue now := by simpa [Tracked.isDue, hdue] using hle
    simp only [trigger?, isDue] at htrigger
    split at htrigger
    · cases htrigger
    · split at htrigger <;> simp at htrigger

theorem Tracked.isSome_trigger? (item : Listed) (hdue : t.due = some due) (hle : due ≤ now) :
    (trigger? (some t) item now).isSome := by
  have isDue : t.isDue now := by simpa [Tracked.isDue, hdue] using hle
  simp only [trigger?, isDue]
  split
  · rfl
  · split <;> rfl

theorem wakes_observeItems (h : (observeItems now listing s).1.Wakes name due) :
    s.Wakes name due ∧ ((∃ item ∈ listing, item.name = name) → now < due) := by
  induction listing generalizing s with
  | nil => exact ⟨h, by simp⟩
  | cons item rest ih =>
    rw [observeItems_cons] at h
    obtain ⟨⟨t, ht, hdue⟩, later⟩ := ih h
    rw [get?_observeItem] at ht
    split at ht
    · next hn =>
      subst hn
      cases ht
      obtain ⟨old, ahead⟩ := Tracked.due_listed hdue
      exact ⟨old, fun _ => ahead⟩
    · next hn =>
      refine ⟨⟨t, ht, hdue⟩, fun shown => later ?_⟩
      simpa [Ne.symm hn] using shown

theorem wakes_observe (h : (s.observe listing now).1.Wakes name due) :
    s.Wakes name due ∧ now < due := by
  by_cases shown : ∃ item ∈ listing, item.name = name
  · have kept : (observeItems now listing s).1.Wakes name due := by
      obtain ⟨t, ht, hdue⟩ := h
      rw [get?_observe] at ht
      split at ht
      · cases ht
      · exact ⟨t, ht, hdue⟩
    exact ⟨(wakes_observeItems kept).1, (wakes_observeItems kept).2 shown⟩
  · have absent : ∀ item ∈ listing, item.name ≠ name := fun item hi hn => shown ⟨item, hi, hn⟩
    obtain ⟨t, ht, hdue⟩ := h
    obtain ⟨ht, stays⟩ := (get?_observe_of_absent absent).1 ht
    refine ⟨⟨t, ht, hdue⟩, lt_of_not_ge fun hle => stays (Tracked.leaves_iff.2 ?_)⟩
    intro _ due' hdue'
    cases hdue.symm.trans hdue'
    exact hle

theorem exists_task_of_shown (hwakes : s.Wakes name due) (hle : due ≤ now)
    (shown : ∃ item ∈ listing, item.name = name) :
    ∃ task ∈ (observeItems now listing s).2, task.name = name := by
  induction listing generalizing s with
  | nil => simp at shown
  | cons item rest ih =>
    rw [observeItems_cons]
    by_cases hn : item.name = name
    · subst hn
      obtain ⟨t, ht, hdue⟩ := hwakes
      obtain ⟨trigger, htrigger⟩ :=
        Option.isSome_iff_exists.1 (Tracked.isSome_trigger? item hdue hle)
      refine ⟨⟨item.name, item.namespaces, trigger⟩, List.mem_append_left _ ?_, rfl⟩
      simp [observeItem, ht, htrigger]
    · have later : (s.observeItem now item).1.Wakes name due := by
        rwa [Wakes, get?_observeItem, if_neg (Ne.symm hn)]
      obtain ⟨task, htask, hname⟩ := ih later (by simpa [hn] using shown)
      exact ⟨task, List.mem_append_right _ htask, hname⟩

theorem exists_task_of_wakes (listing : List Listed) (hwakes : s.Wakes name due)
    (hle : due ≤ now) : ∃ task ∈ (s.observe listing now).2, task.name = name := by
  by_cases shown : ∃ item ∈ listing, item.name = name
  · obtain ⟨task, htask, hn⟩ := exists_task_of_shown hwakes hle shown
    exact ⟨task, mem_observe.2 (.inl htask), hn⟩
  · have absent : ∀ item ∈ listing, item.name ≠ name := fun item hi hn => shown ⟨item, hi, hn⟩
    obtain ⟨t, ht, hdue⟩ := hwakes
    have leaves : t.leaves now := Tracked.leaves_iff.2 fun _ due' hdue' => by
      cases hdue.symm.trans hdue'
      exact hle
    exact ⟨_, (mem_observe_of_absent absent rfl).2 ⟨t, ht, leaves, rfl⟩, rfl⟩

structure Unchanged (s : Schedule) (listing : List Listed) : Prop where
  shown : ∀ name, (∃ item ∈ listing, item.name = name) ↔
    ∃ t, s.tracked.get? name = some t ∧ t.vanished = false
  same : ∀ item ∈ listing, ∀ t, s.tracked.get? item.name = some t → t.version = item.version

theorem observeItems_eq_nil
    (same : ∀ item ∈ listing, ∃ t, s.tracked.get? item.name = some t ∧ t.vanished = false ∧
      t.version = item.version ∧ ∀ due, t.due = some due → now < due) :
    (observeItems now listing s).2 = [] := by
  induction listing generalizing s with
  | nil => rfl
  | cons item rest ih =>
    have ⟨hitem, hrest⟩ := List.forall_mem_cons.1 same
    obtain ⟨t, ht, hv, hversion, ahead⟩ := hitem
    have idle : Tracked.trigger? (some t) item now = none := by
      have isDue : t.isDue now = false := by
        cases hdue : t.due with
        | none => simp [Tracked.isDue, hdue]
        | some due => simpa [Tracked.isDue, hdue] using ahead due hdue
      simp [Tracked.trigger?, hv, hversion, isDue]
    have nothing : (s.observeItem now item).2 = none := by simp [observeItem, ht, idle]
    rw [observeItems_cons, nothing, ih, Option.toList_none, List.nil_append]
    intro other hother
    rw [get?_observeItem]
    split
    · next hn =>
      obtain ⟨t', ht', -, hversion', -⟩ := hrest other hother
      rw [hn, ht] at ht'
      cases ht'
      refine ⟨_, rfl, rfl, hversion.symm.trans hversion', fun due hdue => ?_⟩
      simp only [Tracked.listed, ht, idle] at hdue
      exact ahead due hdue
    · exact hrest other hother

theorem vanished_of_observe (ht : (s.observe listing now).1.tracked.get? name = some t)
    (hv : t.vanished) :
    (∀ item ∈ listing, item.name ≠ name) ∧ s.tracked.get? name = some t ∧ ¬t.leaves now := by
  have absent : ∀ item ∈ listing, item.name ≠ name := by
    have items : (observeItems now listing s).1.tracked.get? name = some t := by
      rw [get?_observe] at ht
      split at ht
      · cases ht
      · exact ht
    clear ht
    induction listing generalizing s with
    | nil => simp
    | cons item rest ih =>
      rw [observeItems_cons] at items
      have hrest := ih items
      refine List.forall_mem_cons.2 ⟨fun hn => ?_, hrest⟩
      rw [get?_observeItems_of_absent now hrest, get?_observeItem, if_pos hn.symm] at items
      cases items
      cases hv
  exact ⟨absent, (get?_observe_of_absent absent).1 ht⟩

/-- A schedule that has come about, with the tasks that the last listing has handed out and whose
results have not been noted. Each is noted once at most, and before the next listing; the clock does
not show a leap second then. -/
inductive Reached (pause : Duration) : Schedule → List Task → Prop
  | start : Reached pause (start pause) []
  | observed {s : Schedule} {tasks : List Task} (listing : List Listed) (now : Instant) :
      Reached pause s tasks → Reached pause (s.observe listing now).1 (s.observe listing now).2
  | succeeded {s : Schedule} {before after : List Task} {task : Task} {now : Instant}
      (outcome : Lifecycle.Outcome) : Reached pause s (before ++ task :: after) →
      now.isLeap = false → Reached pause (s.noteSuccess task outcome now) (before ++ after)
  | failed {s : Schedule} {before after : List Task} {task : Task} {now : Instant} :
      Reached pause s (before ++ task :: after) → now.isLeap = false →
      Reached pause (s.noteFailure task now) (before ++ after)

/-- A request that is remembered as gone waits for the time of its clean-up, so that no task of its
name is under way; of a name that is not tracked, one task at most is under way. -/
structure Sound (s : Schedule) (tasks : List Task) : Prop where
  plain : ∀ name due, s.Wakes name due → due.isLeap = false
  waits : ∀ name t, s.tracked.get? name = some t → t.vanished → t.due.isSome
  live : ∀ task ∈ tasks, ∀ t, s.tracked.get? task.name = some t → t.vanished = false
  alone : tasks.Pairwise fun a b => a.name = b.name → (s.tracked.get? a.name).isSome

namespace Sound

theorem start : (start pause).Sound [] where
  plain := by
    rintro name due ⟨t, ht, -⟩
    cases ht
  waits name t ht := by cases ht
  live := by simp
  alone := .nil

theorem observe (h : s.Sound tasks) :
    (s.observe listing now).1.Sound (s.observe listing now).2 where
  plain name due hwakes := h.plain name due (wakes_observe hwakes).1
  waits name t ht hv := h.waits name t (vanished_of_observe ht hv).2.1 hv
  live task htask t ht := by
    by_contra hv
    obtain ⟨absent, hbefore, stays⟩ := vanished_of_observe ht (by simpa using hv)
    obtain ⟨t', ht', leaves, -⟩ := (mem_observe_of_absent absent rfl).1 htask
    cases hbefore.symm.trans ht'
    exact stays leaves
  alone := by
    have tracked : ∀ task ∈ (observeItems now listing s).2,
        ((s.observe listing now).1.tracked.get? task.name).isSome := by
      intro task htask
      obtain ⟨item, hitem, hn, -⟩ := mem_observeItems htask
      obtain ⟨-, -, -, t, ht, -⟩ := get?_observe_of_shown s now ⟨item, hitem, hn.symm⟩
      rw [ht, Option.isSome_some]
    rw [observe_eq_append, List.pairwise_append]
    refine ⟨?_, ?_, ?_⟩
    · exact List.pairwise_of_forall_mem_list fun a ha _ _ _ => tracked a ha
    · exact cleanUps_pairwise.imp fun hlt hn => absurd (hn ▸ hlt) (String.lt_irrefl _)
    · exact fun a ha _ _ _ => tracked a ha

theorem others_sublist (before after : List Task) (task : Task) :
    (before ++ after).Sublist (before ++ task :: after) :=
  (List.sublist_cons_self task after).append_left before

theorem tracked_of_mem (h : s.Sound (before ++ task :: after)) {other : Task}
    (hother : other ∈ before ++ after) (hn : other.name = task.name) :
    (s.tracked.get? task.name).isSome := by
  obtain ⟨-, hafter, hbefore⟩ := List.pairwise_append.1 h.alone
  cases List.mem_append.1 hother with
  | inl hmem => exact hn ▸ hbefore other hmem task List.mem_cons_self hn
  | inr hmem => exact (List.pairwise_cons.1 hafter).1 other hmem hn.symm

theorem noteSuccess (h : s.Sound (before ++ task :: after)) (hl : now.isLeap = false) :
    (s.noteSuccess task outcome now).Sound (before ++ after) where
  plain := by
    rintro name due ⟨t, ht, hdue⟩
    rw [get?_noteSuccess] at ht
    split at ht
    · obtain ⟨t, -, rfl⟩ := Option.map_eq_some_iff.1 ht
      cases outcome with
      | done => cases hdue
      | again delay =>
        cases hdue
        exact Instant.isLeap_after hl
    · exact h.plain name due ⟨t, ht, hdue⟩
  waits := by
    intro name t ht hv
    rw [get?_noteSuccess] at ht
    split at ht
    · next hn =>
      subst hn
      obtain ⟨known, hknown, rfl⟩ := Option.map_eq_some_iff.1 ht
      cases hv.symm.trans (h.live task (by simp) known hknown)
    · exact h.waits name t ht hv
  live := by
    intro other hother t ht
    have hmem := (others_sublist before after task).subset hother
    rw [get?_noteSuccess] at ht
    split at ht
    · obtain ⟨known, hknown, rfl⟩ := Option.map_eq_some_iff.1 ht
      exact h.live other hmem known hknown
    · exact h.live other hmem t ht
  alone := by
    refine (h.alone.sublist (others_sublist before after task)).imp fun tracked hn => ?_
    rw [get?_noteSuccess]
    split
    · rw [Option.isSome_map]
      exact tracked hn
    · exact tracked hn

theorem noteFailure (h : s.Sound (before ++ task :: after)) (hl : now.isLeap = false) :
    (s.noteFailure task now).Sound (before ++ after) where
  plain := by
    rintro name due ⟨t, ht, hdue⟩
    rw [get?_noteFailure] at ht
    split at ht
    · cases ht
      cases hdue
      exact Instant.isLeap_after hl
    · exact h.plain name due ⟨t, ht, hdue⟩
  waits := by
    intro name t ht hv
    rw [get?_noteFailure] at ht
    split at ht
    · cases ht
      rfl
    · exact h.waits name t ht hv
  live := by
    intro other hother t ht
    have hmem := (others_sublist before after task).subset hother
    rw [get?_noteFailure] at ht
    split at ht
    · next hn =>
      obtain ⟨known, hknown⟩ := Option.isSome_iff_exists.1 (h.tracked_of_mem hother hn)
      rw [hn, hknown] at ht
      cases ht
      exact h.live task (by simp) known hknown
    · exact h.live other hmem t ht
  alone := by
    refine (h.alone.sublist (others_sublist before after task)).imp fun tracked hn => ?_
    rw [get?_noteFailure]
    split
    · rfl
    · exact tracked hn

end Sound

theorem Reached.sound (h : Reached pause s tasks) : s.Sound tasks := by
  induction h with
  | start => exact .start
  | observed listing now _ ih => exact ih.observe
  | succeeded outcome _ hl ih => exact ih.noteSuccess hl
  | failed _ hl ih => exact ih.noteFailure hl

theorem Sound.observe_eq_nil (h : s.Sound tasks) (same : s.Unchanged listing)
    (ahead : ∀ name due, s.Wakes name due → now < due) : (s.observe listing now).2 = [] := by
  have items : (observeItems now listing s).2 = [] := by
    refine observeItems_eq_nil fun item hitem => ?_
    obtain ⟨t, ht, hv⟩ := (same.shown item.name).1 ⟨item, hitem, rfl⟩
    exact ⟨t, ht, hv, same.same item hitem t ht, fun due hdue => ahead _ due ⟨t, ht, hdue⟩⟩
  refine List.eq_nil_iff_forall_not_mem.2 fun task htask => ?_
  rw [mem_observe, items] at htask
  obtain ⟨t, ht, -⟩ := htask.resolve_left List.not_mem_nil
  obtain ⟨hget, absent, leaves⟩ := mem_gone.1 ht
  rw [get?_observeItems_of_absent now absent] at hget
  cases hv : t.vanished with
  | false =>
    obtain ⟨item, hitem, hn⟩ := (same.shown task.name).2 ⟨t, hget, hv⟩
    exact absent item hitem hn
  | true =>
    obtain ⟨due, hdue⟩ := Option.isSome_iff_exists.1 (h.waits _ t hget hv)
    exact not_le_of_gt (ahead _ due ⟨t, hget, hdue⟩) (Tracked.leaves_iff.1 leaves hv due hdue)

/-- By the clock as it shows now, nothing is to be done until the next wake-up, and then something
is, as long as the requests stay as they are. Right after a listing, the next wake-up lies ahead. -/
structure Punctual (s : Schedule) (now : Instant) : Prop where
  ahead : ∀ listing, ∀ delay ∈ (s.observe listing now).1.nextDue? now, 0 < delay
  woken : ∀ listing, s.Unchanged listing → ∀ delay, s.nextDue? now = some delay →
    ∃ wake, now.add? delay = some wake ∧ (s.observe listing wake).2 ≠ [] ∧
      ∀ t, now ≤ t → t < wake → (s.observe listing t).2 = []
  asleep : ∀ listing, s.Unchanged listing → s.nextDue? now = none →
    ∀ t, now ≤ t → (s.observe listing t).2 = []

theorem Sound.add?_nextDue (h : s.Sound tasks) (hl : now.isLeap = false)
    (hnext : s.nextDue? now = some delay) :
    ∃ first, now.add? delay = some (max now first) ∧ (∃ name, s.Wakes name first) ∧
      ∀ name due, s.Wakes name due → first ≤ due := by
  obtain ⟨first, rfl, ⟨name, hfirst⟩, earliest⟩ := exists_earliest hnext
  exact ⟨first, Instant.add?_since hl (h.plain name first hfirst), ⟨name, hfirst⟩, earliest⟩

theorem Sound.punctual (h : s.Sound tasks) (hl : now.isLeap = false) : s.Punctual now where
  ahead listing delay hnext := by
    obtain ⟨first, rfl, ⟨name, hfirst⟩, -⟩ := exists_earliest hnext
    have hlt : now < first := (wakes_observe hfirst).2
    have hspan := Instant.since_nonneg hlt hl
    have left : first.until? now = some (first.since now).toNat :=
      Instant.until?_eq_some.2 ⟨hlt, (Int.toNat_of_nonneg hspan).symm⟩
    exact Instant.pos_of_until? hl left
  woken listing same delay hnext := by
    obtain ⟨first, hadd, ⟨name, hfirst⟩, earliest⟩ := h.add?_nextDue hl hnext
    refine ⟨_, hadd, ?_, fun t hle hlt => ?_⟩
    · obtain ⟨task, htask, -⟩ := exists_task_of_wakes listing hfirst (le_max_right now first)
      exact List.ne_nil_of_mem htask
    · have before : t < first := (lt_max_iff.1 hlt).resolve_left (not_lt_of_ge hle)
      exact h.observe_eq_nil same fun name due hwakes =>
        lt_of_lt_of_le before (earliest name due hwakes)
  asleep listing same hnext t _ :=
    h.observe_eq_nil same fun name due hwakes => absurd hwakes (nextDue?_eq_none.1 hnext name due)

end Schedule

namespace Worker

open Schedule

variable {keeper : Lifecycle.Keeper} {others : Scene → Scene → Prop} {s s' : Scene}
  {cs : List (Cycle keeper)} {plan₀ plan : Schedule} {runs : List (Run keeper)}
  {tasks : List Task} {pause poll delay : Time.Duration} {now due : Instant}

theorem reached_notes (h : Reached pause plan tasks) (all : (runs.map Run.task).Perm tasks)
    (plain : ∀ run ∈ runs, run.noted.isLeap = false) :
    Reached pause (runs.foldl note plan) [] := by
  induction runs generalizing plan tasks with
  | nil => exact all.nil_eq ▸ h
  | cons run rest ih =>
    have ⟨hrun, hrest⟩ := List.forall_mem_cons.1 plain
    obtain ⟨before, after, rfl⟩ := List.append_of_mem (all.subset List.mem_cons_self)
    have noted : Reached pause (note plan run) (before ++ after) := by
      simp only [note, record]
      split
      · exact h.succeeded _ hrun
      · exact h.failed hrun
    exact ih noted (all.trans List.perm_middle).cons_inv hrest

theorem Service.reached (h : Service others plan₀ s cs plan s') (begun : Reached pause plan₀ [])
    (plain : ∀ c ∈ cs, ∀ run ∈ c.runs, run.noted.isLeap = false) : Reached pause plan [] := by
  induction h with
  | start => exact begun
  | @cycle _ _ _ c _ _ _ leads ih =>
    have ⟨earlier, last⟩ := List.forall_mem_append.1 plain
    have reached := ih earlier
    cases leads with
    | skipped => exact reached
    | worked _ tasks =>
      refine reached_notes (reached.observed _ _) (tasks ▸ c.all.map Run.task) fun run hrun => ?_
      exact List.forall_mem_singleton.1 last run (c.all.subset hrun)

/-- The wait after a cycle does not go on beyond a wake-up that is still to come. If there is no
wait, the cycle that follows runs a task, whatever it lists, or it cannot list. -/
structure Timely (poll : Time.Duration) (plan : Schedule) (now : Instant) : Prop where
  short : ∀ name due, plan.Wakes name due →
    (now.add? (wait poll plan now)).getD .latest ≤ max now due
  busy : 0 < poll → wait poll plan now = 0 →
    ∀ {keeper others s plan' s'} {c : Cycle keeper}, c.Leads others plan s plan' s' → now ≤ c.seen →
      (∃ fault, c.listing = .error fault) ∨ c.runs ≠ []

theorem timely (h : plan.Sound tasks) (hl : now.isLeap = false) : Timely poll plan now where
  short name due hwakes := by
    cases hnext : plan.nextDue? now with
    | none => exact absurd hwakes (nextDue?_eq_none.1 hnext name due)
    | some delay =>
      obtain ⟨first, hadd, -, earliest⟩ := h.add?_nextDue hl hnext
      have hwait : (wait poll plan now : Int) ≤ delay := by
        rw [wait, hnext]
        exact Int.ofNat_le.2 (Nat.min_le_right poll delay)
      calc
        (now.add? (wait poll plan now)).getD .latest ≤ (now.add? delay).getD .latest :=
          Instant.getD_add?_le hl (Int.natCast_nonneg _) hwait
        _ = max now first := by rw [hadd, Option.getD_some]
        _ ≤ max now due := max_le_max (le_refl now) (earliest name due hwakes)
  busy positive hwait := by
    intro keeper others s plan' s' c leads later
    cases leads with
    | skipped hlisting => exact .inl ⟨_, hlisting⟩
    | worked _ hruns =>
      refine .inr ?_
      cases hnext : plan.nextDue? now with
      | none =>
        rw [wait, hnext] at hwait
        exact absurd hwait (Nat.ne_of_gt positive)
      | some delay =>
        obtain rfl : delay = 0 := by
          rw [wait, hnext] at hwait
          exact (Nat.min_eq_zero_iff.1 hwait).resolve_left (Nat.ne_of_gt positive)
        obtain ⟨first, hadd, ⟨name, hfirst⟩, -⟩ := h.add?_nextDue hl hnext
        have passed : first ≤ now := by
          have stays : now.add? (0 : Nat) = some now :=
            Instant.add?_eq_some_of_sinceEpoch hl hl (by simp)
          rw [stays, Option.some.injEq] at hadd
          exact hadd ▸ le_max_right now first
        obtain ⟨task, htask, -⟩ := exists_task_of_wakes _ hfirst (le_trans passed later)
        rw [← hruns] at htask
        exact List.ne_nil_of_mem (List.mem_map.1 htask).choose_spec.1

end Worker

namespace Schedule

variable {s : Schedule} {now : Instant} {pause : Time.Duration}

/-- Wake-ups are neither missed nor spun on, and the schedules of the worker come about as it is
required for that. -/
theorem wakes_in_time (hl : now.isLeap = false) :
    (∀ tasks, Reached pause s tasks → s.Punctual now ∧ ∀ poll, Worker.Timely poll s now) ∧
      ∀ keeper others s₀ s₁ (cs : List (Worker.Cycle keeper)),
        Worker.Service others (.start pause) s₀ cs s s₁ →
        (∀ c ∈ cs, ∀ run ∈ c.runs, run.noted.isLeap = false) → Reached pause s [] := by
  constructor
  · intro tasks reached
    exact ⟨reached.sound.punctual hl, fun _ => Worker.timely reached.sound hl⟩
  · intro keeper others s₀ s₁ cs service plain
    exact service.reached .start plain

end Schedule

namespace Sample

theorem gained_wakes_in_time :
    gained.nextDue? spec.start = some 60000000000 ∧ Schedule.Reached pause gained [] ∧
      gained.Punctual spec.start ∧ ∀ poll, Worker.Timely poll gained spec.start := by
  have plain : ∀ c ∈ [gain], ∀ run ∈ c.runs, run.noted.isLeap = false := by decide +kernel
  have hl : spec.start.isLeap = false := by decide +kernel
  have reached : Schedule.Reached pause gained [] :=
    (Schedule.wakes_in_time hl).2 _ _ _ _ _ gain_service plain
  exact ⟨by decide +kernel, reached, (Schedule.wakes_in_time hl).1 _ reached⟩

end Sample

end AccessWindow
