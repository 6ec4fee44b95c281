import AccessWindow.Proofs.Pending
import Mathlib.Data.List.Basic

/-! A schedule as machines that run side by side, one for each name. A machine is told only what
concerns its name, and what the schedule hands out after a listing is what the machines hand out:
those of the listed names in the order of the listing, then the others in the order of their
names. -/

namespace AccessWindow.Schedule

open Time

/-- What is known of one name. A request that is gone is remembered while a clean-up is owed. -/
inductive Watch
  | unknown
  | present (version : Option String) (namespaces : List String) (wake : Option Instant)
  | owed (namespaces : List String) (wake : Option Instant)
  deriving DecidableEq

inductive Word
  | shown (version : Option String) (namespaces : List String) (now : Instant)
  | missed (now : Instant)
  | succeeded (outcome : Lifecycle.Outcome) (now : Instant)
  | failed (namespaces : List String) (now : Instant)
  deriving DecidableEq

def wakeAfter (now : Instant) : Lifecycle.Outcome → Option Instant
  | .done => none
  | .again delay => some (now.after delay)

namespace Watch

def hear (pause : Duration) : Watch → Word → Watch × Option (Trigger × List String)
  | .present version _ wake, .shown version' scopes now =>
    if version ≠ version' then (.present version' scopes none, some (.changed, scopes))
    else if wake.any (· ≤ now) then (.present version' scopes none, some (.due, scopes))
    else (.present version' scopes wake, none)
  | _, .shown version scopes _ => (.present version scopes none, some (.firstSeen, scopes))
  | .unknown, .missed _ => (.unknown, none)
  | .present _ scopes _, .missed _ => (.unknown, some (.vanished, scopes))
  | .owed scopes wake, .missed now =>
    if wake.all (· ≤ now) then (.unknown, some (.vanished, scopes)) else (.owed scopes wake, none)
  | .unknown, .succeeded _ _ => (.unknown, none)
  | .present version scopes _, .succeeded outcome now =>
    (.present version scopes (wakeAfter now outcome), none)
  | .owed scopes _, .succeeded outcome now => (.owed scopes (wakeAfter now outcome), none)
  | .unknown, .failed scopes now => (.owed scopes (some (now.after pause)), none)
  | .present version scopes _, .failed _ now =>
    (.present version scopes (some (now.after pause)), none)
  | .owed scopes _, .failed _ now => (.owed scopes (some (now.after pause)), none)

end Watch

namespace Step

def word? (name : String) : Step → Option Word
  | observed listing now =>
    match listing.find? fun item => item.name = name with
    | some item => some (.shown item.version item.namespaces now)
    | none => some (.missed now)
  | succeeded task outcome now => if task.name = name then some (.succeeded outcome now) else none
  | failed task now => if task.name = name then some (.failed task.namespaces now) else none

/-- No listing shows a name twice. -/
def Distinct : Step → Prop
  | observed listing _ => (listing.map Listed.name).Nodup
  | _ => True

end Step

namespace Watch

def told (pause : Duration) (watch : Watch) : Option Word → Watch
  | none => watch
  | some word => (watch.hear pause word).1

def after (pause : Duration) (name : String) (steps : List Step) : Watch :=
  steps.foldl (fun watch step => watch.told pause (step.word? name)) .unknown

def task? (pause : Duration) (name : String) (watch : Watch) (word : Word) : Option Task :=
  (watch.hear pause word).2.map fun (trigger, scopes) => ⟨name, scopes, trigger⟩

/-- The tasks are those of all machines after a listing: first of the names that it shows, in its
order, then of the names that it misses, in their own order, and no name has two. -/
structure HandsOut (pause : Duration) (watch : String → Watch) (listing : List Listed)
    (now : Instant) (tasks : List Task) : Prop where
  once : (tasks.map Task.name).Nodup
  inOrder : ∃ missed,
    tasks = (listing.filterMap fun item =>
      (watch item.name).task? pause item.name (.shown item.version item.namespaces now)) ++ missed ∧
    missed.Pairwise (fun a b => a.name < b.name) ∧
    ∀ task, task ∈ missed ↔ (∀ item ∈ listing, item.name ≠ task.name) ∧
      (watch task.name).task? pause task.name (.missed now) = some task

def ofTracked : Option Tracked → Watch
  | none => .unknown
  | some t =>
    if t.vanished then .owed t.namespaces t.due else .present t.version t.namespaces t.due

end Watch

variable {s : Schedule} {listing : List Listed} {item : Listed} {now : Instant} {name : String}
  {task : Task} {step : Step} {steps : List Step} {pause : Duration} {before : Option Tracked}
  {t : Tracked}

namespace Watch

theorem hear_shown :
    (ofTracked before).hear pause (.shown item.version item.namespaces now) =
      (ofTracked (some (.listed before item now)),
        (Tracked.trigger? before item now).map fun trigger => (trigger, item.namespaces)) := by
  cases before with
  | none => rfl
  | some t =>
    obtain ⟨version, scopes, due, vanished⟩ := t
    cases vanished with
    | true => rfl
    | false =>
      have any_le : due.any (· ≤ now) = (⟨version, scopes, due, false⟩ : Tracked).isDue now := by
        rw [Tracked.isDue]
        cases due <;> rfl
      by_cases hversion : version = item.version
      · subst hversion
        cases hdue : (⟨item.version, scopes, due, false⟩ : Tracked).isDue now <;>
          simp [ofTracked, Tracked.listed, Tracked.trigger?, hear, any_le, hdue]
      · simp [ofTracked, Tracked.listed, Tracked.trigger?, hear, hversion]

theorem hear_missed :
    (ofTracked (some t)).hear pause (.missed now) =
      if t.leaves now then (.unknown, some (.vanished, t.namespaces))
      else (ofTracked (some t), none) := by
  rw [ofTracked, Tracked.leaves]
  cases hv : t.vanished with
  | false => simp [hear]
  | true =>
    cases hdue : t.due with
    | none => simp [hear]
    | some due => simp [hear, Tracked.isDue, hdue]

end Watch

theorem find?_of_mem (distinct : (listing.map Listed.name).Nodup) (h : item ∈ listing) :
    (listing.find? fun other => other.name = item.name) = some item := by
  induction listing with
  | nil => cases h
  | cons first rest ih =>
    have ⟨hfirst, hrest⟩ := List.nodup_cons.1 distinct
    cases List.mem_cons.1 h with
    | inl h =>
      subst h
      simp
    | inr h =>
      have hne : first.name ≠ item.name := fun hn => hfirst (hn ▸ List.mem_map_of_mem h)
      rw [List.find?_cons_of_neg (by simpa using hne), ih hrest h]

theorem word?_of_mem (distinct : (listing.map Listed.name).Nodup) (h : item ∈ listing) :
    (Step.observed listing now).word? item.name =
      some (.shown item.version item.namespaces now) := by
  rw [Step.word?, find?_of_mem distinct h]

theorem word?_of_absent (absent : ∀ item ∈ listing, item.name ≠ name) :
    (Step.observed listing now).word? name = some (.missed now) := by
  have none_found : (listing.find? fun item => item.name = name) = none := by
    simpa using absent
  rw [Step.word?, none_found]

theorem observeItems_of_distinct (distinct : (listing.map Listed.name).Nodup) :
    (∀ item ∈ listing, (observeItems now listing s).1.tracked.get? item.name =
        some (.listed (s.tracked.get? item.name) item now)) ∧
      (observeItems now listing s).2 = listing.filterMap fun item =>
        (Tracked.trigger? (s.tracked.get? item.name) item now).map fun trigger =>
          ⟨item.name, item.namespaces, trigger⟩ := by
  induction listing generalizing s with
  | nil => exact ⟨by simp, rfl⟩
  | cons first rest ih =>
    have ⟨hfirst, hrest⟩ := List.nodup_cons.1 distinct
    have others : ∀ item ∈ rest, item.name ≠ first.name :=
      fun item hi hn => hfirst (hn ▸ List.mem_map_of_mem hi)
    have same : ∀ item ∈ rest, (s.observeItem now first).1.tracked.get? item.name =
        s.tracked.get? item.name :=
      fun item hi => by rw [get?_observeItem, if_neg (others item hi)]
    obtain ⟨kept, handed⟩ := ih hrest (s := (s.observeItem now first).1)
    rw [observeItems_cons]
    constructor
    · intro item hi
      cases List.mem_cons.1 hi with
      | inl hi =>
        subst hi
        rw [get?_observeItems_of_absent now others, get?_observeItem, if_pos rfl]
      | inr hi => rw [kept item hi, same item hi]
    · rw [handed, List.filterMap_cons, List.filterMap_congr fun item hi => by rw [same item hi]]
      simp only [observeItem]
      cases Tracked.trigger? (s.tracked.get? first.name) first now <;> rfl

def cleanUps (s : Schedule) (listing : List Listed) (now : Instant) : List Task :=
  ((observeItems now listing s).1.gone listing now).map fun (name, t) =>
    ⟨name, t.namespaces, .vanished⟩

theorem observe_eq_append :
    (s.observe listing now).2 = (observeItems now listing s).2 ++ s.cleanUps listing now := rfl

theorem cleanUps_pairwise : (s.cleanUps listing now).Pairwise fun a b => a.name < b.name :=
  List.pairwise_map.2 ((observeItems now listing s).1.tracked.ordered.filter _)

theorem mem_cleanUps :
    task ∈ s.cleanUps listing now ↔ (∀ item ∈ listing, item.name ≠ task.name) ∧
      (Watch.ofTracked (s.tracked.get? task.name)).task? pause task.name (.missed now) =
        some task := by
  have entry : task ∈ s.cleanUps listing now ↔ ∃ t,
      (task.name, t) ∈ (observeItems now listing s).1.gone listing now ∧
        task = ⟨task.name, t.namespaces, .vanished⟩ := by
    rw [cleanUps, List.mem_map]
    constructor
    · rintro ⟨⟨name, t⟩, ht, rfl⟩
      exact ⟨t, ht, rfl⟩
    · rintro ⟨t, ht, htask⟩
      exact ⟨(task.name, t), ht, htask.symm⟩
  rw [entry]
  constructor
  · rintro ⟨t, ht, htask⟩
    obtain ⟨hget, absent, leaves⟩ := mem_gone.1 ht
    rw [get?_observeItems_of_absent now absent] at hget
    rw [hget, Watch.task?, Watch.hear_missed, if_pos leaves]
    exact ⟨absent, congrArg some htask.symm⟩
  · rintro ⟨absent, handed⟩
    cases hget : s.tracked.get? task.name with
    | none =>
      rw [hget] at handed
      cases handed
    | some t =>
      rw [hget, Watch.task?, Watch.hear_missed] at handed
      split at handed
      · next leaves =>
        have hgone := (get?_observeItems_of_absent now absent).trans hget
        exact ⟨t, mem_gone.2 ⟨hgone, absent, leaves⟩, (Option.some.inj handed).symm⟩
      · cases handed

theorem Step.ofTracked_apply (distinct : step.Distinct) :
    Watch.ofTracked ((step.apply s).1.tracked.get? name) =
      (Watch.ofTracked (s.tracked.get? name)).told s.pause (step.word? name) := by
  cases step with
  | observed listing now =>
    by_cases shown : ∃ item ∈ listing, item.name = name
    · obtain ⟨item, hitem, rfl⟩ := shown
      rw [word?_of_mem distinct hitem, Watch.told, Watch.hear_shown, Step.apply, get?_observe,
        if_neg, (observeItems_of_distinct distinct).1 item hitem]
      rintro hgone
      obtain ⟨⟨_, t⟩, hmem, hn⟩ := List.mem_map.1 hgone
      exact (mem_gone.1 hmem).2.1 item hitem hn.symm
    · have absent : ∀ item ∈ listing, item.name ≠ name := fun item hi hn => shown ⟨item, hi, hn⟩
      have kept : (s.observe listing now).1.tracked.get? name =
          (s.tracked.get? name).filter fun t => !t.leaves now := by
        refine Option.ext fun t => ?_
        simp [get?_observe_of_absent absent, Option.filter_eq_some_iff]
      rw [word?_of_absent absent, Watch.told, Step.apply, kept]
      cases hget : s.tracked.get? name with
      | none => rfl
      | some t =>
        rw [Watch.hear_missed]
        cases hl : t.leaves now <;> simp [Option.filter, hl, Watch.ofTracked]
  | succeeded task outcome now =>
    simp only [Step.apply, get?_noteSuccess, Step.word?, eq_comm (a := name)]
    split
    · cases s.tracked.get? name with
      | none => rfl
      | some t =>
        cases hv : t.vanished <;> cases outcome <;>
          simp [Watch.told, Watch.ofTracked, hv, Watch.hear, wakeAfter]
    · rfl
  | failed task now =>
    simp only [Step.apply, get?_noteFailure, Step.word?, eq_comm (a := name)]
    split
    · cases s.tracked.get? name with
      | none => rfl
      | some t => cases hv : t.vanished <;> simp [Watch.told, Watch.ofTracked, hv, Watch.hear]
    · rfl

theorem ofTracked_run (distinct : ∀ step ∈ steps, step.Distinct) :
    Watch.ofTracked ((run steps s).1.tracked.get? name) =
      steps.foldl (fun watch step => watch.told s.pause (step.word? name))
        (Watch.ofTracked (s.tracked.get? name)) := by
  induction steps generalizing s with
  | nil => rfl
  | cons step rest ih =>
    have ⟨hstep, hrest⟩ := List.forall_mem_cons.1 distinct
    rw [run_cons, ih hrest, Step.pause_apply, Step.ofTracked_apply hstep, List.foldl_cons]

theorem names_observeItems :
    ((observeItems now listing s).2.map Task.name).Sublist (listing.map Listed.name) := by
  induction listing generalizing s with
  | nil => exact .slnil
  | cons item rest ih =>
    rw [observeItems_cons, List.map_append, List.map_cons]
    cases htrigger : Tracked.trigger? (s.tracked.get? item.name) item now with
    | none => simpa [observeItem, htrigger] using ih.cons item.name
    | some trigger => simpa [observeItem, htrigger] using ih.cons_cons item.name

theorem names_nodup (distinct : (listing.map Listed.name).Nodup) :
    ((s.observe listing now).2.map Task.name).Nodup := by
  rw [observe_eq_append, List.map_append, List.nodup_append]
  refine ⟨distinct.sublist names_observeItems, ?_, ?_⟩
  · refine List.pairwise_map.2 (cleanUps_pairwise.imp fun h hn => ?_)
    exact String.lt_irrefl _ (hn ▸ h)
  · rintro name hshown _ hgone rfl
    obtain ⟨item, hitem, rfl⟩ := List.mem_map.1 (names_observeItems.subset hshown)
    obtain ⟨task, htask, hn⟩ := List.mem_map.1 hgone
    obtain ⟨absent, -⟩ := (mem_cleanUps : _ ↔ _ ∧ Watch.task? s.pause _ _ _ = _).1 htask
    exact absent item hitem hn.symm

theorem handsOut_observe (listed : (listing.map Listed.name).Nodup) :
    Watch.HandsOut pause (fun name => .ofTracked (s.tracked.get? name)) listing now
      (s.observe listing now).2 where
  once := names_nodup listed
  inOrder := by
    refine ⟨s.cleanUps listing now, ?_, cleanUps_pairwise, fun task => mem_cleanUps⟩
    refine congrArg (· ++ _) ((observeItems_of_distinct listed).2.trans ?_)
    refine List.filterMap_congr fun item _ => ?_
    rw [Watch.task?, Watch.hear_shown, Option.map_map]
    rfl

/-- A schedule knows of each name what the machine of that name knows, which is told nothing of the
others, and hands out after a listing what the machines hand out. -/
theorem runs_as_watches (distinct : ∀ step ∈ steps, step.Distinct)
    (listed : (listing.map Listed.name).Nodup) :
    (∀ name, .ofTracked ((run steps (start pause)).1.tracked.get? name) =
        Watch.after pause name steps) ∧
      Watch.HandsOut pause (fun name => .after pause name steps) listing now
        ((run steps (start pause)).1.observe listing now).2 := by
  have known : ∀ name, .ofTracked ((run steps (start pause)).1.tracked.get? name) =
      Watch.after pause name steps := fun name => ofTracked_run distinct
  exact ⟨known, funext known ▸ handsOut_observe listed⟩

namespace Sample

def pair : List Listed := [⟨"jit-2", some "1", ["team-b"]⟩, ⟨"jit-1", some "1", ["team-a"]⟩]

def departure : List Step := [
  .observed pair .epoch,
  .succeeded ⟨"jit-2", ["team-b"], .firstSeen⟩ (.again (.ofSeconds 5)) .epoch,
  .observed [⟨"jit-2", some "1", ["team-b"]⟩] .epoch,
  .failed cleanUp .epoch]

def survivor : Listed := ⟨"jit-2", some "1", ["team-b"]⟩

theorem departure_as_watches :
    (∀ name, .ofTracked ((run departure (start (.ofSeconds 10))).1.tracked.get? name) =
        Watch.after (.ofSeconds 10) name departure) ∧
      Watch.HandsOut (.ofSeconds 10) (fun name => .after (.ofSeconds 10) name departure) [survivor]
        atRetry ((run departure (start (.ofSeconds 10))).1.observe [survivor] atRetry).2 := by
  refine runs_as_watches ?_ (by decide)
  simp [departure, Step.Distinct, pair]

example : ((run departure (start (.ofSeconds 10))).1.observe [survivor] atRetry).2 =
    [⟨"jit-2", ["team-b"], .due⟩, ⟨"jit-1", ["team-a"], .vanished⟩] := by
  decide +kernel

end Sample

end AccessWindow.Schedule
