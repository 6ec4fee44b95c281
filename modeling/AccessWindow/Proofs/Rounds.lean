import AccessWindow.Proofs.Service
import AccessWindow.Proofs.Waits
import Mathlib.Data.List.Perm.Basic

/-! The cycles of the worker in a world. The jobs of a cycle go on in turns, each up to its next
wait, so that what they do is shuffled; the shuffled moments are those of a cycle of the worker. -/

namespace AccessWindow.Rehearsal

open Lifecycle Worker

variable {w w' : World} {s s' : Scene} {name : String}

theorem exists_map_of_perm {α β : Type*} {f : α → β} {xs : List α} {ys : List β}
    (h : ys.Perm (xs.map f)) : ∃ zs : List α, ys = zs.map f ∧ zs.Perm xs :=
  (congrFun (congrFun (List.eq_map_comp_perm f) ys) xs).mpr h

def Jobs.pending (jobs : Jobs) : List Job :=
  jobs.ready ++ jobs.queue ++ jobs.asleep.map Prod.snd

/-- Every task has its place, at which it is still going or has been run to its end. -/
structure Shares (keeper : Keeper) (tasks : List Schedule.Task) (work : List (Nat × Moment))
    (ended : List (Nat × Run keeper)) (going : List (Nat × Job)) : Prop where
  places : (going.map Prod.fst ++ ended.map Prod.fst).Perm (List.range tasks.length)
  going : ∀ x ∈ going, tasks[x.1]? = some x.2.task ∧
    (Worker.task keeper x.2.task).Reaches ((momentsAt work x.1).map Moment.said) x.2.program
  ended : ∀ x ∈ ended, tasks[x.1]? = some x.2.task ∧ x.2.moments = momentsAt work x.1
  placed : ∀ x ∈ work, x.1 < tasks.length

namespace Shares

variable {keeper : Keeper} {tasks : List Schedule.Task} {work : List (Nat × Moment)}
  {ended : List (Nat × Run keeper)} {going going' : List (Nat × Job)} {i : Nat} {job : Job}
  {rest : Program Outcome} {ms : List Moment}

theorem perm (h : Shares keeper tasks work ended going) (hp : going.Perm going') :
    Shares keeper tasks work ended going' where
  places := ((hp.symm.map Prod.fst).append_right _).trans h.places
  going x hx := h.going x (hp.symm.subset hx)
  ended := h.ended
  placed := h.placed

theorem start : Shares keeper tasks [] []
    (tasks.zipIdx.map fun x => (x.2, ⟨x.1, Worker.task keeper x.1⟩)) where
  places := by
    have places : tasks.zipIdx.map Prod.snd = List.range tasks.length := by
      rw [List.zipIdx_map_snd, List.range_eq_range']
    simpa [Function.comp_def] using List.Perm.of_eq places
  going x hx := by
    obtain ⟨⟨t, i⟩, ht, rfl⟩ := List.mem_map.1 hx
    exact ⟨List.mem_zipIdx_iff_getElem?.1 ht, .here⟩
  ended := by simp
  placed := by simp

theorem went (h : Shares keeper tasks work ended ((i, job) :: going))
    (reaches : job.program.Reaches (ms.map Moment.said) rest) :
    Shares keeper tasks (work ++ ms.map (Prod.mk i)) ended ((i, ⟨job.task, rest⟩) :: going) := by
  -- No place is taken twice, so that the parts of the other tasks do not grow.
  have nodup := h.places.nodup_iff.2 List.nodup_range
  simp only [List.map_cons, List.cons_append, List.nodup_cons, List.mem_append, List.mem_map,
    not_or] at nodup
  obtain ⟨⟨apart, apart'⟩, -⟩ := nodup
  obtain ⟨hi, mine⟩ := h.going _ List.mem_cons_self
  constructor
  · exact h.places
  · rintro x hx
    cases List.mem_cons.1 hx with
    | inl hx =>
      subst hx
      refine ⟨hi, ?_⟩
      simpa using mine.trans reaches
    | inr hx =>
      have hne : i ≠ x.1 := fun h => apart ⟨x, hx, h.symm⟩
      simpa [hne] using h.going x (List.mem_cons_of_mem _ hx)
  · intro x hx
    have hne : i ≠ x.1 := fun h => apart' ⟨x, hx, h.symm⟩
    simpa [hne] using h.ended x hx
  · intro x hx
    cases List.mem_append.1 hx with
    | inl hx => exact h.placed x hx
    | inr hx =>
      obtain ⟨m, -, rfl⟩ := List.mem_map.1 hx
      exact (List.getElem?_eq_some_iff.1 hi).1

theorem finished {result : Except Fault Outcome} {task : Schedule.Task} (noted : Instant)
    (h : Shares keeper tasks work ended ((i, ⟨task, .done result⟩) :: going)) :
    ∃ run : Run keeper, run.task = task ∧ run.result = result ∧ run.noted = noted ∧
      Shares keeper tasks work (ended ++ [(i, run)]) going := by
  obtain ⟨hi, mine⟩ := h.going _ List.mem_cons_self
  refine ⟨⟨task, momentsAt work i, result, noted, mine.dialogue⟩, rfl, rfl, rfl, ?_, ?_, ?_,
    h.placed⟩
  · refine List.Perm.trans ?_ h.places
    rw [List.map_append, ← List.append_assoc, List.map_singleton]
    exact List.perm_append_singleton i _
  · exact fun x hx => h.going x (List.mem_cons_of_mem _ hx)
  · intro x hx
    cases List.mem_append.1 hx with
    | inl hx => exact h.ended x hx
    | inr hx =>
      cases List.mem_singleton.1 hx
      exact ⟨hi, rfl⟩

end Shares

/-- The jobs of a cycle are under way in a world: they share out what has been done, those that wait
wait for a time to come, and nothing is kept waiting for a place that is free. -/
structure Underway (keeper : Keeper) (tasks : List Schedule.Task) (name : String)
    (work : List (Nat × Moment)) (ended : List (Nat × Run keeper)) (jobs : Jobs) (w : World)
    (s : Scene) : Prop where
  shows : w.Shows s
  calm : w.Calm name
  shared : ∃ going, (going.map Prod.snd).Perm jobs.pending ∧ Shares keeper tasks work ended going
  waits : ∀ e ∈ jobs.asleep, w.slept < e.1
  busy : jobs.queue ≠ [] → jobs.ready ≠ [] ∨ jobs.asleep ≠ []

namespace Underway

variable {keeper : Keeper} {tasks : List Schedule.Task} {work : List (Nat × Moment)}
  {ended : List (Nat × Run keeper)} {jobs : Jobs} {job : Job} {ready queue : List Job}
  {asleep : List (Time.Duration × Job)}
  {results : List (Schedule.Task × Except Fault Outcome)} {result : Except Fault Outcome}
  {noted : Instant} {count : Nat}

theorem exists_place
    (h : Underway keeper tasks name work ended ⟨job :: ready, queue, asleep, results⟩ w s) :
    ∃ i going, going.map Prod.snd = ready ++ queue ++ asleep.map Prod.snd ∧
      Shares keeper tasks work ended ((i, job) :: going) := by
  obtain ⟨going, hp, shares⟩ := h.shared
  obtain ⟨going', hmap, hp'⟩ := exists_map_of_perm hp.symm
  cases going' with
  | nil => cases hmap
  | cons x going' =>
    obtain ⟨i, job'⟩ := x
    obtain ⟨rfl, hrest⟩ := List.cons.inj hmap
    exact ⟨i, going', hrest.symm, shares.perm hp'.symm⟩

theorem finished (noted : Instant)
    (h : Underway keeper tasks name work ended ⟨job :: ready, queue, asleep, results⟩ w s)
    (hrun : World.runToWait job.program w = (.finished result, w')) :
    ∃ ms x s', Course (Scene.Undisturbed name) s (ms.map Prod.snd) s' ∧ w'.slept = w.slept ∧
      x.2.task = job.task ∧ x.2.result = result ∧ x.2.noted = noted ∧
      Underway keeper tasks name (work ++ ms) (ended ++ [x])
        ⟨ready ++ queue.take 1, queue.drop 1, asleep, results ++ [(job.task, result)]⟩ w' s' := by
  obtain ⟨i, going, hmap, shares⟩ := h.exists_place
  obtain ⟨ms, s', course, reaches, shows, calm, slept⟩ :=
    h.shows.runToWait h.calm (p := job.program)
  rw [hrun] at reaches shows calm slept
  obtain ⟨run, htask, hresult, hnoted, shares⟩ := (shares.went reaches).finished noted
  refine ⟨ms.map (Prod.mk i), (i, run), s', ?_, slept, htask, hresult, hnoted, shows, calm,
    ⟨going, ?_, shares⟩, ?_, ?_⟩
  · simpa [Function.comp_def] using course
  · rw [Jobs.pending]
    dsimp only
    rw [hmap, List.append_assoc ready (queue.take 1), List.take_append_drop]
  · intro e he
    exact slept ▸ h.waits e he
  · intro hq
    cases queue with
    | nil => cases hq rfl
    | cons => exact .inl (by simp)

theorem slumbers {span : Time.Duration} {rest : Program Outcome}
    (h : Underway keeper tasks name work ended ⟨job :: ready, queue, asleep, results⟩ w s)
    (hrun : World.runToWait job.program w = (.asleep span rest, w')) :
    ∃ ms s', Course (Scene.Undisturbed name) s (ms.map Prod.snd) s' ∧ w'.slept = w.slept ∧
      Underway keeper tasks name (work ++ ms) ended
        ⟨ready, queue, asleep ++ [(w'.slept + span, ⟨job.task, rest⟩)], results⟩ w' s' := by
  obtain ⟨i, going, hmap, shares⟩ := h.exists_place
  obtain ⟨ms, s', course, reaches, shows, calm, slept⟩ :=
    h.shows.runToWait h.calm (p := job.program)
  have later : 0 < span := World.lt_of_asleep (congrArg Prod.fst hrun)
  rw [hrun] at reaches shows calm slept
  refine ⟨ms.map (Prod.mk i), s', ?_, slept, shows, calm,
    ⟨_, ?_, shares.went reaches⟩, ?_, ?_⟩
  · simpa [Function.comp_def] using course
  · rw [List.map_cons, hmap, Jobs.pending, List.map_append, ← List.append_assoc]
    exact (List.perm_append_singleton _ _).symm
  · intro e he
    cases List.mem_append.1 he with
    | inl he => exact slept ▸ h.waits e he
    | inr he =>
      cases List.mem_singleton.1 he
      exact Nat.lt_add_of_pos_right later
  · exact fun _ => .inr (by simp)

theorem drain (noted : Instant) (h : Underway keeper tasks name work ended jobs w s)
    (enough : jobs.ready.length + jobs.queue.length ≤ count) :
    ∃ ms more s', Course (Scene.Undisturbed name) s (ms.map Prod.snd) s' ∧
      Underway keeper tasks name (work ++ ms) (ended ++ more) (Loop.drain count jobs w).1
        (Loop.drain count jobs w).2 s' ∧
      (Loop.drain count jobs w).1.ready = [] ∧ (Loop.drain count jobs w).2.slept = w.slept ∧
      (Loop.drain count jobs w).1.results =
        jobs.results ++ more.map (fun x => (x.2.task, x.2.result)) ∧
      ∀ x ∈ more, x.2.noted = noted := by
  induction count generalizing jobs w s work ended with
  | zero =>
    have hready : jobs.ready = [] := by
      rw [← List.length_eq_zero_iff]
      omega
    exact ⟨[], [], s, .last .refl, by simpa [Loop.drain] using h, hready, rfl, by simp [Loop.drain],
      by simp⟩
  | succ count ih =>
    obtain ⟨ready, queue, asleep, results⟩ := jobs
    cases ready with
    | nil =>
      exact ⟨[], [], s, .last .refl, by simpa [Loop.drain] using h, rfl, rfl, by simp [Loop.drain],
        by simp⟩
    | cons job ready =>
      simp only [List.length_cons] at enough
      cases hrun : World.runToWait job.program w with
      | mk paused w₁ =>
      cases paused with
      | finished result =>
        obtain ⟨ms, x, s₁, course, slept, htask, hresult, hnoted, h⟩ := h.finished noted hrun
        have enough : (ready ++ queue.take 1).length + (queue.drop 1).length ≤ count := by
          simp only [List.length_append, List.length_take, List.length_drop]
          omega
        obtain ⟨ms', more, s₂, course', h, hready, slept', hresults, hnoted'⟩ := ih h enough
        have hdrain : Loop.drain (count + 1) ⟨job :: ready, queue, asleep, results⟩ w =
            Loop.drain count ⟨ready ++ queue.take 1, queue.drop 1, asleep,
              results ++ [(job.task, result)]⟩ w₁ := by
          simp only [Loop.drain, hrun]
        rw [hdrain]
        refine ⟨ms ++ ms', x :: more, s₂, ?_, ?_, hready, slept'.trans slept, ?_, ?_⟩
        · rw [List.map_append]
          exact course.append course' .trans
        · simpa using h
        · simpa [htask, hresult] using hresults
        · exact List.forall_mem_cons.2 ⟨hnoted, hnoted'⟩
      | asleep span rest =>
        obtain ⟨ms, s₁, course, slept, h⟩ := h.slumbers hrun
        have enough : ready.length + queue.length ≤ count := by omega
        obtain ⟨ms', more, s₂, course', h, hready, slept', hresults, hnoted⟩ := ih h enough
        have hdrain : Loop.drain (count + 1) ⟨job :: ready, queue, asleep, results⟩ w =
            Loop.drain count ⟨ready, queue, asleep ++ [(w₁.slept + span, ⟨job.task, rest⟩)],
              results⟩ w₁ := by
          simp only [Loop.drain, hrun]
        rw [hdrain]
        refine ⟨ms ++ ms', more, s₂, ?_, ?_, hready, slept'.trans slept, hresults, hnoted⟩
        · rw [List.map_append]
          exact course.append course' .trans
        · simpa using h

theorem woken {moment : Time.Duration} {agenda : Agenda}
    (h : Underway keeper tasks name work ended jobs w s) (apart : agenda.Apart name)
    (onward : w.slept ≤ moment) (due : ∃ e ∈ jobs.asleep, e.1 ≤ moment) :
    ∃ s', s.Undisturbed name s' ∧ (Loop.passTo moment agenda w).1.Apart name ∧
      Underway keeper tasks name work ended
        ⟨(jobs.asleep.filter fun e => e.1 ≤ moment).map (·.2) ++ jobs.ready, jobs.queue,
          jobs.asleep.filter fun e => !(e.1 ≤ moment), []⟩ (Loop.passTo moment agenda w).2 s' := by
  obtain ⟨s', idle, shows, calm, apart⟩ := h.shows.passTo h.calm apart onward
  obtain ⟨going, hp, shares⟩ := h.shared
  refine ⟨s', idle, apart, shows, calm, ⟨going, hp.trans ?_, shares⟩, ?_, ?_⟩
  · have split := (List.filter_append_perm (fun e => e.1 ≤ moment) jobs.asleep).map Prod.snd
    rw [List.map_append] at split
    simp only [Jobs.pending, List.append_assoc]
    refine ((split.symm.append_left jobs.queue).append_left jobs.ready).trans ?_
    simp only [← List.append_assoc]
    rw [List.append_assoc _ jobs.ready]
    exact List.perm_append_comm.append_right _
  · intro e he
    exact Nat.lt_of_not_le (a := e.1) (b := moment) (by simpa using (List.mem_filter.1 he).2)
  · obtain ⟨e, he, hdue⟩ := due
    have : e.2 ∈ (jobs.asleep.filter fun e => e.1 ≤ moment).map (·.2) :=
      List.mem_map.2 ⟨e, List.mem_filter.2 ⟨he, by simpa using hdue⟩, rfl⟩
    exact fun _ => .inl (List.ne_nil_of_mem (List.mem_append_left _ this))

theorem all_ended (h : Underway keeper tasks name work ended jobs w s) (hready : jobs.ready = [])
    (hasleep : jobs.asleep = []) : Shares keeper tasks work ended [] := by
  obtain ⟨going, hp, shares⟩ := h.shared
  have hqueue : jobs.queue = [] := by
    by_contra hq
    simpa [hready, hasleep] using h.busy hq
  rw [Jobs.pending, hready, hqueue, hasleep] at hp
  rwa [List.map_eq_nil_iff.1 hp.eq_nil] at shares

end Underway

theorem Loop.recordAll_eq {keeper : Keeper} {plan : Schedule} {now : Instant}
    {more : List (Nat × Run keeper)} (h : ∀ x ∈ more, x.2.noted = now) :
    Loop.recordAll plan now (more.map fun x => (x.2.task, x.2.result)) =
      (more.map Prod.snd).foldl note plan := by
  induction more generalizing plan with
  | nil => rfl
  | cons x rest ih =>
    have ⟨hx, hrest⟩ := List.forall_mem_cons.1 h
    subst hx
    exact ih hrest

theorem Underway.finish {keeper : Keeper} {tasks : List Schedule.Task} {work : List (Nat × Moment)}
    {ended : List (Nat × Run keeper)} {jobs : Jobs} {agenda : Agenda} {stop : Time.Duration}
    {fuel : Nat} (plan : Schedule) (h : Underway keeper tasks name work ended jobs w s)
    (unnoted : jobs.results = []) (apart : agenda.Apart name) (enough : stop - w.slept < fuel) :
    ∃ ms more s', Course (Scene.Undisturbed name) s (ms.map Prod.snd) s' ∧
      (Loop.finish stop fuel jobs plan agenda w).2.2.Shows s' ∧
      (Loop.finish stop fuel jobs plan agenda w).2.2.Calm name ∧
      (Loop.finish stop fuel jobs plan agenda w).2.1.Apart name ∧
      ∀ plan', (Loop.finish stop fuel jobs plan agenda w).1 = some plan' →
        Shares keeper tasks (work ++ ms) (ended ++ more) [] ∧
          plan' = (more.map Prod.snd).foldl note plan := by
  induction fuel generalizing jobs agenda plan w s work ended with
  | zero => cases enough
  | succ fuel ih =>
    obtain ⟨ms, more, s₁, course, h, hready, slept, hresults, noted⟩ :=
      h.drain (Loop.drain (jobs.ready.length + jobs.queue.length) jobs w).2.clock (Nat.le_refl _)
    rw [Loop.finish]
    generalize Loop.drain (jobs.ready.length + jobs.queue.length) jobs w = drained at *
    obtain ⟨jobs₁, w₁⟩ := drained
    rw [unnoted, List.nil_append] at hresults
    have recorded : Loop.recordAll plan w₁.clock jobs₁.results =
        (more.map Prod.snd).foldl note plan := by
      rw [hresults]
      exact Loop.recordAll_eq noted
    simp only [recorded]
    cases hasleep : jobs₁.asleep with
    | nil =>
      refine ⟨ms, more, s₁, course, h.shows, h.calm, apart, ?_⟩
      rintro _ ⟨⟩
      exact ⟨h.all_ended hready hasleep, rfl⟩
    | cons e rest =>
      simp only [List.map_cons]
      have hmem : (rest.map (·.1)).foldl min e.1 ∈ e.1 :: rest.map (·.1) := List.min?_mem rfl
      -- What matters of the moment is only that some job waits for it: it is still to come, so
      -- that time passes with each round and the fuel cannot run out before the time is up.
      generalize (rest.map (·.1)).foldl min e.1 = moment at *
      rw [← List.map_cons, ← hasleep] at hmem
      obtain ⟨first, hfirst, rfl⟩ := List.mem_map.1 hmem
      have later := h.waits first hfirst
      split
      · exact ⟨ms, more, s₁, course, h.shows, h.calm, apart, nofun⟩
      · next hstop =>
        obtain ⟨s₂, idle, apart, h⟩ :=
          h.woken apart (Nat.le_of_lt later) ⟨first, hfirst, Nat.le_refl _⟩
        have enough : stop - first.1 < fuel :=
          calc
            stop - first.1 < stop - w₁.slept :=
              Nat.sub_lt_sub_left (Nat.lt_trans later (Nat.lt_of_not_le hstop)) later
            _ ≤ fuel := slept ▸ Nat.le_of_lt_succ enough
        obtain ⟨ms', more', s₃, course', shows, calm, apart, ends⟩ :=
          ih ((more.map Prod.snd).foldl note plan) h rfl apart enough
        rw [← hasleep]
        refine ⟨ms ++ ms', more ++ more', s₃, ?_, shows, calm, apart, ?_⟩
        · rw [List.map_append]
          exact course.append (course'.after idle .trans) .trans
        · intro plan' hplan
          obtain ⟨shares, hplan⟩ := ends plan' hplan
          rw [← List.append_assoc, ← List.append_assoc, List.map_append, List.foldl_append]
          exact ⟨shares, hplan⟩

theorem Shares.exists_runs {keeper : Keeper} {tasks : List Schedule.Task}
    {work : List (Nat × Moment)} {ended : List (Nat × Run keeper)}
    (h : Shares keeper tasks work ended []) :
    ∃ runs : List (Run keeper), (ended.map Prod.snd).Perm runs ∧ runs.map Run.task = tasks ∧
      ∀ i run, runs[i]? = some run → run.moments = momentsAt work i := by
  -- The runs are noted in the order in which they end; in the order of their places they are
  -- those of the tasks.
  obtain ⟨sorted, hrange, hp⟩ := exists_map_of_perm (f := Prod.fst) h.places.symm
  have place {i : Nat} {x : Nat × Run keeper} (hx : sorted[i]? = some x) : x.1 = i := by
    have hi := congrArg (·[i]?) hrange
    simp only [List.getElem?_map, hx, Option.map_some] at hi
    obtain ⟨_, hi⟩ := List.getElem?_eq_some_iff.1 hi
    rw [← hi, List.getElem_range]
  have at_place {i : Nat} {x : Nat × Run keeper} (hx : sorted[i]? = some x) :
      tasks[i]? = some x.2.task ∧ x.2.moments = momentsAt work i :=
    place hx ▸ h.ended x (hp.subset (List.mem_of_getElem? hx))
  have length : sorted.length = tasks.length := by
    simpa using (congrArg List.length hrange).symm
  refine ⟨sorted.map Prod.snd, hp.symm.map Prod.snd, ?_, ?_⟩
  · apply List.ext_getElem?
    intro i
    rw [List.map_map, List.getElem?_map]
    cases hx : sorted[i]? with
    | none =>
      rw [List.getElem?_eq_none_iff, length] at hx
      rw [List.getElem?_eq_none_iff.2 hx, Option.map_none]
    | some x => exact (at_place hx).1.symm
  · intro i run hrun
    rw [List.getElem?_map, Option.map_eq_some_iff] at hrun
    obtain ⟨x, hx, rfl⟩ := hrun
    exact (at_place hx).2

theorem Underway.start {keeper : Keeper} {tasks : List Schedule.Task} {places : Nat}
    (h : w.Shows s) (calm : w.Calm name) (positive : 0 < places) :
    Underway keeper tasks name [] []
      ⟨(tasks.map fun t => ⟨t, Worker.task keeper t⟩).take places,
        (tasks.map fun t => ⟨t, Worker.task keeper t⟩).drop places, [], []⟩ w s := by
  refine ⟨h, calm, ⟨_, ?_, .start⟩, by simp, fun hq => .inl fun hr => ?_⟩
  · rw [Jobs.pending, List.take_append_drop, List.map_nil, List.append_nil, List.map_map]
    refine .of_eq ?_
    calc
      tasks.zipIdx.map (fun x => (⟨x.1, Worker.task keeper x.1⟩ : Job)) =
          (tasks.zipIdx.map Prod.fst).map fun t => ⟨t, Worker.task keeper t⟩ := by
        rw [List.map_map]
        rfl
      _ = tasks.map fun t => ⟨t, Worker.task keeper t⟩ := by rw [List.zipIdx_map_fst]
  · cases List.take_eq_nil_iff.1 hr with
    | inl hr => omega
    | inr hr => exact hq (by rw [hr, List.drop_nil])

theorem World.Shows.cycle {stop : Time.Duration} {fuel : Nat} {agenda : Agenda}
    (settings : Settings) (plan : Schedule) (h : w.Shows s) (calm : w.Calm name)
    (apart : agenda.Apart name) (enough : stop - w.slept < fuel) :
    ∃ s', (Loop.cycle settings stop fuel plan agenda w).2.2.Shows s' ∧
      (Loop.cycle settings stop fuel plan agenda w).2.2.Calm name ∧
      (Loop.cycle settings stop fuel plan agenda w).2.1.Apart name ∧
      ∀ plan' wait, (Loop.cycle settings stop fuel plan agenda w).1 = some (plan', wait) →
        ∃ c : Cycle settings.keeper, c.Leads (Scene.Undisturbed name) plan s plan' s' := by
  obtain ⟨stock, s₁, first, talk, -, h, calm⟩ := h.run calm (p := takeStock)
  have onward : stop - (World.run takeStock w).2.slept < fuel :=
    Nat.lt_of_le_of_lt (Nat.sub_le_sub_left World.slept_le_run stop) enough
  rw [Loop.cycle]
  generalize World.run takeStock w = stocked at *
  obtain ⟨listing, w₁⟩ := stocked
  cases listing with
  | error fault =>
    refine ⟨s₁, h, calm, apart, ?_⟩
    rintro _ _ ⟨⟩
    exact ⟨⟨stock, _, w₁.clock, [], [], [], talk, .refl _, by simp, by simp⟩,
      .skipped rfl rfl first⟩
  | ok requests =>
    simp only
    split
    · exact ⟨s₁, h, calm, apart, nofun⟩
    · have positive : 0 < max settings.concurrency 1 := by omega
      have begun : Underway settings.keeper (plan.observe (requests.map listed) w₁.clock).2 name []
          [] _ w₁ s₁ := .start h calm positive
      obtain ⟨work, ended, s₂, course, h, calm, apart, ends⟩ :=
        begun.finish (plan.observe (requests.map listed) w₁.clock).1 rfl apart onward
      generalize Loop.finish stop fuel _ (plan.observe (requests.map listed) w₁.clock).1 agenda w₁ =
        result at *
      obtain ⟨left, agenda', w₂⟩ := result
      refine ⟨s₂, h, calm, apart, fun plan' wait hleft => ?_⟩
      cases left with
      | none => cases hleft
      | some left =>
        cases hleft
        obtain ⟨shares, rfl⟩ := ends _ rfl
        obtain ⟨runs, all, hruns, own⟩ := shares.exists_runs
        have placed : ∀ x ∈ work, x.1 < runs.length := by
          rw [← List.length_map Run.task, hruns]
          exact shares.placed
        exact ⟨⟨stock, .ok requests, w₁.clock, runs, ended.map Prod.snd, work, talk, all, own,
          placed⟩, .worked rfl hruns first course⟩

theorem World.Shows.service {settings : Settings} {stop moment : Time.Duration} {fuel : Nat}
    {plan₀ plan plan' : Schedule} {s₀ : Scene} {agenda agenda' : Agenda}
    {cs : List (Cycle settings.keeper)} {wait : Time.Duration}
    (past : Service (Scene.Undisturbed name) plan₀ s₀ cs plan s)
    (h : w.Shows s) (calm : w.Calm name) (apart : agenda.Apart name) (onward : w.slept ≤ moment)
    (enough : stop - moment < fuel)
    (hc : (Loop.cycle settings stop fuel plan (Loop.passTo moment agenda w).1
      (Loop.passTo moment agenda w).2) = (some (plan', wait), agenda', w')) :
    ∃ c s', Service (Scene.Undisturbed name) plan₀ s₀ (cs ++ [c]) plan' s' ∧ w'.Shows s' ∧
      w'.Calm name ∧ agenda'.Apart name := by
  obtain ⟨s₁, idle, h, calm, apart⟩ := h.passTo calm apart onward
  obtain ⟨s₂, h, calm, apart, leads⟩ := h.cycle settings plan calm apart enough
  rw [hc] at h calm apart leads
  obtain ⟨c, leads⟩ := leads plan' wait rfl
  exact ⟨c, s₂, .cycle past (leads.after idle .trans), h, calm, apart⟩

end AccessWindow.Rehearsal
