import AccessWindow.Rehearsal.Run
import AccessWindow.Worker.Cycle

namespace AccessWindow.Rehearsal

open Time

structure Job where
  task : Schedule.Task
  program : Program Lifecycle.Outcome

/-- The jobs of a cycle: those that can go on, those that wait for a place, those that wait for a
time, and the results that have not been taken note of, all in order. -/
structure Jobs where
  ready : List Job
  queue : List Job
  asleep : List (Duration × Job)
  results : List (Schedule.Task × Except Fault Lifecycle.Outcome)

abbrev Agenda := List (Duration × List Change)

namespace Loop

def drain : Nat → Jobs → World → Jobs × World
  | 0, jobs, w => (jobs, w)
  | count + 1, jobs, w =>
    match jobs.ready with
    | [] => (jobs, w)
    | job :: ready =>
      match World.runToWait job.program w with
      | (.finished result, w) =>
        drain count
          { jobs with
            ready := ready ++ jobs.queue.take 1
            queue := jobs.queue.drop 1
            results := jobs.results ++ [(job.task, result)] } w
      | (.asleep span rest, w) =>
        drain count
          { jobs with
            ready
            asleep := jobs.asleep ++ [(w.slept + span, { job with program := rest })] } w

def recordAll (s : Schedule) (now : Instant)
    (results : List (Schedule.Task × Except Fault Lifecycle.Outcome)) : Schedule :=
  results.foldl (fun s r => Worker.record s r.1 r.2 now) s

def passTo (moment : Duration) (agenda : Agenda) (w : World) : Agenda × World :=
  let happening := agenda.filter fun e => e.1 ≤ moment
  let w := happening.foldl (fun w e => e.2.foldl World.change w) w
  (agenda.filter fun e => !(e.1 ≤ moment), { w with slept := moment })

def finish (stop : Duration) :
    Nat → Jobs → Schedule → Agenda → World → Option Schedule × Agenda × World
  | 0, _, s, agenda, w => (some s, agenda, w)
  | fuel + 1, jobs, s, agenda, w =>
    let (jobs, w) := drain (jobs.ready.length + jobs.queue.length) jobs w
    let s := recordAll s w.clock jobs.results
    match jobs.asleep.map (·.1) with
    | [] => (some s, agenda, w)
    | first :: others =>
      let moment := others.foldl min first
      if stop ≤ moment then (none, agenda, w)
      else
        let (agenda, w) := passTo moment agenda w
        let woken := (jobs.asleep.filter fun e => e.1 ≤ moment).map (·.2)
        let asleep := jobs.asleep.filter fun e => !(e.1 ≤ moment)
        finish stop fuel ⟨woken ++ jobs.ready, jobs.queue, asleep, []⟩ s agenda w

/-- One cycle; the time until the next one goes with the schedule. When time is up the cycle still
takes stock, but its tasks do not start any more. -/
def cycle (settings : Worker.Settings) (stop : Duration) (fuel : Nat) (s : Schedule)
    (agenda : Agenda) (w : World) :
    Option (Schedule × Duration) × Agenda × World :=
  match World.run Worker.takeStock w with
  | (.error _, w) => (some (s, settings.poll), agenda, w)
  | (.ok requests, w) =>
    let (s, tasks) := s.observe (requests.map Worker.listed) w.clock
    if w.slept = stop ∧ tasks ≠ [] then (none, agenda, w)
    else
      let jobs := tasks.map fun t => ⟨t, Worker.task settings.keeper t⟩
      let places := max settings.concurrency 1
      let (s, agenda, w) := finish stop fuel ⟨jobs.take places, jobs.drop places, [], []⟩ s agenda w
      (s.map fun s => (s, Worker.wait settings.poll s w.clock), agenda, w)

def cycles (settings : Worker.Settings) (stop : Duration) :
    Nat → Schedule → Agenda → World → Agenda × World
  | 0, _, agenda, w => (agenda, w)
  | fuel + 1, s, agenda, w =>
    match cycle settings stop fuel s agenda w with
    | (none, agenda, w) => (agenda, w)
    | (some (s, wait), agenda, w) =>
      if stop < w.slept + wait then (agenda, w)
      else
        let (agenda, w) := passTo (w.slept + wait) agenda w
        cycles settings stop fuel s agenda w

def run (settings : Worker.Settings) (span : Duration) (agenda : Agenda) (w : World) : World :=
  let stop := w.slept + span
  let agenda := (agenda.map fun e => (w.slept + e.1, e.2)).mergeSort fun a b => a.1 ≤ b.1
  let (agenda, w) := cycles settings stop (span + 1000000) (.start settings.failurePause) agenda w
  (passTo stop agenda w).2

end Loop

end AccessWindow.Rehearsal
