import AccessWindow.Rehearsal.World

namespace AccessWindow.Rehearsal

open Time

inductive Paused (α : Type)
  | finished (result : Except Fault α)
  | asleep (span : Duration) (rest : Program α)

namespace World

variable {α : Type}

def run : Program α → World → Except Fault α × World
  | .done result, w => (result, w)
  | .step op next, w =>
    let (answer, w) := w.perform op
    run (next answer) w

def runToWait : Program α → World → Paused α × World
  | .done result, w => (.finished result, w)
  | .step (.sleep 0) next, w => runToWait (next ()) w
  | .step (.sleep span) next, w => (.asleep span (next ()), w)
  | .step op next, w =>
    let (answer, w) := w.perform op
    runToWait (next answer) w

end World

end AccessWindow.Rehearsal
