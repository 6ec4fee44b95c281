import AccessWindow.Dict
import AccessWindow.Lifecycle.Keeper

/-! When requests are looked at: as they appear and change, when they have asked for it, and once
more when they are gone. Each name runs a machine of its own. -/

namespace AccessWindow

open Time

namespace Schedule

inductive Trigger
  | firstSeen
  | changed
  | due
  | vanished
  deriving DecidableEq

def Trigger.name : Trigger → String
  | .firstSeen => "first_seen"
  | .changed => "changed"
  | .due => "due"
  | .vanished => "vanished"

structure Task where
  name : String
  namespaces : List String
  trigger : Trigger
  deriving DecidableEq

structure Listed where
  name : String
  version : Option String
  namespaces : List String
  deriving DecidableEq

/-- What is known of one request. A vanished one is kept only because cleaning up after it has
failed. -/
structure Tracked where
  version : Option String
  namespaces : List String
  due : Option Instant
  vanished : Bool
  deriving DecidableEq

namespace Tracked

def isDue (t : Tracked) (now : Instant) : Bool :=
  match t.due with
  | some due => due ≤ now
  | none => false

def trigger? (before : Option Tracked) (item : Listed) (now : Instant) : Option Trigger :=
  match before with
  | none => some .firstSeen
  | some t =>
    if t.vanished then some .firstSeen
    else if t.version ≠ item.version then some .changed
    else if t.isDue now then some .due
    else none

/-- What is known after a listing that shows the request. A task uses up the wake-up time. -/
def listed (before : Option Tracked) (item : Listed) (now : Instant) : Tracked :=
  { version := item.version
    namespaces := item.namespaces
    due := if (trigger? before item now).isSome then none else before.bind (·.due)
    vanished := false }

/-- A request that a listing does not show has to be cleaned up after; a failed clean-up waits for
its time. -/
def leaves (t : Tracked) (now : Instant) : Bool := !t.vanished || t.due = none || t.isDue now

end Tracked

end Schedule

structure Schedule where
  tracked : Dict Schedule.Tracked
  pause : Duration

namespace Schedule

def start (pause : Duration) : Schedule := ⟨.empty, pause⟩

def observeItem (now : Instant) (s : Schedule) (item : Listed) : Schedule × Option Task :=
  let before := s.tracked.get? item.name
  ({ s with tracked := s.tracked.insert item.name (.listed before item now) },
    (Tracked.trigger? before item now).map fun trigger => ⟨item.name, item.namespaces, trigger⟩)

def observeItems (now : Instant) : List Listed → Schedule → Schedule × List Task
  | [], s => (s, [])
  | item :: rest, s =>
    let (s, task) := s.observeItem now item
    let (s, tasks) := observeItems now rest s
    (s, task.toList ++ tasks)

def gone (s : Schedule) (listing : List Listed) (now : Instant) : List (String × Tracked) :=
  s.tracked.entries.filter fun (name, t) =>
    !(listing.any fun item => item.name = name) && t.leaves now

def observe (s : Schedule) (listing : List Listed) (now : Instant) : Schedule × List Task :=
  let (s, tasks) := observeItems now listing s
  let gone := s.gone listing now
  ({ s with tracked := gone.foldl (fun d e => d.erase e.1) s.tracked },
    tasks ++ gone.map fun (name, t) => ⟨name, t.namespaces, .vanished⟩)

def noteSuccess (s : Schedule) (task : Task) (outcome : Lifecycle.Outcome) (now : Instant) :
    Schedule :=
  match s.tracked.get? task.name with
  | none => s
  | some t =>
    let due :=
      match outcome with
      | .done => none
      | .again delay => some (now.after delay)
    { s with tracked := s.tracked.insert task.name { t with due } }

def noteFailure (s : Schedule) (task : Task) (now : Instant) : Schedule :=
  let t := (s.tracked.get? task.name).getD ⟨none, task.namespaces, none, true⟩
  { s with tracked := s.tracked.insert task.name { t with due := some (now.after s.pause) } }

def earlier (a b : Instant) : Instant := if b < a then b else a

/-- The time until the next wake-up; one that has passed is due at once. -/
def nextDue? (s : Schedule) (now : Instant) : Option Duration :=
  match s.tracked.values.filterMap (·.due) with
  | [] => none
  | due :: dues => some ((dues.foldl earlier due).since now).toNat

end Schedule

end AccessWindow
