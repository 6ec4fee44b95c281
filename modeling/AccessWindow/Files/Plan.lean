import AccessWindow.Files.Disk

namespace AccessWindow.Files

inductive Step
  | makeFolder (p : Path)
  | findFolder (p : Path)
  | write (p : Path) (bytes : List UInt8)
  | move (source target : Path)
  deriving DecidableEq

def Step.isMove : Step → Bool
  | move _ _ => true
  | _ => false

def Disk.take (d : Disk) : Step → Except Trouble Disk
  | .makeFolder p => d.makeFolder p
  | .findFolder p => if d.isFolder p then .ok d else .error .notFolder
  | .write p bytes => d.write p bytes
  | .move source target => d.move source target

/-- Steps on a disk. What follows a step can depend on whether it was taken. -/
inductive Plan (α : Type)
  | done (result : α)
  | step (s : Step) (next : Except Trouble Unit → Plan α)

namespace Plan

variable {α : Type}

def run : Plan α → Disk → α × Disk
  | done result, d => (result, d)
  | step s next, d =>
    match d.take s with
    | .ok d => (next (.ok ())).run d
    | .error t => (next (.error t)).run d

/-- Makes a folder and what it lies in, as far as they are missing, and goes on by what came of it.
The paths go from the longest to the shortest. Folders that were made stay when a later one cannot
be made. -/
def makeLineage : List Path → (Except Trouble Unit → Plan α) → Plan α
  | [], k => k (.ok ())
  | p :: above, k =>
    let settle (t : Trouble) : Plan α :=
      step (.findFolder p) fun found => k (found.mapError fun _ => t)
    step (.makeFolder p) fun
      | .ok () => k (.ok ())
      | .error .missing =>
        makeLineage above fun
          | .error t => k (.error t)
          | .ok () =>
            step (.makeFolder p) fun
              | .ok () => k (.ok ())
              | .error t => settle t
      | .error t => settle t

def makeFolders (p : Path) (k : Except Trouble Unit → Plan α) : Plan α := makeLineage p.lineage k

end Plan

def Disk.makeFolders (d : Disk) (p : Path) : Except Trouble Unit × Disk :=
  (Plan.makeFolders p .done).run d

end AccessWindow.Files
