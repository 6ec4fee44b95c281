import AccessWindow.Files.Plan
import AccessWindow.Rulebook.Wire
import AccessWindow.Text.Utf8

namespace AccessWindow.Files

structure Cache where
  path : Path
  deriving DecidableEq

namespace Cache

def temporary (c : Cache) : Path :=
  c.path.withFileName (c.path.fileName?.getD "config.json" ++ ".tmp")

def fault (action : String) (p : Path) (t : Trouble) : Fault :=
  .internal ("failed to " ++ action ++ " configuration cache '" ++ p.text ++ "': " ++ t.text)

def load (c : Cache) (d : Disk) : Except Fault (Option Rulebook) :=
  match d.read c.path with
  | .error .missing => .ok none
  | .error t => .error (fault "read" c.path t)
  | .ok bytes => (Rulebook.ofBytes bytes).map some

def contents (book : Rulebook) : List UInt8 := Text.Utf8.encode book.toText

def prepare {α : Type} (c : Cache) (k : Except Trouble Unit → Plan α) : Plan α :=
  match c.path.parent? with
  | none => k (.ok ())
  | some folder => if folder.isEmpty then k (.ok ()) else .makeFolders folder k

def storing (c : Cache) (book : Rulebook) : Plan (Except Fault Unit) :=
  c.prepare fun
    | .error t => .done (.error (fault "create directory for" c.path t))
    | .ok () =>
      .step (.write c.temporary (contents book)) fun
        | .error t => .done (.error (fault "write" c.temporary t))
        | .ok () =>
          .step (.move c.temporary c.path) fun
            | .error t => .done (.error (fault "replace" c.path t))
            | .ok () => .done (.ok ())

def store (c : Cache) (book : Rulebook) (d : Disk) : Except Fault Unit × Disk :=
  (c.storing book).run d

end Cache

end AccessWindow.Files
