import AccessWindow.Event
import AccessWindow.Fault
import AccessWindow.Grant
import AccessWindow.Rulebook.Edition
import AccessWindow.Ticket

/-! Programs that call upon stores, the ticket tracker and the directory of namespaces. A program is
a tree: it ends with a result, or it names an operation and goes on with the answer, whatever gives
that answer. -/

namespace AccessWindow

inductive Call
  | allRequests
  | requestNamed (name : String)
  | putStatus (request : Request)
  | removeRequest (name : String)
  | addGrant (grant : Grant)
  | grantsWithin (scope : String)
  | removeGrant (scope name : String)
  | namespacesWith (labels : Dict String)
  | raiseTicket (draft : Ticket.Draft)
  | commentOn (key body : String)
  | transition (key id : String)
  | stateOfTicket (key : String)
  | accountOf (handle : String)
  | publishEvent (event : Event)
  | fetchRulebook
  | recallRulebook
  | keepRulebook (book : Rulebook)
  deriving DecidableEq

@[reducible] def Call.Answer : Call → Type
  | allRequests => List Request
  | requestNamed _ | putStatus _ => Request
  | grantsWithin _ => List Grant
  | namespacesWith _ => List String
  | raiseTicket _ | stateOfTicket _ | accountOf _ => String
  | fetchRulebook | recallRulebook => Option Rulebook
  | _ => Unit

/-- Besides calls, a program reads the clock and the edition in force, puts a rulebook in force, and
waits. -/
inductive Operation
  | call (c : Call)
  | clock
  | edition
  | adopt (book : Rulebook)
  | sleep (span : Time.Duration)
  deriving DecidableEq

@[reducible] def Operation.Answer : Operation → Type
  | call c => Except Fault c.Answer
  | clock => Instant
  | edition => Option Edition
  | adopt _ => Except Fault (Edition × Bool)
  | sleep _ => Unit

inductive Program (α : Type)
  | done (result : Except Fault α)
  | step (op : Operation) (next : op.Answer → Program α)

namespace Program

variable {α β : Type}

def bind : Program α → (α → Program β) → Program β
  | done (.ok a), f => f a
  | done (.error e), _ => done (.error e)
  | step op next, f => step op fun answer => (next answer).bind f

instance : Monad Program where
  pure a := done (.ok a)
  bind := bind

def fail (f : Fault) : Program α := done (.error f)

def attempt : Program α → Program (Except Fault α)
  | done result => done (.ok result)
  | step op next => step op fun answer => (next answer).attempt

def perform (op : Operation) : Program op.Answer := step op fun answer => done (.ok answer)

def ask (c : Call) : Program (Except Fault c.Answer) := perform (.call c)

def call (c : Call) : Program c.Answer := step (.call c) done

def now : Program Instant := perform .clock

def sleep (span : Time.Duration) : Program Unit := perform (.sleep span)

def edition : Program Edition :=
  step .edition fun
    | some e => done (.ok e)
    | none => done (.error (.configuration "configuration snapshot has not been loaded"))

def adopt (book : Rulebook) : Program (Edition × Bool) := step (.adopt book) done

end Program

end AccessWindow
