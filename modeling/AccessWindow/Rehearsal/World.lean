import AccessWindow.Number.Unsigned
import AccessWindow.Program

/-! A world held in memory, in which programs can be run: the stores, the tracker, the source of the
rulebook, a clock that moves only when a program waits, and disturbances that come upon calls. -/

namespace AccessWindow.Rehearsal

open Time

def Call.name : Call → String
  | .allRequests => "list_requests"
  | .requestNamed _ => "get_request"
  | .putStatus _ => "replace_status"
  | .removeRequest _ => "delete_request"
  | .addGrant _ => "create_grant"
  | .grantsWithin _ => "list_grants"
  | .removeGrant _ _ => "delete_grant"
  | .namespacesWith _ => "list_namespaces_by_labels"
  | .raiseTicket _ => "create_ticket"
  | .commentOn _ _ => "add_comment"
  | .transition _ _ => "transition"
  | .stateOfTicket _ => "ticket_status"
  | .accountOf _ => "resolve_account"
  | .publishEvent _ => "record_event"
  | .fetchRulebook => "fetch_config"
  | .recallRulebook => "cache_load"
  | .keepRulebook _ => "cache_store"

/-- What others do to the world. A disturbance waits for calls of one kind: it lets `skip` of them
pass and comes upon the next `times`, applies its changes, and makes the call fail if it carries a
fault. -/
inductive Change
  | putRequest (request : Request)
  | dropRequest (name : String)
  | putGrant (grant : Grant)
  | dropGrant (scope name : String)
  | setTicket (key status : String)
  | dropTicket (key : String)
  | setAccount (handle : String) (account : Option String)
  | setNamespace (name : String) (labels : Option (Dict String))
  | setSource (book : Option Rulebook)
  | setCache (book : Option Rulebook)
  | advance (millis : Int)
  | disturb (call : String) (skip times : Nat) (fault : Option Fault) (changes : List Change)

structure Disturbance where
  call : String
  skip : Nat
  times : Nat
  fault : Option Fault
  changes : List Change

structure Entry where
  millis : Int
  call : Call
  fault : Option Fault

structure World where
  base : Instant
  slept : Duration := 0
  advanced : Int := 0
  edition : Option Edition := none
  source : Option Rulebook := none
  cache : Option Rulebook := none
  requests : Dict Request := .empty
  grants : Dict (Dict Grant) := .empty
  namespaces : Dict (Dict String) := .empty
  accounts : Dict String := .empty
  tickets : Dict String := .empty
  opened : Nat := 0
  disturbances : List Disturbance := []
  log : List Entry := []

namespace World

def elapsed (w : World) : Int := w.slept + w.advanced * 1000000

def clock (w : World) : Instant := (w.base.add? w.elapsed).getD .latest

def grantsIn (w : World) (scope : String) : Dict Grant := (w.grants.get? scope).getD .empty

def putGrant (w : World) (g : Grant) : World :=
  { w with grants := w.grants.insert g.scope ((w.grantsIn g.scope).insert g.name g) }

def dropGrant (w : World) (scope name : String) : World :=
  { w with grants := w.grants.insert scope ((w.grantsIn scope).erase name) }

def change (w : World) : Change → World
  | .putRequest r => { w with requests := w.requests.insert r.name r }
  | .dropRequest name => { w with requests := w.requests.erase name }
  | .putGrant g => w.putGrant g
  | .dropGrant scope name => w.dropGrant scope name
  | .setTicket key status => { w with tickets := w.tickets.insert key status }
  | .dropTicket key => { w with tickets := w.tickets.erase key }
  | .setAccount handle (some account) => { w with accounts := w.accounts.insert handle account }
  | .setAccount handle none => { w with accounts := w.accounts.erase handle }
  | .setNamespace name (some labels) => { w with namespaces := w.namespaces.insert name labels }
  | .setNamespace name none => { w with namespaces := w.namespaces.erase name }
  | .setSource book => { w with source := book }
  | .setCache book => { w with cache := book }
  | .advance millis => { w with advanced := w.advanced + millis }
  | .disturb call skip times fault changes =>
    { w with disturbances := w.disturbances ++ [⟨call, skip, times, fault, changes⟩] }

/-- Finds the disturbance that comes upon a call, and counts the call for those before it. -/
def disturbed (call : String) : List Disturbance → Option Disturbance × List Disturbance
  | [] => (none, [])
  | d :: ds =>
    if d.call = call ∧ 0 < d.times then
      if 0 < d.skip then
        let (found, ds) := disturbed call ds
        (found, { d with skip := d.skip - 1 } :: ds)
      else (some d, { d with times := d.times - 1 } :: ds)
    else
      let (found, ds) := disturbed call ds
      (found, d :: ds)

def noRequest (name : String) : Fault := .notFound ("request '" ++ name ++ "' not found")

def noGrant (name : String) : Fault := .notFound ("grant '" ++ name ++ "' not found")

def noTicket (key : String) : Fault := .notFound ("issue " ++ key)

def nextVersion (version : Option String) : String :=
  toString (((version.bind fun v => (Number.Unsigned.read 4294967296 v).toOption).getD 0) + 1)

def onTicket {α : Type} (w : World) (key : String) (answer : String → α) : Except Fault α × World :=
  match w.tickets.get? key with
  | some status => (.ok (answer status), w)
  | none => (.error (noTicket key), w)

def serve (w : World) : (c : Call) → Except Fault c.Answer × World
  | .allRequests => (.ok w.requests.values, w)
  | .requestNamed name =>
    match w.requests.get? name with
    | some r => (.ok r, w)
    | none => (.error (noRequest name), w)
  | .putStatus r =>
    match w.requests.get? r.name with
    | none => (.error (noRequest r.name), w)
    | some stored =>
      if stored.version ≠ r.version then (.error (.conflict "stale resource version"), w)
      else
        let version := some (nextVersion stored.version)
        let stored := { stored with status := r.status, version }
        (.ok stored, { w with requests := w.requests.insert r.name stored })
  | .removeRequest name =>
    if w.requests.contains name then (.ok (), { w with requests := w.requests.erase name })
    else (.error (noRequest name), w)
  | .addGrant g =>
    if (w.grantsIn g.scope).contains g.name then
      (.error (.alreadyExists ("grant '" ++ g.name ++ "' already exists")), w)
    else (.ok (), w.putGrant g)
  | .grantsWithin scope => (.ok (w.grantsIn scope).values, w)
  | .removeGrant scope name =>
    if (w.grantsIn scope).contains name then (.ok (), w.dropGrant scope name)
    else (.error (noGrant name), w)
  | .namespacesWith labels =>
    let carries (own : Dict String) : Bool := labels.entries.all fun e => own.get? e.1 = some e.2
    (.ok ((w.namespaces.entries.filter fun e => carries e.2).map (·.1)), w)
  | .raiseTicket draft =>
    let key := draft.project ++ "-" ++ toString (w.opened + 1)
    (.ok key, { w with opened := w.opened + 1, tickets := w.tickets.insert key "To Do" })
  | .commentOn key _ => w.onTicket key fun _ => ()
  | .transition key _ => w.onTicket key fun _ => ()
  | .stateOfTicket key => w.onTicket key id
  | .accountOf handle =>
    match w.accounts.get? handle with
    | some account => (.ok account, w)
    | none => (.error (.notFound ("user '" ++ handle ++ "' not found")), w)
  | .publishEvent _ => (.ok (), w)
  | .fetchRulebook => (.ok w.source, w)
  | .recallRulebook => (.ok w.cache, w)
  | .keepRulebook book => (.ok (), { w with cache := some book })

def faultOf {α : Type} : Except Fault α → Option Fault
  | .ok _ => none
  | .error f => some f

/-- Makes a call and keeps it on record. A call that fails by a disturbance does nothing else. -/
def call (w : World) (c : Call) : Except Fault c.Answer × World :=
  let millis := w.elapsed / 1000000
  let (found, disturbances) := disturbed (Call.name c) w.disturbances
  let w := ((found.map (·.changes)).getD []).foldl change { w with disturbances }
  let (result, w) : Except Fault c.Answer × World :=
    match found.bind (·.fault) with
    | some f => (.error f, w)
    | none => w.serve c
  (result, { w with log := ⟨millis, c, faultOf result⟩ :: w.log })

def adopt (w : World) (book : Rulebook) : Except Fault (Edition × Bool) × World :=
  match Edition.succeed w.edition book with
  | .ok (e, changed) => (.ok (e, changed), { w with edition := some e })
  | .error f => (.error f, w)

def perform (w : World) : (op : Operation) → op.Answer × World
  | .call c => w.call c
  | .clock => (w.clock, w)
  | .edition => (w.edition, w)
  | .adopt book => w.adopt book
  | .sleep span => ((), { w with slept := w.slept + span })

end World

end AccessWindow.Rehearsal
