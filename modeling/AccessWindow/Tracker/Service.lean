import AccessWindow.Http.Exchange
import AccessWindow.Tracker.Wire
import AccessWindow.Url.Place

namespace AccessWindow

structure Tracker where
  base : Url
  username : String
  token : String
  deriving DecidableEq

namespace Tracker

open Http

variable {α : Type}

def ofText (url username token : String) : Except Fault Tracker := do
  return ⟨← Url.base "JIRA_BASE_URL" url, username, token⟩

def exchange (t : Tracker) (context method : String) (url : Url) (body : Option Json)
    (interpret : Response → Except Fault α) : Except Fault (Exchange α) :=
  Exchange.prepare context method url (some (basic t.username t.token)) body interpret

def issuePath (key : String) : List String := ["rest", "api", "2", "issue", key]

def raiseTicket (t : Tracker) (d : Ticket.Draft) : Except Fault (Exchange String) := do
  let context := "Jira issue create failed"
  let url ← t.base.below "rest/api/2/issue"
  t.exchange context "POST" url (some (issue d)) (·.result context created.codec)

def commentOn (t : Tracker) (key body : String) : Except Fault (Exchange Unit) := do
  let context := "Jira comment on '" ++ key ++ "' failed"
  let url ← t.base.within (issuePath key ++ ["comment"])
  t.exchange context "POST" url (some (comment body)) (·.succeed context)

def transition (t : Tracker) (key id : String) : Except Fault (Exchange Unit) := do
  let context := "Jira transition '" ++ id ++ "' on '" ++ key ++ "' failed"
  let url ← t.base.within (issuePath key ++ ["transitions"])
  t.exchange context "POST" url (some (step id)) (·.succeed context)

def stateOfTicket (t : Tracker) (key : String) : Except Fault (Exchange String) := do
  let context := "Jira issue '" ++ key ++ "' lookup failed"
  let url ← t.base.within (issuePath key)
  t.exchange context "GET" (url.ask "fields" "status") none (·.result context issueStatus.codec)

def accountOf (t : Tracker) (handle : String) : Except Fault (Exchange String) := do
  let context := "Jira user search for '" ++ handle ++ "' failed"
  let url ← t.base.below "rest/api/2/user/search"
  t.exchange context "GET" (url.ask "username" handle) none fun r => do
    match ← r.result context (.list named.codec) with
    | account :: _ => return account
    | [] => throw (.notFound ("no Jira user matches '" ++ handle ++ "'"))

end Tracker

end AccessWindow
