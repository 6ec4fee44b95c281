import AccessWindow.Dict
import AccessWindow.Json.Record
import AccessWindow.Ticket

namespace AccessWindow.Tracker

open Json

/-- The members of a new issue. A field of the draft may take the place of a member. -/
def issueMembers (d : Ticket.Draft) : Dict Json :=
  let named (name : String) : Json := .object [("name", .string name)]
  .ofList ([("project", .object [("key", .string d.project)]), ("issuetype", named d.issueType),
    ("summary", .string d.summary), ("reporter", named d.reporter),
    ("labels", .array (d.labels.map .string))] ++ d.fields.map fun v => (v.field, v.encoded))

def issue (d : Ticket.Draft) : Json := .object [("fields", .object (issueMembers d).entries)]

def comment (body : String) : Json := .object [("body", .string body)]

def step (id : String) : Json := .object [("transition", .object [("id", .string id)])]

def single (title name : String) : Record String where
  title := title
  Maker := _
  make := id
  layout := .field (.required name .text id) <| .done

def created : Record String := single "a created issue" "key"

def named : Record String := single "a name" "name"

def statusFields : Record String where
  title := "issue fields"
  Maker := _
  make := id
  layout := .field (.required "status" named.codec id) <| .done

def issueStatus : Record String where
  title := "an issue"
  Maker := _
  make := id
  layout := .field (.required "fields" statusFields.codec id) <| .done

end AccessWindow.Tracker
