import AccessWindow.Policy
import AccessWindow.Proofs.Lookup
import AccessWindow.Proofs.Verdict
import AccessWindow.Tracker.Wire
import Mathlib.Data.List.Nodup

namespace AccessWindow

namespace Tracker

open Ticket

variable {spec : Request.Spec} {account : String} {e : Edition} {name : String} {member : Json}

inductive Writes : FieldForm → String → Json → Prop
  | text (value : String) : Writes .text value (.string value)
  | date (value : String) : Writes .date value (.string value)
  | select (value : String) : Writes .select value (.object [("value", .string value)])
  | user (value : String) : Writes .user value (.object [("name", .string value)])

theorem writes_iff {target : FieldTarget} {value : String} :
    Writes target.kind value member ↔ (FieldValue.of target value).encoded = member := by
  obtain ⟨kind, field⟩ := target
  constructor
  · intro h
    cases h <;> rfl
  · rintro rfl
    cases kind
    · exact .text value
    · exact .date value
    · exact .select value
    · exact .user value

/-- What the approvers of a request are to be told, each by the name that it goes by. -/
inductive Told (spec : Request.Spec) (account : String) (e : Edition) : String → Json → Prop
  | project : Told spec account e "project" (.object [("key", .string e.rulebook.project)])
  | issueType : Told spec account e "issuetype" (.object [("name", .string e.rulebook.issueType)])
  | summary : Told spec account e "summary"
      (.string ("Automated JIT request for " ++ spec.reporter))
  | reporter : Told spec account e "reporter" (.object [("name", .string account)])
  | labels : Told spec account e "labels"
      (.array ((Draft.ofRequest spec account e).labels.map .string))
  | role {member : Json} : Writes e.rulebook.required.role.kind spec.role member →
      Told spec account e e.rulebook.required.role.field member
  | start {member : Json} :
      Writes e.rulebook.required.start.kind (Time.Rfc3339.millisText spec.start) member →
      Told spec account e e.rulebook.required.start.field member
  | finish {member : Json} :
      Writes e.rulebook.required.finish.kind (Time.Rfc3339.millisText spec.finish) member →
      Told spec account e e.rulebook.required.finish.field member
  | custom {name value : String} {target : FieldTarget} {member : Json} :
      e.rulebook.custom.get? name = some target →
      spec.fields.get? name = some value → Writes target.kind value member →
      Told spec account e target.field member

def written (d : Draft) : List (String × Json) :=
  [("project", .object [("key", .string d.project)]),
    ("issuetype", .object [("name", .string d.issueType)]), ("summary", .string d.summary),
    ("reporter", .object [("name", .string d.reporter)]),
    ("labels", .array (d.labels.map .string))] ++ d.fields.map fun v => (v.field, v.encoded)

theorem issueMembers_eq (d : Draft) : issueMembers d = .ofList (written d) := rfl

theorem mem_written_iff (filled : Policy.missingField? spec e = none) :
    (name, member) ∈ written (Draft.ofRequest spec account e) ↔
      Told spec account e name member := by
  constructor
  · intro h
    rw [written, List.mem_append] at h
    rcases h with h | h
    · simp only [List.mem_cons, Prod.mk.injEq, List.not_mem_nil, or_false] at h
      rcases h with ⟨rfl, rfl⟩ | ⟨rfl, rfl⟩ | ⟨rfl, rfl⟩ | ⟨rfl, rfl⟩ | ⟨rfl, rfl⟩
      · exact .project
      · exact .issueType
      · exact .summary
      · exact .reporter
      · exact .labels
    · obtain ⟨v, hv, same⟩ := List.mem_map.1 h
      obtain ⟨rfl, rfl⟩ := Prod.mk.inj same
      simp only [Draft.ofRequest, List.mem_cons, List.mem_map] at hv
      rcases hv with rfl | rfl | rfl | ⟨⟨field, target⟩, hentry, rfl⟩
      · exact .role (writes_iff.2 rfl)
      · exact .start (writes_iff.2 rfl)
      · exact .finish (writes_iff.2 rfl)
      · have known : field ∈ e.rulebook.custom.keys := List.mem_map_of_mem hentry
        obtain ⟨value, hvalue⟩ :=
          Dict.contains_iff.1 (Policy.missingField?_eq_none.1 filled field known)
        refine .custom (Dict.mem_entries.1 hentry) hvalue (writes_iff.2 ?_)
        rw [hvalue, Option.getD_some]
  · intro h
    have put {target : FieldTarget} {value : String} (w : Writes target.kind value member)
        (hmem : FieldValue.of target value ∈ (Draft.ofRequest spec account e).fields) :
        (target.field, member) ∈ written (Draft.ofRequest spec account e) :=
      List.mem_append_right _ (List.mem_map.2 ⟨_, hmem, Prod.ext rfl (writes_iff.1 w)⟩)
    cases h with
    | project | issueType | summary | reporter | labels => simp [written, Draft.ofRequest]
    | role w => exact put w List.mem_cons_self
    | start w => exact put w (.tail _ List.mem_cons_self)
    | finish w => exact put w (.tail _ (.tail _ List.mem_cons_self))
    | custom known hvalue w =>
      refine put w (.tail _ (.tail _ (.tail _ (List.mem_map.2 ?_))))
      refine ⟨_, Dict.mem_entries.2 known, ?_⟩
      simp [hvalue]

theorem unique_of_nodup (filled : Policy.missingField? spec e = none)
    (distinct : ((written (Draft.ofRequest spec account e)).map Prod.fst).Nodup) {a b : Json}
    (ha : Told spec account e name a) (hb : Told spec account e name b) : a = b := by
  have same := List.inj_on_of_nodup_map distinct ((mem_written_iff filled).2 ha)
    ((mem_written_iff filled).2 hb) rfl
  exact (Prod.mk.inj same).2

/-- The ticket of a request in which no field is missing tells what is to be told and nothing else,
something under each name. It tells everything if and only if nothing that differs goes by one
name. -/
theorem ticket_tells_iff (filled : Policy.missingField? spec e = none) :
    ∃ members, issue (Draft.ofRequest spec account e) = .object [("fields", .object members)] ∧
      (∀ name member, members.lookup name = some member → Told spec account e name member) ∧
      (∀ name member, Told spec account e name member → (members.lookup name).isSome) ∧
      ((∀ name member, Told spec account e name member → members.lookup name = some member) ↔
        ∀ name a b, Told spec account e name a → Told spec account e name b → a = b) := by
  have held (name : String) : (issueMembers (Draft.ofRequest spec account e)).entries.lookup name =
      (written (Draft.ofRequest spec account e)).reverse.lookup name := by
    rw [issueMembers_eq]
    exact Dict.get?_ofList
  have told (name : String) (member : Json)
      (h : (issueMembers (Draft.ofRequest spec account e)).entries.lookup name = some member) :
      Told spec account e name member := by
    rw [held] at h
    obtain ⟨later, earlier, split, -⟩ := List.lookup_eq_some_iff.1 h
    exact (mem_written_iff filled).1 (List.mem_reverse.1 (split ▸ List.mem_append_cons_self))
  have present (name : String) (member : Json) (h : Told spec account e name member) :
      ((issueMembers (Draft.ofRequest spec account e)).entries.lookup name).isSome := by
    rw [held, List.lookup_isSome_iff]
    exact ⟨_, List.mem_reverse.2 ((mem_written_iff filled).2 h), beq_self_eq_true name⟩
  refine ⟨_, rfl, told, present, fun all name a b ha hb => ?_, fun unique name member h => ?_⟩
  · exact Option.some.inj ((all name a ha).symm.trans (all name b hb))
  · obtain ⟨other, hother⟩ := Option.isSome_iff_exists.1 (present name member h)
    rw [unique name member other h (told name other hother)]
    exact hother

namespace Sample

theorem plain_ticket_tells : Policy.missingField? Hook.Sample.spec Hook.Sample.edition = none ∧
    ∃ members, issue (Draft.ofRequest Hook.Sample.spec "dev" Hook.Sample.edition) =
        .object [("fields", .object members)] ∧
      ∀ name member, Told Hook.Sample.spec "dev" Hook.Sample.edition name member →
        members.lookup name = some member := by
  have filled : Policy.missingField? Hook.Sample.spec Hook.Sample.edition = none := by decide
  have distinct : ((written (Draft.ofRequest Hook.Sample.spec "dev" Hook.Sample.edition)).map
      Prod.fst).Nodup := by decide
  obtain ⟨members, body, -, -, iff⟩ := @ticket_tells_iff _ "dev" _ filled
  exact ⟨filled, members, body, iff.2 fun name a b => unique_of_nodup filled distinct⟩

def crossed : Edition where
  version := 1
  rulebook := { Rulebook.standard with
    custom := .ofList [("Reason", ⟨.text, "customfield_10117"⟩)], namespacePattern := none }
  pattern := none
  filled := by decide
  compiled := rfl

def crossedSpec : Request.Spec :=
  { Hook.Sample.spec with fields := .ofList [("Reason", "view")] }

/-- The approvers can be shown another role than the one that they let somebody have. -/
theorem role_can_be_replaced : Policy.missingField? crossedSpec crossed = none ∧
    ∃ members, issue (Draft.ofRequest crossedSpec "dev" crossed) =
        .object [("fields", .object members)] ∧
      Told crossedSpec "dev" crossed "customfield_10117" (.string "edit") ∧
      members.lookup "customfield_10117" = some (.string "view") :=
  ⟨by decide, _, rfl, .role (.text "edit"), rfl⟩

end Sample

end Tracker

end AccessWindow
