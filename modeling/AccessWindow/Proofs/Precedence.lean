import AccessWindow.Proofs.Admissible

namespace AccessWindow

open Program

inductive Rule
  | role
  | start
  | window
  | pattern
  | labels
  | fields
  | reporter
  | person (field : String)

inductive Finding
  | holds
  | broken (v : Violation)
  | unsettled (f : Fault)

structure Inspection where
  validator : Validator
  spec : Request.Spec
  edition : Edition
  now : Instant

def Turn.account? : Turn → Option String
  | ⟨.call (.accountOf _), .ok account⟩ => some account
  | _ => none

namespace Inspection

def program (i : Inspection) : Program (Option Violation) :=
  i.validator.violation? i.spec i.edition i.now

def people (i : Inspection) : List (String × FieldTarget) :=
  i.edition.rulebook.custom.entries.filter fun e => e.2.kind = .user

def personal (i : Inspection) : List Rule :=
  if i.validator.identities then .reporter :: i.people.map (fun e => .person e.1) else []

def rules (i : Inspection) : List Rule :=
  [.role, .start, .window, .pattern, .labels, .fields] ++ i.personal

def selfApproval (i : Inspection) : Bool :=
  i.validator.selfApproval || i.edition.rulebook.selfApproval

def handle? (i : Inspection) (field : String) : Option String :=
  (i.spec.fields.get? field).filter fun handle => !Text.blank handle

def question? (i : Inspection) : Rule → Option Call
  | .labels => if i.spec.labels.isEmpty then none else some (.namespacesWith i.spec.labels)
  | .reporter => some (.accountOf i.spec.reporter)
  | .person field => (i.handle? field).map .accountOf
  | _ => none

/-- What is said for a rule, and what is found by it. The first account that was found before is the
reporter's. -/
inductive Finds (i : Inspection) (before : List Turn) : Rule → List Turn → Finding → Prop
  | role : i.spec.role ∈ i.edition.rulebook.roles → Finds i before .role [] .holds
  | otherRole : i.spec.role ∉ i.edition.rulebook.roles →
      Finds i before .role [] (.broken {
        path := "spec.clusterRole",
        message := "clusterRole must be one of '" ++ Text.join ", " i.edition.rulebook.roles
          ++ "'" })
  | start : i.now < i.spec.start → Finds i before .start [] .holds
  | late : ¬i.now < i.spec.start →
      Finds i before .start [] (.broken {
        path := "spec.startTime", message := "start time must be after current time" })
  | window : i.spec.start < i.spec.finish → Finds i before .window [] .holds
  | noWindow : ¬i.spec.start < i.spec.finish →
      Finds i before .window [] (.broken {
        path := "spec.endTime",
        message := "end time must be after startTime '" ++ Time.Rfc3339.offsetText i.spec.start
          ++ "'" })
  | pattern : (∀ p, i.edition.pattern = some p → ∀ ns ∈ i.spec.namespaces, p.matchesIn ns) →
      Finds i before .pattern [] .holds
  | otherName {p text first ns later} : i.edition.pattern = some p →
      i.edition.rulebook.namespacePattern = some text →
      i.spec.namespaces = first ++ ns :: later → (∀ n ∈ first, p.matchesIn n) →
      ¬p.matchesIn ns →
      Finds i before .pattern [] (.broken {
        path := "spec.namespaces",
        message := "namespace does not match the allowed pattern: " ++ text,
        scopes := [ns] })
  | noLabels : i.spec.labels.isEmpty → Finds i before .labels [] .holds
  | labels {labelled} : i.spec.labels.isEmpty = false →
      (∀ ns ∈ i.spec.namespaces, ns ∈ labelled) →
      Finds i before .labels [⟨.call (.namespacesWith i.spec.labels), .ok labelled⟩] .holds
  | otherLabels {labelled astray} : i.spec.labels.isEmpty = false →
      i.spec.namespaces.filter (fun ns => ns ∉ labelled) = astray → astray ≠ [] →
      Finds i before .labels [⟨.call (.namespacesWith i.spec.labels), .ok labelled⟩] (.broken {
        path := "spec.namespaces",
        message := "the following namespaces do not match the specified labels ("
          ++ Text.join ", " (i.spec.labels.entries.map fun e => e.1 ++ "=" ++ e.2) ++ "): ["
          ++ Text.join " " astray ++ "]",
        scopes := astray })
  | fields : (∀ name ∈ i.edition.rulebook.custom.keys, i.spec.fields.contains name) →
      Finds i before .fields [] .holds
  | noField {first name later} : i.edition.rulebook.custom.keys = first ++ name :: later →
      (∀ n ∈ first, i.spec.fields.contains n) → ¬i.spec.fields.contains name →
      Finds i before .fields [] (.broken {
        path := "spec.jiraFields", message := "missing custom field: " ++ name })
  | reporter {account} :
      Finds i before .reporter [⟨.call (.accountOf i.spec.reporter), .ok account⟩] .holds
  | noReporter {f} : f.isAbsent →
      Finds i before .reporter [⟨.call (.accountOf i.spec.reporter), .error f⟩] (.broken {
        path := "spec.userEmail",
        message := "failed to find reporter user: " ++ i.spec.reporter })
  | person {field handle account} : i.handle? field = some handle →
      (i.selfApproval = false → before.findSome? Turn.account? ≠ some account) →
      Finds i before (.person field) [⟨.call (.accountOf handle), .ok account⟩] .holds
  | nobody {field} : i.handle? field = none →
      Finds i before (.person field) [] (.broken {
        path := "spec.jiraFields." ++ field,
        message := "Jira user does not exist or failed to find user: " ++ field })
  | noPerson {field handle f} : i.handle? field = some handle → f.isAbsent →
      Finds i before (.person field) [⟨.call (.accountOf handle), .error f⟩] (.broken {
        path := "spec.jiraFields." ++ field,
        message := "Jira user does not exist or failed to find user: " ++ field })
  | samePerson {field handle account} : i.handle? field = some handle → i.selfApproval = false →
      before.findSome? Turn.account? = some account →
      Finds i before (.person field) [⟨.call (.accountOf handle), .ok account⟩] (.broken {
        path := "spec.jiraFields." ++ field,
        message := "Reporter '" ++ i.spec.reporter ++ "' cannot be the same as user field '"
          ++ field ++ "'" })
  | unanswered {rule c f} : i.question? rule = some c → (f.isAbsent → rule = .labels) →
      Finds i before rule [⟨.call c, .error f⟩] (.unsettled f)

inductive Passes (i : Inspection) : List Rule → List Turn → Prop
  | start : Passes i [] []
  | next {passed said rule own} : Passes i passed said → i.Finds said rule own .holds →
      Passes i (passed ++ [rule]) (said ++ own)

/-- The rules that are applied, what is said for them, and what comes of it. -/
inductive Settles (i : Inspection) : List Rule → List Turn → Except Fault (Option Violation) → Prop
  | admitted {said} : i.Passes i.rules said → Settles i i.rules said (.ok none)
  | broken {passed rule later said own v} : i.rules = passed ++ rule :: later →
      i.Passes passed said → i.Finds said rule own (.broken v) →
      Settles i (passed ++ [rule]) (said ++ own) (.ok (some v))
  | unsettled {passed rule later said own f} : i.rules = passed ++ rule :: later →
      i.Passes passed said → i.Finds said rule own (.unsettled f) →
      Settles i (passed ++ [rule]) (said ++ own) (.error f)

section

variable {α : Type} {i : Inspection} {passed : List Rule} {said talk : List Turn}
  {result : Except Fault (Option Violation)}

inductive Resolved (handle : String) (next : Option String → Program α) :
    List Turn → Except Fault α → Prop
  | found {account rest result} : (next (some account)).Dialogue rest (some result) →
      Resolved handle next (⟨.call (.accountOf handle), .ok account⟩ :: rest) result
  | absent {f rest result} : f.isAbsent → (next none).Dialogue rest (some result) →
      Resolved handle next (⟨.call (.accountOf handle), .error f⟩ :: rest) result
  | failed {f} : f.isAbsent = false →
      Resolved handle next [⟨.call (.accountOf handle), .error f⟩] (.error f)

theorem resolved {handle : String} {next : Option String → Program α} {result : Except Fault α}
    (d : (Validator.account? handle >>= next).Dialogue talk (some result)) :
    Resolved handle next talk result := by
  obtain ⟨answer, rest, rfl, later⟩ := d.of_step
  cases answer with
  | ok account => exact .found later
  | error f =>
    cases f with
    | notFound => exact .absent rfl later
    | _ =>
      obtain ⟨rfl, rfl⟩ := Dialogue.of_done later
      exact .failed rfl

theorem handle?_eq_some {field handle : String} : i.handle? field = some handle ↔
    (i.spec.fields.get? field).getD "" = handle ∧ Text.blank handle = false := by
  rw [handle?]
  cases i.spec.fields.get? field with
  | none =>
    have empty : Text.blank "" = true := by decide
    simp only [Option.filter_none, Option.getD_none, reduceCtorEq, false_iff, not_and]
    rintro rfl
    simp [empty]
  | some found =>
    simp only [Option.filter_eq_some_iff, Option.some.injEq, Option.getD_some, Bool.not_eq_true']

theorem people_settle {entries : List (String × FieldTarget)} {account : String}
    (order : i.rules = passed ++ entries.map fun e => .person e.1) (passes : i.Passes passed said)
    (known : said.findSome? Turn.account? = some account)
    (d : (Validator.userFieldViolation? i.spec (if i.selfApproval then none else some account)
      entries).Dialogue talk (some result)) :
    ∃ applied, i.Settles applied (said ++ talk) result := by
  -- further accounts come after the reporter's, which stays the first
  induction entries generalizing passed said talk with
  | nil =>
    obtain ⟨rfl, rfl⟩ := d.of_done
    rw [List.map_nil, List.append_nil] at order
    rw [List.append_nil]
    exact ⟨_, .admitted (order ▸ passes)⟩
  | cons entry entries ih =>
    obtain ⟨field, target⟩ := entry
    rw [List.map_cons] at order
    rw [Validator.userFieldViolation?] at d
    dsimp only at d
    generalize hvalue : (i.spec.fields.get? field).getD "" = value at d
    cases hblank : Text.blank value with
    | true =>
      rw [hblank, if_pos rfl] at d
      obtain ⟨rfl, rfl⟩ := Dialogue.of_done d
      have empty : i.handle? field = none := by
        refine Option.eq_none_iff_forall_ne_some.2 fun handle h => ?_
        obtain ⟨rfl, filled⟩ := handle?_eq_some.1 h
        rw [hvalue, hblank] at filled
        cases filled
      exact ⟨_, .broken order passes (.nobody empty)⟩
    | false =>
      rw [hblank, if_neg Bool.false_ne_true] at d
      have filled : i.handle? field = some value := handle?_eq_some.2 ⟨hvalue, hblank⟩
      cases resolved d with
      | @found other _ _ later =>
        dsimp only at later
        by_cases same : (if i.selfApproval then none else some account) = some other
        · rw [if_pos same] at later
          obtain ⟨rfl, rfl⟩ := later.of_done
          obtain ⟨strict, rfl⟩ : i.selfApproval = false ∧ account = other := by simpa using same
          exact ⟨_, .broken order passes (.samePerson filled strict known)⟩
        · rw [if_neg same] at later
          have another : i.selfApproval = false → said.findSome? Turn.account? ≠ some other := by
            intro strict heq
            rw [strict, if_neg Bool.false_ne_true, ← known] at same
            exact same heq
          rw [List.append_cons] at order ⊢
          refine ih order (passes.next (.person filled another)) ?_ later
          rw [List.findSome?_append, known, Option.some_or]
      | absent missing later =>
        obtain ⟨rfl, rfl⟩ := later.of_done
        exact ⟨_, .broken order passes (.noPerson filled missing)⟩
      | @failed f other =>
        have asked : i.question? (.person field) = some (.accountOf value) := by
          rw [question?, filled, Option.map_some]
        have reachable : ¬f.isAbsent := by simp [other]
        exact ⟨_, .unsettled order passes (.unanswered asked fun absent => absurd absent reachable)⟩

theorem identities_settle (order : i.rules = passed ++ i.personal) (passes : i.Passes passed said)
    (unknown : said.findSome? Turn.account? = none)
    (d : (i.validator.identityViolation? i.spec i.edition).Dialogue talk (some result)) :
    ∃ applied, i.Settles applied (said ++ talk) result := by
  rw [Validator.identityViolation?] at d
  rw [personal] at order
  cases hi : i.validator.identities with
  | false =>
    rw [hi, if_neg Bool.false_ne_true] at d order
    obtain ⟨rfl, rfl⟩ := Dialogue.of_done d
    rw [List.append_nil] at order ⊢
    exact ⟨_, .admitted (order ▸ passes)⟩
  | true =>
    rw [hi, if_pos rfl] at d order
    cases resolved d with
    | found later =>
      rw [List.append_cons] at order ⊢
      refine people_settle order (passes.next .reporter) ?_ later
      rw [List.findSome?_append, unknown]
      rfl
    | absent missing later =>
      obtain ⟨rfl, rfl⟩ := Dialogue.of_done later
      exact ⟨_, .broken order passes (.noReporter missing)⟩
    | @failed f other =>
      have reachable : ¬f.isAbsent := by simp [other]
      exact ⟨_, .unsettled order passes (.unanswered rfl fun absent => absurd absent reachable)⟩

theorem missingField?_eq_some {name : String}
    (h : Policy.missingField? i.spec i.edition = some name) :
    ∃ first later, i.edition.rulebook.custom.keys = first ++ name :: later ∧
      (∀ n ∈ first, i.spec.fields.contains n) ∧ ¬i.spec.fields.contains name := by
  obtain ⟨hname, first, later, split, others⟩ := List.find?_eq_some_iff_append.1 h
  refine ⟨first, later, split, fun n hn => ?_, fun given => ?_⟩
  · simpa only [Bool.not_not] using others n hn
  · rw [given] at hname
    cases hname

theorem fields_settle (order : i.rules = passed ++ .fields :: i.personal)
    (passes : i.Passes passed said) (unknown : said.findSome? Turn.account? = none)
    (d : (match Policy.fieldViolation? i.spec i.edition with
      | some v => return some v
      | none => i.validator.identityViolation? i.spec i.edition : Program _).Dialogue talk
        (some result)) :
    ∃ applied, i.Settles applied (said ++ talk) result := by
  cases hf : Policy.missingField? i.spec i.edition with
  | some name =>
    rw [Policy.fieldViolation?, hf] at d
    obtain ⟨rfl, rfl⟩ := Dialogue.of_done d
    obtain ⟨first, later, split, others, missing⟩ := missingField?_eq_some hf
    exact ⟨_, .broken order passes (.noField split others missing)⟩
  | none =>
    rw [Policy.fieldViolation?, hf] at d
    have held := passes.next (.fields (Policy.missingField?_eq_none.1 hf))
    rw [List.append_nil] at held
    rw [List.append_cons] at order
    exact identities_settle order held unknown d

theorem patternText?_of_pattern {e : Edition} {p : Pattern} (h : e.pattern = some p) :
    ∃ text, e.rulebook.patternText? = some text ∧ e.rulebook.namespacePattern = some text := by
  have compiled := e.compiled
  rw [h, Rulebook.pattern] at compiled
  cases written : e.rulebook.patternText? with
  | none =>
    rw [written] at compiled
    cases compiled
  | some text => exact ⟨text, rfl, (Option.filter_eq_some_iff.1 written).1⟩

theorem finds_otherName {v : Violation} (h : Policy.patternViolation? i.spec i.edition = some v) :
    i.Finds said .pattern [] (.broken v) := by
  rw [Policy.patternViolation?] at h
  cases hp : i.edition.pattern with
  | none =>
    rw [hp] at h
    cases h
  | some p =>
    rw [hp] at h
    obtain ⟨ns, hns, rfl⟩ := Option.map_eq_some_iff.1 h
    obtain ⟨other, first, later, split, others⟩ := List.find?_eq_some_iff_append.1 hns
    obtain ⟨text, htext, written⟩ := patternText?_of_pattern hp
    rw [htext, Option.getD_some]
    refine .otherName hp written split (fun n hn => ?_) fun fits => ?_
    · simpa only [Bool.not_not] using others n hn
    · rw [fits] at other
      cases other

theorem finds_otherLabels {labelled : List String} {v : Violation}
    (given : i.spec.labels.isEmpty = false)
    (h : Policy.labelViolation? i.spec labelled = some v) :
    i.Finds said .labels [⟨.call (.namespacesWith i.spec.labels), .ok labelled⟩] (.broken v) := by
  have found : i.spec.namespaces.filter (fun ns => ns ∉ labelled) =
      i.spec.namespaces.filter fun ns => !labelled.contains ns := by simp
  simp only [Policy.labelViolation?] at h
  split at h
  · cases h
  · next unfit =>
    cases h
    exact .otherLabels given found fun fit => unfit (.inr fit)

theorem scope_settle (order : i.rules = passed ++ .pattern :: .labels :: .fields :: i.personal)
    (passes : i.Passes passed [])
    (d : (do
      match ← Validator.scopeViolation? i.spec i.edition true with
      | some v => return some v
      | none =>
        match Policy.fieldViolation? i.spec i.edition with
        | some v => return some v
        | none => i.validator.identityViolation? i.spec i.edition : Program _).Dialogue talk
        (some result)) :
    ∃ applied, i.Settles applied talk result := by
  rw [Validator.scopeViolation?] at d
  cases hp : Policy.patternViolation? i.spec i.edition with
  | some v =>
    rw [hp] at d
    obtain ⟨rfl, rfl⟩ := Dialogue.of_done d
    exact ⟨_, .broken order passes (finds_otherName hp)⟩
  | none =>
    rw [hp] at d
    have named := passes.next (.pattern (Policy.patternViolation?_eq_none.1 hp))
    rw [List.append_cons] at order
    cases hl : i.spec.labels.isEmpty with
    | true =>
      rw [hl] at d
      have placed := named.next (.noLabels hl)
      rw [List.append_cons] at order
      exact fields_settle order placed rfl d
    | false =>
      rw [hl] at d
      obtain ⟨answer, rest, rfl, later⟩ := Dialogue.of_step d
      cases answer with
      | error f =>
        obtain ⟨rfl, rfl⟩ := Dialogue.of_done later
        have asked : i.question? .labels = some (.namespacesWith i.spec.labels) := by
          rw [question?, hl]
          rfl
        exact ⟨_, .unsettled order named (.unanswered asked fun _ => rfl)⟩
      | ok labelled =>
        change (Program.bind (done (.ok (Policy.labelViolation? i.spec labelled))) _).Dialogue rest
          _ at later
        cases hv : Policy.labelViolation? i.spec labelled with
        | some v =>
          rw [hv] at later
          obtain ⟨rfl, rfl⟩ := Dialogue.of_done later
          exact ⟨_, .broken order named (finds_otherLabels hl hv)⟩
        | none =>
          rw [hv] at later
          have comprised : ∀ ns ∈ i.spec.namespaces, ns ∈ labelled :=
            (Policy.labelViolation?_eq_none.1 hv).resolve_left (by simp [hl])
          rw [List.append_cons] at order
          exact fields_settle order (named.next (.labels hl comprised)) rfl later

theorem finds_otherRole {v : Violation} (h : Policy.roleViolation? i.spec i.edition = some v) :
    i.Finds said .role [] (.broken v) := by
  simp only [Policy.roleViolation?, Edition.allowsRole, List.contains_iff_mem] at h
  split at h
  · cases h
  · next other =>
    cases h
    exact .otherRole other

theorem finds_late {v : Violation} (h : Policy.startViolation? i.spec i.now = some v) :
    i.Finds said .start [] (.broken v) := by
  rw [Policy.startViolation?] at h
  split at h
  · cases h
  · next late =>
    cases h
    exact .late late

theorem finds_noWindow {v : Violation} (h : Policy.windowViolation? i.spec = some v) :
    i.Finds said .window [] (.broken v) := by
  simp only [Policy.windowViolation?, Request.Spec.endsAfterStart, decide_eq_true_eq] at h
  split at h
  · cases h
  · next early =>
    cases h
    exact .noWindow early

theorem program_settles (d : i.program.Dialogue talk (some result)) :
    ∃ applied, i.Settles applied talk result := by
  rw [program, Validator.violation?] at d
  cases hr : Policy.roleViolation? i.spec i.edition with
  | some v =>
    rw [hr] at d
    obtain ⟨rfl, rfl⟩ := Dialogue.of_done d
    exact ⟨_, .broken rfl .start (finds_otherRole hr)⟩
  | none =>
    rw [hr] at d
    have role := Passes.start.next (.role (Policy.roleViolation?_eq_none.1 hr))
    cases hs : Policy.startViolation? i.spec i.now with
    | some v =>
      rw [hs] at d
      obtain ⟨rfl, rfl⟩ := Dialogue.of_done d
      exact ⟨_, .broken rfl role (finds_late hs)⟩
    | none =>
      rw [hs] at d
      have early := role.next (.start (Policy.startViolation?_eq_none.1 hs))
      cases hw : Policy.windowViolation? i.spec with
      | some v =>
        rw [hw] at d
        obtain ⟨rfl, rfl⟩ := Dialogue.of_done d
        exact ⟨_, .broken rfl early (finds_noWindow hw)⟩
      | none =>
        rw [hw] at d
        have window := early.next (.window (Policy.windowViolation?_eq_none.1 hw))
        exact scope_settle rfl window d

variable {applied before after : List Rule} {rule : Rule} {own : List Turn} {finding : Finding}

theorem Finds.asks (h : i.Finds said rule own finding) :
    own.map Sigma.fst = (i.question? rule).toList.map .call := by
  cases h with
  | noLabels none_given => simp [question?, none_given]
  | labels given => simp [question?, given]
  | otherLabels given => simp [question?, given]
  | person filled => simp [question?, filled]
  | nobody empty => simp [question?, empty]
  | noPerson filled => simp [question?, filled]
  | samePerson filled => simp [question?, filled]
  | unanswered asked => simp [asked]
  | _ => rfl

theorem Passes.asks (h : i.Passes passed said) :
    said.map Sigma.fst = (passed.filterMap i.question?).map .call := by
  induction h with
  | start => rfl
  | @next _ _ rule _ _ holds ih =>
    rw [List.map_append, List.filterMap_append, List.map_append, ih, holds.asks]
    cases h : i.question? rule <;> simp [h]

theorem asks_append (h : i.Passes passed said) (last : i.Finds said rule own finding) :
    (said ++ own).map Sigma.fst = ((passed ++ [rule]).filterMap i.question?).map .call := by
  rw [List.map_append, List.filterMap_append, List.map_append, h.asks, last.asks]
  cases h : i.question? rule <;> simp [h]

theorem Settles.asks (h : i.Settles applied talk result) :
    talk.map Sigma.fst = (applied.filterMap i.question?).map .call := by
  cases h with
  | admitted passes => exact passes.asks
  | broken _ passes last => exact asks_append passes last
  | unsettled _ passes last => exact asks_append passes last

theorem Settles.isPrefix (h : i.Settles applied talk result) : applied <+: i.rules := by
  cases h with
  | admitted => exact List.prefix_refl _
  | broken order => exact ⟨_, by rw [order, List.append_assoc, List.singleton_append]⟩
  | unsettled order => exact ⟨_, by rw [order, List.append_assoc, List.singleton_append]⟩

theorem Passes.of_prefix (h : i.Passes passed said) (within : before <+: passed) :
    ∃ said, i.Passes before said := by
  induction h with
  | start =>
    rw [List.prefix_nil.1 within]
    exact ⟨_, .start⟩
  | next passes holds ih =>
    cases List.prefix_concat_iff.1 within with
    | inl whole => exact ⟨_, whole ▸ passes.next holds⟩
    | inr part => exact ih part

theorem Settles.passes (h : i.Settles applied talk result)
    (split : applied = before ++ rule :: after) : ∃ said, i.Passes before said := by
  have shorter {passed : List Rule} {last : Rule}
      (split : passed ++ [last] = before ++ rule :: after) : before <+: passed := by
    have within : before <+: passed ++ [last] := ⟨rule :: after, split.symm⟩
    refine (List.prefix_concat_iff.1 within).resolve_left fun whole => ?_
    rw [whole] at split
    simp at split
  cases h with
  | admitted passes => exact passes.of_prefix ⟨_, split.symm⟩
  | broken _ passes _ => exact passes.of_prefix (shorter split)
  | unsettled _ passes _ => exact passes.of_prefix (shorter split)

theorem prefix_of_fresh {front back : List Rule} (split : front ++ back = before ++ rule :: after)
    (fresh : rule ∉ front) : front <+: before := by
  induction front generalizing before with
  | nil => exact List.nil_prefix
  | cons first front ih =>
    cases before with
    | nil => exact absurd (List.mem_cons.2 (.inl (List.cons.inj split).1.symm)) fresh
    | cons other before =>
      obtain ⟨rfl, tails⟩ := List.cons.inj split
      exact List.cons_prefix_cons.2 ⟨rfl, ih tails fun h => fresh (List.mem_cons_of_mem _ h)⟩

theorem Settles.passes_of_asked {c : Call} (h : i.Settles applied talk result)
    (asked : .call c ∈ talk.map Sigma.fst) :
    ∃ rule ∈ i.rules, i.question? rule = some c ∧
      ∀ front back, i.rules = front ++ back → rule ∉ front → ∃ said, i.Passes front said := by
  rw [h.asks, List.mem_map] at asked
  obtain ⟨c, hc, ⟨⟩⟩ := asked
  obtain ⟨rule, hrule, question⟩ := List.mem_filterMap.1 hc
  obtain ⟨before, after, split⟩ := List.append_of_mem hrule
  obtain ⟨unapplied, whole⟩ := h.isPrefix
  refine ⟨rule, h.isPrefix.subset hrule, question, fun front back order fresh => ?_⟩
  obtain ⟨said, passes⟩ := h.passes split
  rw [split, order, List.append_assoc, List.cons_append] at whole
  exact passes.of_prefix (prefix_of_fresh whole.symm fresh)

theorem question?_directory {labels : Dict String}
    (h : i.question? rule = some (.namespacesWith labels)) :
    rule = .labels ∧ i.spec.labels.isEmpty = false ∧ i.spec.labels = labels := by
  cases rule with
  | labels =>
    rw [question?] at h
    split at h
    · cases h
    · next given =>
      cases h
      exact ⟨rfl, by simpa using given, rfl⟩
  | person field =>
    obtain ⟨_, -, h⟩ := Option.map_eq_some_iff.1 h
    cases h
  | _ => cases h

theorem question?_account {handle : String} (h : i.question? rule = some (.accountOf handle)) :
    rule ∉ [.role, .start, .window, .pattern, .labels, .fields] := by
  cases rule with
  | reporter => simp
  | person => simp
  | labels =>
    rw [question?] at h
    split at h <;> cases h
  | _ => cases h

theorem labels_not_mem_personal : Rule.labels ∉ i.personal := by
  rw [personal]
  split <;> simp

theorem Settles.count_directory_le (h : i.Settles applied talk result) :
    (talk.map Sigma.fst).count (.call (.namespacesWith i.spec.labels)) ≤ 1 := by
  have elsewhere : Operation.call (.namespacesWith i.spec.labels) ∉
      (i.personal.filterMap i.question?).map .call := by
    intro asked
    obtain ⟨c, hc, ⟨⟩⟩ := List.mem_map.1 asked
    obtain ⟨rule, hrule, question⟩ := List.mem_filterMap.1 hc
    obtain ⟨rfl, -, -⟩ := question?_directory question
    exact labels_not_mem_personal hrule
  have once : ((i.rules.filterMap i.question?).map Operation.call).count
      (.call (.namespacesWith i.spec.labels)) ≤ 1 := by
    rw [rules, List.filterMap_append, List.map_append, List.count_append,
      List.count_eq_zero.2 elsewhere, Nat.add_zero]
    refine Nat.le_trans List.count_le_length ?_
    cases hl : i.spec.labels.isEmpty <;> simp [List.filterMap_cons, question?, hl]
  rw [h.asks]
  exact Nat.le_trans (((h.isPrefix.sublist.filterMap _).map _).count_le _) once

theorem people_ordered : i.people.Pairwise fun a b => a.1 < b.1 :=
  i.edition.rulebook.custom.ordered.filter _

end

def talk (i : Inspection) (around : Surroundings) : List Turn := (i.program.amid around []).1

def outcome (i : Inspection) (around : Surroundings) : Except Fault (Option Violation) :=
  (i.program.amid around []).2

def asked (i : Inspection) (around : Surroundings) : List Operation :=
  (i.talk around).map Sigma.fst

variable {i : Inspection} {around : Surroundings}

theorem settles (i : Inspection) (around : Surroundings) :
    ∃ applied, i.Settles applied (i.talk around) (i.outcome around) :=
  program_settles dialogue_amid

theorem directory_asked {labels : Dict String}
    (h : .call (.namespacesWith labels) ∈ i.asked around) :
    labels = i.spec.labels ∧ i.spec.labels.isEmpty = false ∧
      ∃ said, i.Passes [.role, .start, .window, .pattern] said := by
  obtain ⟨applied, settles⟩ := i.settles around
  obtain ⟨rule, -, question, passes⟩ := settles.passes_of_asked h
  obtain ⟨rfl, given, rfl⟩ := question?_directory question
  exact ⟨rfl, given, passes _ _ rfl (by simp)⟩

theorem account_asked {handle : String} (h : .call (.accountOf handle) ∈ i.asked around) :
    i.validator.identities = true ∧
      ∃ said, i.Passes [.role, .start, .window, .pattern, .labels, .fields] said := by
  obtain ⟨applied, settles⟩ := i.settles around
  obtain ⟨rule, among, question, passes⟩ := settles.passes_of_asked h
  have fresh := question?_account question
  refine ⟨?_, passes _ _ rfl fresh⟩
  have personal := (List.mem_append.1 among).resolve_left fresh
  rw [Inspection.personal] at personal
  split at personal
  · assumption
  · cases personal

/-- The rules are applied in order, up to the first that does not hold and no further. Nothing is
asked but what these rules need: the directory at most once, if the rules before the labels hold and
labels are given, and accounts if all rules hold that come before those for people. -/
theorem first_broken_rule_decides (i : Inspection) (around : Surroundings) :
    (∃ applied, i.Settles applied (i.talk around) (i.outcome around) ∧
      i.asked around = (applied.filterMap i.question?).map .call) ∧
    (i.asked around).count (.call (.namespacesWith i.spec.labels)) ≤ 1 ∧
    (∀ labels, .call (.namespacesWith labels) ∈ i.asked around →
      labels = i.spec.labels ∧ i.spec.labels.isEmpty = false ∧
        ∃ said, i.Passes [.role, .start, .window, .pattern] said) ∧
    (∀ handle, .call (.accountOf handle) ∈ i.asked around →
      i.validator.identities = true ∧
        ∃ said, i.Passes [.role, .start, .window, .pattern, .labels, .fields] said) ∧
    i.people.Pairwise fun a b => a.1 < b.1 := by
  obtain ⟨applied, settles⟩ := i.settles around
  exact ⟨⟨applied, settles, settles.asks⟩, settles.count_directory_le,
    fun _ => directory_asked, fun _ => account_asked, people_ordered⟩

end Inspection

end AccessWindow
