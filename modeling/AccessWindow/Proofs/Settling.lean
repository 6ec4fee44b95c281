import AccessWindow.Proofs.History

namespace AccessWindow

namespace Turn

def write? : Turn → Option (Request × Except Fault Request)
  | ⟨.call (.putStatus r), answer⟩ => some (r, answer)
  | _ => none

def reread? : Turn → Option (String × Except Fault Request)
  | ⟨.call (.requestNamed name), answer⟩ => some (name, answer)
  | _ => none

def pause? : Turn → Option Time.Duration
  | ⟨.sleep span, _⟩ => some span
  | _ => none

def Stale (x : Turn) : Prop := ∃ r message, x = ⟨.call (.putStatus r), .error (.conflict message)⟩

def fatal? : Turn → Option Fault
  | ⟨.call (.putStatus _), .error f⟩ => if f.isStale then none else some f
  | ⟨.call (.requestNamed _), .error f⟩ => some f
  | _ => none

/-- The turn writes this record under its own version, with nothing but the status changed to the
update and the record's own window; or it asks for the record again. -/
def Rests (u : Request.Update) (r : Request) : Turn → Prop
  | ⟨.call (.putStatus sent), _⟩ =>
    sent = { r with
      status := ⟨u.phase, u.message, u.ticket, some r.spec.start, some r.spec.finish⟩ }
  | ⟨.call (.requestNamed name), _⟩ => name = r.name
  | _ => True

end Turn

def writes (talk : List Turn) : List (Request × Except Fault Request) := talk.filterMap Turn.write?

def rereads (talk : List Turn) : List (String × Except Fault Request) :=
  talk.filterMap Turn.reread?

def pauses (talk : List Turn) : List Time.Duration := talk.filterMap Turn.pause?

def Moment.Takes (m : Moment) : Prop := (∃ r, m.op = .call (.putStatus r)) ∧ m.after ≠ m.before

def Throughout (fits : List Turn → Turn → List Turn → Prop) (past talk : List Turn) : Prop :=
  ∀ before x after, talk = before ++ x :: after → fits (past ++ before) x after

section Throughout

variable {fits : List Turn → Turn → List Turn → Prop} {past talk : List Turn} {x : Turn}

@[simp] theorem throughout_nil : Throughout fits past [] := by
  intro before x after h
  cases before <;> cases h

@[simp] theorem throughout_cons :
    Throughout fits past (x :: talk) ↔ fits past x talk ∧ Throughout fits (past ++ [x]) talk := by
  constructor
  · refine fun h => ⟨?_, fun before y after htalk => ?_⟩
    · simpa using h [] x talk rfl
    · simpa using h (x :: before) y after (congrArg (x :: ·) htalk)
  · rintro ⟨first, others⟩ before y after htalk
    cases before with
    | nil =>
      cases htalk
      simpa using first
    | cons z before =>
      cases htalk
      simpa using others before y after rfl

end Throughout

def LastOrStale (_ : List Turn) (x : Turn) (after : List Turn) : Prop :=
  (∃ sent, x.1 = .call (.putStatus sent)) → after = [] ∨ x.Stale

theorem pairwise_takes {past : List Turn} {moments : List Moment}
    (fits : Throughout LastOrStale past (moments.map Moment.said))
    (refusal : ∀ m ∈ moments, m.said.Stale → m.after = m.before) :
    moments.Pairwise fun a b => ¬(a.Takes ∧ b.Takes) := by
  induction moments generalizing past with
  | nil => exact .nil
  | cons m others ih =>
    obtain ⟨first, later⟩ := throughout_cons.1 fits
    obtain ⟨refused, refusals⟩ := List.forall_mem_cons.1 refusal
    refine .cons (fun b hb both => ?_) (ih later refusals)
    obtain ⟨write, changed⟩ := both.1
    cases first write with
    | inl ends => simp [List.map_eq_nil_iff.1 ends] at hb
    | inr stale => exact changed (refused stale)

namespace Lifecycle

open Program

def attempt (u : Request.Update) (r : Request) (answer : Except Fault Request) : Turn :=
  ⟨.call (.putStatus (r.record u)), answer⟩

def rest (retry : Retry) (made : Nat) : Turn := ⟨.sleep (retry.pauseAfter made), ()⟩

def reread (r : Request) (answer : Except Fault Request) : Turn :=
  ⟨.call (.requestNamed r.name), answer⟩

/-- How the attempts go on when some have been made, on the record in hand; with the record that is
in hand at the end, and what has come of them. -/
inductive Settling (retry : Retry) (u : Request.Update) :
    Nat → Request → List Turn → Request → Except Fault Unit → Prop
  | stored {made r stored} : made < retry.attempts →
      Settling retry u made r [attempt u r (.ok stored)] stored (.ok ())
  | refused {made r f} : made < retry.attempts → f.isStale = false →
      Settling retry u made r [attempt u r (.error f)] r (.error f)
  | exhausted {made r message} : made + 1 = retry.attempts →
      Settling retry u made r [attempt u r (.error (.conflict message))] r
        (.error (.conflictExhausted retry.attempts message))
  | lost {made r message f} : made + 1 < retry.attempts →
      Settling retry u made r
        [attempt u r (.error (.conflict message)), rest retry (made + 1), reread r (.error f)] r
        (.error f)
  | again {made r message newer talk held outcome} : made + 1 < retry.attempts →
      Settling retry u (made + 1) newer talk held outcome →
      Settling retry u made r
        (attempt u r (.error (.conflict message)) :: rest retry (made + 1) ::
          reread r (.ok newer) :: talk) held outcome

variable {retry : Retry} {u : Request.Update} {made left n : Nat} {r held sent stored : Request}
  {talk past : List Turn} {outcome : Except Fault Unit} {message : String}
  {answer : Except Fault Request} {f : Fault}

@[simp] theorem writes_nil : writes [] = [] := rfl

@[simp] theorem writes_attempt :
    writes (attempt u r answer :: talk) = (r.record u, answer) :: writes talk := rfl

@[simp] theorem writes_rest : writes (rest retry n :: talk) = writes talk := rfl

@[simp] theorem writes_reread : writes (reread r answer :: talk) = writes talk := rfl

@[simp] theorem rereads_attempt : rereads (attempt u r answer :: talk) = rereads talk := rfl

@[simp] theorem rereads_rest : rereads (rest retry n :: talk) = rereads talk := rfl

@[simp] theorem rereads_reread :
    rereads (reread r answer :: talk) = (r.name, answer) :: rereads talk := rfl

@[simp] theorem pauses_attempt : pauses (attempt u r answer :: talk) = pauses talk := rfl

@[simp] theorem pauses_rest :
    pauses (rest retry n :: talk) = retry.pauseAfter n :: pauses talk := rfl

@[simp] theorem pauses_reread : pauses (reread r answer :: talk) = pauses talk := rfl

@[simp] theorem fatal?_attempt_ok : (attempt u r (.ok stored)).fatal? = none := rfl

@[simp] theorem fatal?_attempt_error :
    (attempt u r (.error f)).fatal? = if f.isStale then none else some f := rfl

@[simp] theorem fatal?_rest : (rest retry n).fatal? = none := rfl

@[simp] theorem fatal?_reread_ok : (reread r (.ok stored)).fatal? = none := rfl

@[simp] theorem fatal?_reread_error : (reread r (.error f)).fatal? = some f := rfl

@[simp] theorem isStale_conflict : (Fault.conflict message).isStale = true := rfl

namespace Settling

theorem only (h : Settling retry u made r talk held outcome) : Only Operation.isEntry talk := by
  induction h with
  | again _ _ ih =>
    simp only [Only, List.forall_mem_cons]
    exact ⟨rfl, rfl, rfl, ih⟩
  | _ => simp [Only, attempt, rest, reread, Operation.isEntry]

theorem writes_le (h : Settling retry u made r talk held outcome) :
    made + (writes talk).length ≤ retry.attempts := by
  induction h with
  | again _ _ ih =>
    simp only [writes_attempt, writes_rest, writes_reread, List.length_cons]
    omega
  | _ =>
    simp only [writes_attempt, writes_rest, writes_reread, List.length_cons]
    change _ + 1 ≤ _
    omega

theorem writes_pos (h : Settling retry u made r talk held outcome) : 0 < (writes talk).length := by
  cases h <;> exact Nat.succ_pos _

theorem pauses_eq (h : Settling retry u made r talk held outcome) :
    pauses talk = (List.range (rereads talk).length).map fun k =>
      retry.pauseAfter (made + k + 1) := by
  induction h with
  | again _ _ ih =>
    simp only [pauses_attempt, pauses_rest, pauses_reread, rereads_attempt, rereads_rest,
      rereads_reread, List.length_cons, List.range_succ_eq_map, List.map_cons, List.map_map, ih]
    refine congrArg (_ :: ·) (List.map_congr_left fun k _ => ?_)
    simp only [Function.comp_apply]
    congr 1
    omega
  | _ => rfl

theorem rereads_length (h : Settling retry u made r talk held outcome) :
    ((rereads talk).length + 1 = (writes talk).length ∧
        ∀ x ∈ rereads talk, ∃ newer, x.2 = .ok newer) ∨
      ((rereads talk).length = (writes talk).length ∧
        ∃ name f, talk.getLast? = some ⟨.call (.requestNamed name), .error f⟩) := by
  induction h with
  | again _ _ ih =>
    simp only [writes_attempt, writes_rest, writes_reread, rereads_attempt, rereads_rest,
      rereads_reread, List.length_cons, List.forall_mem_cons]
    refine ih.imp (fun ⟨hlength, ok⟩ => ⟨by omega, ⟨_, rfl⟩, ok⟩) ?_
    rintro ⟨hlength, name, f, hlast⟩
    exact ⟨by omega, name, f, by simp [List.getLast?_cons, hlast]⟩
  | lost => exact .inr ⟨rfl, _, _, rfl⟩
  | _ => exact .inl ⟨rfl, by simp [rereads, attempt, Turn.reread?]⟩

theorem rests_on_latest (h : Settling retry u made r talk held outcome) {first : Request}
    (hand : (latest Turn.record? past).getD first = r) :
    Throughout (fun before x _ => x.Rests u ((latest Turn.record? before).getD first)) past
      talk := by
  induction h generalizing past with
  | again _ _ ih =>
    simp only [throughout_cons, List.append_assoc]
    refine ⟨?_, trivial, ?_, ih ?_⟩ <;>
      simp [Turn.Rests, attempt, rest, reread, Turn.record?, hand, Request.record]
  | _ => simp [Turn.Rests, attempt, rest, reread, Turn.record?, hand, Request.record]

theorem stops (h : Settling retry u made r talk held outcome) :
    Throughout (fun _ x after => ∀ f, x.fatal? = some f → after = [] ∧ outcome = .error f) past
      talk := by
  induction h generalizing past with
  | again _ _ ih => simpa using ih
  | refused _ fresh => simp [fresh]
  | _ => simp

theorem last_or_stale (h : Settling retry u made r talk held outcome) :
    Throughout LastOrStale past talk := by
  induction h generalizing past with
  | again _ _ ih =>
    simp only [throughout_cons, LastOrStale]
    refine ⟨fun _ => .inr ⟨_, _, rfl⟩, ?_, ?_, ih⟩ <;>
    · rintro ⟨_, h⟩
      cases h
  | lost =>
    simp only [throughout_cons, throughout_nil, LastOrStale, and_true]
    refine ⟨fun _ => .inr ⟨_, _, rfl⟩, ?_, fun _ => .inl trivial⟩
    rintro ⟨_, h⟩
    cases h
  | _ => simp only [throughout_cons, throughout_nil, LastOrStale, and_true, true_or, implies_true]

theorem getLast?_writes_cons (h : Settling retry u made r talk held outcome)
    {x : Request × Except Fault Request} :
    (x :: writes talk).getLast? = (writes talk).getLast? := by
  obtain ⟨y, rest, hw⟩ := List.exists_cons_of_length_pos h.writes_pos
  rw [hw, List.getLast?_cons_cons]

theorem ok_iff (h : Settling retry u made r talk held outcome) :
    outcome = .ok () ∧ held = stored ↔
      ∃ sent, (writes talk).getLast? = some (sent, .ok stored) := by
  induction h with
  | again _ more ih => simpa [more.getLast?_writes_cons] using ih
  | _ => simp

theorem held_eq (h : Settling retry u made r talk held outcome) :
    held = (latest Turn.record? talk).getD r := by
  induction h with
  | again _ _ ih => simp_all [attempt, rest, reread, Turn.record?]
  | _ => simp [attempt, rest, reread, Turn.record?]

theorem exhausted_iff (h : Settling retry u made r talk held outcome) :
    outcome = .error (.conflictExhausted n message) ↔
      (made + (writes talk).length = retry.attempts ∧
        (∀ x ∈ writes talk, ∃ m, x.2 = .error (.conflict m)) ∧ n = retry.attempts ∧
        ∃ sent, (writes talk).getLast? = some (sent, .error (.conflict message))) ∨
      ∃ x ∈ talk, x.fatal? = some (.conflictExhausted n message) := by
  induction h with
  | stored => simp
  | @refused _ _ f _ fresh =>
    have not_conflict : ∀ m, f ≠ .conflict m := by
      rintro m rfl
      cases fresh
    simp [fresh, not_conflict]
  | exhausted last => simp [last, eq_comm]
  | lost more =>
    have short := Nat.ne_of_lt more
    simp [short]
  | again _ more ih =>
    rw [ih, writes_attempt, writes_rest, writes_reread, more.getLast?_writes_cons]
    simp [Nat.add_assoc, Nat.add_comm 1]

end Settling

structure Settles (retry : Retry) (u : Request.Update) (r : Request) (talk : List Turn)
    (held : Request) (outcome : Except Fault Unit) : Prop where
  entry : Only Operation.isEntry talk
  written : 0 < (writes talk).length
  bounded : (writes talk).length ≤ retry.attempts
  spaced : pauses talk = (List.range (rereads talk).length).map fun k =>
    min (retry.pause * (k + 1)) Time.Duration.longest
  between : ((rereads talk).length + 1 = (writes talk).length ∧
      ∀ x ∈ rereads talk, ∃ newer, x.2 = .ok newer) ∨
    ((rereads talk).length = (writes talk).length ∧
      ∃ name f, talk.getLast? = some ⟨.call (.requestNamed name), .error f⟩)
  rests : Throughout (fun before x _ => x.Rests u ((latest Turn.record? before).getD r)) [] talk
  stops : Throughout (fun _ x after => ∀ f, x.fatal? = some f → after = [] ∧ outcome = .error f) []
    talk
  stored : ∀ stored, outcome = .ok () ∧ held = stored ↔
    ∃ sent, (writes talk).getLast? = some (sent, .ok stored)
  held : held = (latest Turn.record? talk).getD r
  /-- The attempts are exhausted if all of them have met a newer version, or if the store itself
  says so. -/
  exhausted : ∀ n message, outcome = .error (.conflictExhausted n message) ↔
    ((writes talk).length = retry.attempts ∧
      (∀ x ∈ writes talk, ∃ m, x.2 = .error (.conflict m)) ∧ n = retry.attempts ∧
      ∃ sent, (writes talk).getLast? = some (sent, .error (.conflict message))) ∨
    ∃ x ∈ talk, x.fatal? = some (.conflictExhausted n message)
  once : ∀ moments : List Moment, moments.map Moment.said = talk →
    (∀ m ∈ moments, m.said.Stale → m.after = m.before) →
    moments.Pairwise fun a b => ¬(a.Takes ∧ b.Takes)

theorem Settling.settles (h : Settling retry u 0 r talk held outcome) :
    Settles retry u r talk held outcome where
  entry := h.only
  written := h.writes_pos
  bounded := by simpa using h.writes_le
  spaced := by simpa [Retry.pauseAfter] using h.pauses_eq
  between := h.rereads_length
  rests := h.rests_on_latest rfl
  stops := h.stops
  stored _ := h.ok_iff
  held := h.held_eq
  exhausted n message := by
    simpa using (h.exhausted_iff : outcome = .error (.conflictExhausted n message) ↔ _)
  once _ hsaid := by
    have fits : Throughout LastOrStale [] talk := h.last_or_stale
    exact pairwise_takes (hsaid ▸ fits)

end Lifecycle

namespace Sample

end Sample

end AccessWindow
