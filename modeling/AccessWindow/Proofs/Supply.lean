import AccessWindow.Cluster.Service
import AccessWindow.Proofs.Conduct.Evidence
import AccessWindow.Proofs.Editions
import AccessWindow.Proofs.History
import AccessWindow.Rulebook.Supply

namespace AccessWindow

open Rulebook

variable {others : Scene → Scene → Prop} {s s' : Scene} {m : Moment} {ms : List Moment}
  {before current after : Option Edition} {talk said rest : List Turn} {book : Rulebook}

def Moment.Installs (m : Moment) : Prop :=
  ∀ book answer, m.said = ⟨.adopt book, answer⟩ → answer = Edition.succeed m.before.edition book

inductive Turn.Carries : Option Edition → Turn → Option Edition → Prop
  | call {current : Option Edition} {c : Call} {answer : Except Fault c.Answer} :
      Carries current ⟨.call c, answer⟩ current
  | clock {current : Option Edition} {t : Instant} : Carries current ⟨.clock, t⟩ current
  | sleep {current : Option Edition} {span : Time.Duration} :
      Carries current ⟨.sleep span, ()⟩ current
  | edition {current : Option Edition} : Carries current ⟨.edition, current⟩ current
  | adopt {current : Option Edition} {book : Rulebook} :
      Carries current ⟨.adopt book, Edition.succeed current book⟩ (Edition.install current book)

inductive Carried : Option Edition → List Turn → Option Edition → Prop
  | nil {current : Option Edition} : Carried current [] current
  | cons {before current after : Option Edition} {x : Turn} {rest : List Turn} :
      Turn.Carries before x current → Carried current rest after →
      Carried before (x :: rest) after

theorem Moment.Installs.carries (h : m.Installs) :
    Turn.Carries m.before.edition m.said m.after.edition := by
  obtain ⟨before, op, answer, after, lawful⟩ := m
  cases op with
  | call c =>
    have leaves : before.Leaves (.call c) after := lawful.leaves
    have same : after.edition = before.edition := by cases leaves <;> rfl
    exact same ▸ .call
  | clock =>
    obtain ⟨-, rfl⟩ := lawful
    exact .clock
  | edition =>
    obtain ⟨rfl, rfl⟩ := lawful
    exact .edition
  | sleep span =>
    cases lawful
    exact .sleep
  | adopt book =>
    obtain rfl : answer = Edition.succeed before.edition book := h book answer rfl
    have installed : after.edition = Edition.install before.edition book := by
      rw [Edition.install]
      generalize Edition.succeed before.edition book = result at lawful
      cases result <;> cases lawful <;> rfl
    exact installed ▸ .adopt

theorem Moment.installs_of_ne (h : ∀ book, m.op ≠ .adopt book) : m.Installs :=
  fun book _ hm => absurd (congrArg Sigma.fst hm) (h book)

theorem Course.carried (h : Course others s ms s')
    (keeps : ∀ {a b}, others a b → b.edition = a.edition) (installs : ∀ m ∈ ms, m.Installs) :
    Carried s.edition (ms.map Moment.said) s'.edition := by
  induction h with
  | last idle => exact keeps idle ▸ .nil
  | next first _ ih =>
    have ⟨hm, hms⟩ := List.forall_mem_cons.1 installs
    exact keeps first ▸ .cons hm.carries (ih hms)

namespace Carried

theorem of_nil (h : Carried before [] after) : after = before := by
  cases h
  rfl

theorem of_call {c : Call} {answer : Except Fault c.Answer}
    (h : Carried before (⟨.call c, answer⟩ :: rest) after) : Carried before rest after := by
  cases h with
  | cons first later =>
    cases first
    exact later

theorem of_edition {answer : Option Edition}
    (h : Carried before (⟨.edition, answer⟩ :: rest) after) :
    answer = before ∧ Carried before rest after := by
  cases h with
  | cons first later =>
    cases first
    exact ⟨rfl, later⟩

theorem of_adopt {answer : Except Fault (Edition × Bool)}
    (h : Carried before (⟨.adopt book, answer⟩ :: rest) after) :
    answer = Edition.succeed before book ∧ Carried (Edition.install before book) rest after := by
  cases h with
  | cons first later =>
    cases first
    exact ⟨rfl, later⟩

end Carried

def Unkept (said : List Turn) : Prop :=
  ∀ book answer, (⟨.call (.keepRulebook book), answer⟩ : Turn) ∉ said

inductive Refreshes (before : Option Edition) (said : List Turn) :
    Except Fault (Option Rulebook) → Except Fault Edition → Option Edition → Prop
  | stayed {f e} : before = some e → Unkept said → Refreshes before said (.error f) (.ok e) before
  | failed {f} : before = none → Unkept said → Refreshes before said (.error f) (.error f) before
  | rejected {found message} : ¬(found.getD .standard).Valid → Unkept said →
      Refreshes before said (.ok found) (.error (.configuration message)) before
  | installed {found e} : Edition.install before (found.getD .standard) = some e →
      e.rulebook = found.getD .standard → Refreshes before said (.ok found) (.ok e) (some e)

inductive Looked : List Turn → Except Fault Edition → Prop
  | stayed {f e} : Looked [⟨.call .fetchRulebook, .error f⟩, ⟨.edition, some e⟩] (.ok e)
  | failed {f} : Looked [⟨.call .fetchRulebook, .error f⟩, ⟨.edition, none⟩] (.error f)
  | rejected {found f} :
      Looked [⟨.call .fetchRulebook, .ok found⟩, ⟨.adopt (found.getD .standard), .error f⟩]
        (.error f)
  | same {found e} :
      Looked [⟨.call .fetchRulebook, .ok found⟩, ⟨.adopt (found.getD .standard), .ok (e, false)⟩]
        (.ok e)
  | changed {found e kept} :
      Looked [⟨.call .fetchRulebook, .ok found⟩, ⟨.adopt (found.getD .standard), .ok (e, true)⟩,
        ⟨.call (.keepRulebook e.rulebook), kept⟩] (.ok e)

theorem refresh_looked {result : Except Fault Edition}
    (h : refresh.Dialogue talk (some result)) : Looked talk result := by
  obtain ⟨found, rest, rfl, fetched⟩ := h.of_ask
  cases found with
  | error f =>
    obtain ⟨current, rest', rfl, looked⟩ := fetched.of_perform
    cases current with
    | some e =>
      obtain ⟨rfl, rfl⟩ := looked.of_done
      exact .stayed
    | none =>
      obtain ⟨rfl, rfl⟩ := looked.of_done
      exact .failed
  | ok found =>
    obtain ⟨answer, rest', rfl, adopted⟩ := fetched.of_step
    cases answer with
    | error f =>
      obtain ⟨rfl, rfl⟩ := adopted.of_done
      exact .rejected
    | ok made =>
      obtain ⟨e, changed⟩ := made
      cases changed with
      | false =>
        obtain ⟨rfl, rfl⟩ := adopted.of_done
        exact .same
      | true =>
        obtain ⟨kept, rest, rfl, last⟩ := Program.Dialogue.of_ask adopted
        obtain ⟨rfl, rfl⟩ := last.of_done
        exact .changed

theorem Looked.refreshes {result : Except Fault Edition} (h : Looked talk result)
    (carried : Carried before talk after) :
    ∃ found rest, talk = ⟨.call .fetchRulebook, found⟩ :: rest ∧
      Refreshes before talk found result after := by
  cases h with
  | stayed =>
    obtain ⟨rfl, carried⟩ := carried.of_call.of_edition
    cases carried.of_nil
    exact ⟨_, _, rfl, .stayed rfl (by simp [Unkept])⟩
  | failed =>
    obtain ⟨rfl, carried⟩ := carried.of_call.of_edition
    cases carried.of_nil
    exact ⟨_, _, rfl, .failed rfl (by simp [Unkept])⟩
  | @rejected found =>
    obtain ⟨hanswer, later⟩ := carried.of_call.of_adopt
    rw [Edition.install_of_error hanswer.symm] at later
    cases later.of_nil
    have outcome := Edition.succeed_outcome before (found.getD .standard)
    rw [← hanswer] at outcome
    cases outcome with
    | rejected invalid => exact ⟨_, _, rfl, .rejected invalid (by simp [Unkept])⟩
  | same =>
    obtain ⟨hanswer, later⟩ := carried.of_call.of_adopt
    have installed := Edition.install_of_ok hanswer.symm
    cases later.of_nil.trans installed
    exact ⟨_, _, rfl, .installed installed (Edition.rulebook_of_succeed hanswer.symm)⟩
  | changed =>
    obtain ⟨hanswer, later⟩ := carried.of_call.of_adopt
    have installed := Edition.install_of_ok hanswer.symm
    cases later.of_call.of_nil.trans installed
    exact ⟨_, _, rfl, .installed installed (Edition.rulebook_of_succeed hanswer.symm)⟩

theorem Cluster.interpret_of_exchange {α : Type} {c : Cluster} {x : Http.Exchange α}
    {context method : String} {url : Url} {body : Option Json}
    {interpret : Http.Response → Except Fault α}
    (h : c.exchange context method url body interpret = .ok x) : x.interpret = interpret := by
  unfold exchange Http.Exchange.prepare at h
  split at h
  · cases h
  · split at h <;> cases h
    rfl

theorem Cluster.fetchRulebook_malformed {c : Cluster} {x : Http.Exchange (Option Rulebook)}
    {r : Http.Response} {bytes : List UInt8} {rules : Json} {flaw : Json.Flaw}
    (h : c.fetchRulebook = .ok x) (success : r.isSuccess) (body : r.body = some bytes)
    (object : Cluster.rulesObject.codec.decodeText bytes = .ok rules)
    (malformed : Rulebook.record.codec.decodeValue rules = .error flaw) :
    x.interpret r =
      .error (.configuration ("failed to parse configuration object: " ++ flaw.text)) := by
  rw [fetchRulebook] at h
  cases hu : c.base.below
      ("apis/" ++ requestVersion ++ "/justintimeconfigs/" ++ c.rulebookName) with
  | error f =>
    rw [hu] at h
    cases h
  | ok url =>
    rw [hu] at h
    rw [interpret_of_exchange h]
    have served (context : String) : r.succeed context = .ok () := by
      rw [Http.Response.succeed, if_pos success]
    have decoded (context : String) : r.decode context rulesObject.codec = .ok rules := by
      rw [Http.Response.decode, body, Option.map_some, object]
    have refused : rulebook rules =
        .error (.configuration ("failed to parse configuration object: " ++ flaw.text)) := by
      rw [rulebook, malformed]
    simp only [served, decoded]
    change (rulebook rules >>= fun book => pure (some book)) = _
    rw [refused]
    rfl

/-- Malformed rules surface, on whichever way they come, unless the source reports them as an error
while an edition is in force. They are then passed over like an outage. -/
theorem malformed_rules_surface {result : Except Fault Edition}
    (keeps : ∀ {a b}, others a b → b.edition = a.edition) (course : Course others s ms s')
    (installs : ∀ m ∈ ms, m.Installs)
    (talk : refresh.Dialogue (ms.map Moment.said) (some result)) :
    (∀ (c : Cluster) (x : Http.Exchange (Option Rulebook)) (r : Http.Response) bytes rules flaw,
      c.fetchRulebook = .ok x → r.isSuccess → r.body = some bytes →
      Cluster.rulesObject.codec.decodeText bytes = .ok rules →
      Rulebook.record.codec.decodeValue rules = .error flaw →
      x.interpret r =
        .error (.configuration ("failed to parse configuration object: " ++ flaw.text))) ∧
    Rulebook.standard.Valid ∧
    ∃ found, Heard (ms.map Moment.said) .fetchRulebook found ∧
      Refreshes s.edition (ms.map Moment.said) found result s'.edition ∧
      ∀ message, found = .error (.configuration message) →
        ((∃ message, result = .error (.configuration message)) ↔ s.edition = none) := by
  refine ⟨?_, Rulebook.standard_valid, ?_⟩
  · intro c x r bytes rules flaw h success body object malformed
    exact Cluster.fetchRulebook_malformed h success body object malformed
  · obtain ⟨found, rest, first, refreshes⟩ :=
      (refresh_looked talk).refreshes (course.carried keeps installs)
    have heard : Heard (ms.map Moment.said) .fetchRulebook found := first ▸ List.mem_cons_self
    refine ⟨found, heard, refreshes, ?_⟩
    rintro message rfl
    generalize s'.edition = after at refreshes
    cases refreshes with
    | stayed inForce _ =>
      refine iff_of_false (fun surfaces => ?_) (fun none => ?_)
      · obtain ⟨_, he⟩ := surfaces
        cases he
      · cases none.symm.trans inForce
    | failed none _ => exact iff_of_true ⟨message, rfl⟩ none

namespace Sample

def unreadable : Fault := .configuration "failed to parse configuration object"

theorem ruled : atStart.Allows .edition (some edition) atStart := ⟨rfl, rfl⟩

def overlooked : List Moment := [
  ⟨atStart, .call .fetchRulebook, .error unreadable, atStart, .inl rfl⟩,
  ⟨atStart, .edition, some edition, atStart, ruled⟩]

theorem overlooked_course : Course Eq atStart overlooked atStart :=
  .next rfl <| .next rfl <| .last rfl

theorem overlooked_installs : ∀ m ∈ overlooked, m.Installs := by
  have fetched : ∀ book, Operation.call .fetchRulebook ≠ .adopt book := by
    intro book same
    cases same
  have looked : ∀ book, Operation.edition ≠ .adopt book := by
    intro book same
    cases same
  simp only [overlooked, List.forall_mem_cons]
  exact ⟨Moment.installs_of_ne fetched, Moment.installs_of_ne looked, List.forall_mem_nil _⟩

theorem overlooked_talk : refresh.Dialogue (overlooked.map Moment.said) (some (.ok edition)) :=
  Program.dialogue_of_replay rfl

theorem overlooked_stays :
    ∃ found, Heard (overlooked.map Moment.said) .fetchRulebook found ∧
      Refreshes (some edition) (overlooked.map Moment.said) found (.ok edition) (some edition) ∧
      ∀ message, found = .error (.configuration message) →
        ((∃ message, (.ok edition : Except Fault Edition) = .error (.configuration message)) ↔
          some edition = none) :=
  (malformed_rules_surface (fun {a b} (same : a = b) => same ▸ rfl) overlooked_course
    overlooked_installs overlooked_talk).2.2

/-- Malformed rules can be passed over. -/
theorem malformed_rules_can_be_silent :
    Course Eq atStart overlooked atStart ∧ (∀ m ∈ overlooked, m.Installs) ∧
      refresh.Dialogue (overlooked.map Moment.said) (some (.ok edition)) ∧
      ¬∀ message,
        Heard (overlooked.map Moment.said) .fetchRulebook (.error (.configuration message)) →
        ∃ message, (.ok edition : Except Fault Edition) = .error (.configuration message) := by
  refine ⟨overlooked_course, overlooked_installs, overlooked_talk, fun surfaces => ?_⟩
  obtain ⟨message, he⟩ := surfaces "failed to parse configuration object" List.mem_cons_self
  cases he

end Sample

end AccessWindow
