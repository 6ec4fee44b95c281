import AccessWindow.Proofs.Supply

namespace AccessWindow

open Rulebook

inductive Route
  | copy
  | source
  | hand (book : Rulebook)

def Route.program : Route → Program (Option Edition)
  | copy => seed
  | source => do return some (← refresh)
  | hand book => do return some (← Program.adopt book).1

def Turn.reads? : Turn → Option Rulebook
  | ⟨.call .recallRulebook, .ok found⟩ => found
  | ⟨.call .fetchRulebook, .ok found⟩ => some (found.getD .standard)
  | _ => none

def Turn.adopts? : Turn → Option Rulebook
  | ⟨.adopt book, _⟩ => some book
  | _ => none

def Route.brings (talk : List Turn) : Route → Option Rulebook
  | hand book => some book
  | _ => talk.findSome? Turn.reads?

inductive Route.Tells : Route → List Turn → Except Fault (Option Edition) → Prop
  | lost {f} : Tells copy [⟨.call .recallRulebook, .error f⟩] (.error f)
  | empty : Tells copy [⟨.call .recallRulebook, .ok none⟩] (.ok none)
  | recalled {book answer} :
      Tells copy [⟨.call .recallRulebook, .ok (some book)⟩, ⟨.adopt book, answer⟩]
        (answer.map fun made => some made.1)
  | looked {talk result} : Looked talk result → Tells source talk (result.map some)
  | handed {book answer} :
      Tells (hand book) [⟨.adopt book, answer⟩] (answer.map fun made => some made.1)

structure Delivery where
  route : Route
  moments : List Moment
  result : Except Fault (Option Edition)
  talk : route.program.Dialogue (moments.map Moment.said) (some result)
  installs : ∀ m ∈ moments, m.Installs

inductive Deliveries (others : Scene → Scene → Prop) : Scene → List Delivery → Scene → Prop
  | start {s} : Deliveries others s [] s
  | next {s d s₁ ds s₂} : Course others s d.moments s₁ → Deliveries others s₁ ds s₂ →
      Deliveries others s (d :: ds) s₂

variable {others : Scene → Scene → Prop} {s s' s₁ s₂ : Scene} {m : Moment}
  {before after : Option Edition} {talk : List Turn} {route : Route} {book : Rulebook}
  {result : Except Fault (Option Edition)}

theorem adopt_dialogue
    (h : (do return some (← Program.adopt book).1 : Program (Option Edition)).Dialogue talk
      (some result)) :
    ∃ answer, talk = [⟨.adopt book, answer⟩] ∧ result = answer.map fun made => some made.1 := by
  obtain ⟨answer, rest, rfl, ended⟩ := h.of_step
  cases answer with
  | error f =>
    obtain ⟨rfl, rfl⟩ := ended.of_done
    exact ⟨_, rfl, rfl⟩
  | ok made =>
    obtain ⟨rfl, rfl⟩ := ended.of_done
    exact ⟨_, rfl, rfl⟩

theorem Route.tells (h : route.program.Dialogue talk (some result)) : route.Tells talk result := by
  cases route with
  | copy =>
    cases Program.Dialogue.of_call h with
    | inl answered =>
      obtain ⟨found, rest, rfl, adopting⟩ := answered
      cases found with
      | none =>
        obtain ⟨rfl, rfl⟩ := adopting.of_done
        exact .empty
      | some book =>
        obtain ⟨answer, rfl, rfl⟩ := adopt_dialogue adopting
        exact .recalled
    | inr failed =>
      obtain ⟨f, rfl, rfl⟩ := failed
      exact .lost
  | source =>
    obtain ⟨found, talk, rfl⟩ := h.of_map
    exact .looked (refresh_looked talk)
  | hand book =>
    obtain ⟨answer, rfl, rfl⟩ := adopt_dialogue h
    exact .handed

theorem Route.Tells.adopts (h : route.Tells talk result) :
    talk.filterMap Turn.adopts? = (route.brings talk).toList := by
  cases h with
  | looked looked => cases looked <;> rfl
  | _ => rfl

theorem Turn.Carries.eq_installs {x : Turn} (h : Turn.Carries before x after) :
    after = x.adopts?.toList.foldl Edition.install before := by
  cases h <;> rfl

theorem Carried.eq_installs (h : Carried before talk after) :
    after = (talk.filterMap Turn.adopts?).foldl Edition.install before := by
  induction h with
  | nil => rfl
  | @cons _ _ _ x rest first _ ih =>
    rw [ih, first.eq_installs, List.filterMap_cons]
    cases x.adopts? <;> rfl

theorem Route.Tells.stays {f : Fault} (h : route.Tells talk result) (failed : result = .error f)
    (carried : Carried before talk after) : after = before := by
  have rejected {book : Rulebook} {answer : Except Fault (Edition × Bool)}
      (last : Carried before [⟨.adopt book, answer⟩] after)
      (failed : answer.map (fun made => some made.1) = .error f) : after = before := by
    obtain ⟨hanswer, ended⟩ := last.of_adopt
    cases answer with
    | error g => exact ended.of_nil.trans (Edition.install_of_error hanswer.symm)
    | ok made => cases failed
  cases h with
  | lost => exact carried.of_call.of_nil
  | empty => cases failed
  | recalled => exact rejected carried.of_call failed
  | @looked _ result looked =>
    obtain ⟨found, rest, -, refreshes⟩ := looked.refreshes carried
    cases refreshes with
    | stayed => rfl
    | failed => rfl
    | rejected => rfl
    | installed => cases failed
  | handed => exact rejected carried failed

namespace Delivery

variable {d : Delivery}

def rules? (d : Delivery) : Option Rulebook := d.route.brings (d.moments.map Moment.said)

def valid (ds : List Delivery) : List Rulebook :=
  (ds.filterMap rules?).filter fun book => book.Valid

theorem adopts (d : Delivery) :
    (d.moments.map Moment.said).filterMap Turn.adopts? = d.rules?.toList :=
  (Route.tells d.talk).adopts

theorem nil_or_nil_of_append {early late : List Rulebook} {found : Option Rulebook}
    (h : early ++ late = found.toList) : early = [] ∨ late = [] := by
  cases found with
  | none => exact .inl (List.append_eq_nil_iff.1 h).1
  | some book => exact (List.append_eq_singleton_iff.1 h).imp And.left And.right

section

variable (keeps : ∀ {a b}, others a b → b.edition = a.edition)
include keeps

theorem edition_after (h : Course others s d.moments s') :
    s'.edition = d.rules?.toList.foldl Edition.install s.edition := by
  rw [(h.carried keeps d.installs).eq_installs, d.adopts]

theorem edition_amid (h : Course others s d.moments s') (hm : m ∈ d.moments) :
    m.before.edition = s.edition ∨ m.before.edition = s'.edition := by
  obtain ⟨early, late, hms⟩ := List.append_of_mem hm
  have installs := d.installs
  have adopts := d.adopts
  rw [hms] at h installs adopts
  obtain ⟨first, last⟩ := h.split
  have until_now : Carried s.edition (early.map Moment.said) m.before.edition :=
    first.carried keeps fun x hx => installs x (List.mem_append_left _ hx)
  have from_now : Carried m.before.edition ((m :: late).map Moment.said) s'.edition :=
    .cons (installs m (by simp)).carries
      (last.carried keeps fun x hx => installs x (by simp [hx]))
  rw [List.map_append, List.filterMap_append] at adopts
  cases nil_or_nil_of_append adopts with
  | inl none_yet =>
    refine .inl ?_
    rw [until_now.eq_installs, none_yet]
    rfl
  | inr no_more =>
    refine .inr ?_
    rw [from_now.eq_installs, no_more]
    rfl

theorem edition_of_error {f : Fault} (h : Course others s d.moments s')
    (failed : d.result = .error f) : s'.edition = s.edition :=
  (Route.tells d.talk).stays failed (h.carried keeps d.installs)

end

end Delivery

namespace Deliveries

variable {ds earlier later : List Delivery}

theorem append (h : Deliveries others s earlier s₁) (h' : Deliveries others s₁ later s₂) :
    Deliveries others s (earlier ++ later) s₂ := by
  induction h with
  | start => exact h'
  | next first _ ih => exact .next first (ih h')

theorem length_rules_le (ds : List Delivery) : (ds.filterMap Delivery.rules?).length ≤ ds.length :=
  List.length_filterMap_le _ _

section

variable (keeps : ∀ {a b}, others a b → b.edition = a.edition)
include keeps

theorem edition_after (h : Deliveries others s ds s') :
    s'.edition = (ds.filterMap Delivery.rules?).foldl Edition.install s.edition := by
  induction h with
  | start => rfl
  | @next _ d _ ds _ first _ ih =>
    rw [ih, Delivery.edition_after keeps first, List.filterMap_cons]
    cases d.rules? <;> rfl

theorem rulebook_after (h : Deliveries others s ds s') :
    s'.edition.map Edition.rulebook =
      (Delivery.valid ds).getLast?.or (s.edition.map Edition.rulebook) := by
  rw [h.edition_after keeps, Edition.rulebook_installs, Delivery.valid]

theorem stays_loaded (h : Deliveries others s ds s') (loaded : s.edition.isSome) :
    s'.edition.isSome := by
  have rules := congrArg Option.isSome (h.rulebook_after keeps)
  simpa [loaded] using rules

theorem number_le (h : Deliveries others s ds s') :
    Edition.number s'.edition ≤ Edition.number s.edition + ds.length := by
  rw [h.edition_after keeps]
  calc
    _ ≤ Edition.number s.edition + (ds.filterMap Delivery.rules?).length :=
      Edition.number_installs_le _
    _ ≤ Edition.number s.edition + ds.length := Nat.add_le_add_left (length_rules_le ds) _

variable (few : Edition.number s.edition + ds.length ≤ Edition.lastVersion)
include few

theorem number_after (h : Deliveries others s ds s') :
    Edition.number s'.edition = Edition.number s.edition +
      Edition.changes (s.edition.map Edition.rulebook) (Delivery.valid ds) := by
  have fewer := length_rules_le ds
  rw [h.edition_after keeps, Edition.number_installs (by omega), Delivery.valid]

theorem number_stays (h : Deliveries others s ds s') :
    Edition.number s.edition ≤ Edition.number s'.edition ∧
      (Edition.number s'.edition = Edition.number s.edition → s'.edition = s.edition) := by
  have fewer := length_rules_le ds
  rw [h.edition_after keeps]
  exact Edition.installs_stay (by omega)

end

end Deliveries

/-- The valid rules that came last are in force, and stay so amid a delivery and when one fails.
Versions count how often the rules have changed, so that they tell editions apart. -/
theorem editions_succeed (keeps : ∀ {a b}, others a b → b.edition = a.edition)
    {earlier later : List Delivery} (new : s.edition = none)
    (first : Deliveries others s earlier s₁) (second : Deliveries others s₁ later s₂)
    (few : (earlier ++ later).length < Edition.lastVersion) :
    (s₁.edition.isSome → s₂.edition.isSome) ∧
    s₂.edition.map Edition.rulebook = (Delivery.valid (earlier ++ later)).getLast? ∧
    (∀ e, s₂.edition = some e → e.rulebook.Valid) ∧
    Edition.number s₂.edition = Edition.changes none (Delivery.valid (earlier ++ later)) ∧
    Edition.number s₁.edition ≤ Edition.number s₂.edition ∧
    (Edition.number s₂.edition = Edition.number s₁.edition → s₂.edition = s₁.edition) ∧
    ∀ (d : Delivery) (s₃ : Scene), Course others s₂ d.moments s₃ →
      (∀ m ∈ d.moments, m.before.edition = s₂.edition ∨ m.before.edition = s₃.edition) ∧
      ∀ f, d.result = .error f → s₃.edition = s₂.edition := by
  have whole := first.append second
  have zero : Edition.number s.edition = 0 := by rw [new, Edition.number]
  have counted := first.number_le keeps
  have stays : Edition.number s₁.edition ≤ Edition.number s₂.edition ∧
      (Edition.number s₂.edition = Edition.number s₁.edition → s₂.edition = s₁.edition) := by
    rw [List.length_append] at few
    exact second.number_stays keeps (by omega)
  refine ⟨second.stays_loaded keeps, ?_, fun e _ => e.valid, ?_, stays.1, stays.2, ?_⟩
  · rw [whole.rulebook_after keeps, new, Option.map_none, Option.or_none]
  · rw [whole.number_after keeps (by omega), zero, new, Option.map_none, Nat.zero_add]
  · intro d s₃ course
    exact ⟨fun m hm => Delivery.edition_amid keeps course hm,
      fun f failed => Delivery.edition_of_error keeps course failed⟩

namespace Sample

def unruled : Scene := { atStart with edition := none }

def revised : Edition :=
  ⟨2, { edition.rulebook with roles := [] }, none, by decide, rfl⟩

def ruledAnew : Scene := { atStart with edition := some revised }

def firstRules : Delivery where
  route := .hand edition.rulebook
  moments := [⟨unruled, .adopt edition.rulebook, .ok (edition, true), atStart, rfl⟩]
  result := .ok (some edition)
  talk := Program.dialogue_of_replay rfl
  installs := by
    intro m hm book answer said
    cases List.mem_singleton.1 hm
    cases said
    rfl

def newRules : Delivery where
  route := .source
  moments := [
    ⟨atStart, .call .fetchRulebook, .ok (some revised.rulebook), atStart, rfl⟩,
    ⟨atStart, .adopt revised.rulebook, .ok (revised, true), ruledAnew, rfl⟩,
    ⟨ruledAnew, .call (.keepRulebook revised.rulebook), .error (.internal ""), ruledAnew,
      .inl rfl⟩]
  result := .ok (some revised)
  talk := Program.dialogue_of_replay rfl
  installs := by
    intro m hm book answer said
    simp only [List.mem_cons, List.not_mem_nil, or_false] at hm
    obtain rfl | rfl | rfl := hm <;> cases said
    rfl

theorem first_deliveries : Deliveries Eq unruled [firstRules] atStart :=
  .next (.next rfl <| .last rfl) .start

theorem new_deliveries : Deliveries Eq atStart [newRules] ruledAnew :=
  .next (.next rfl <| .next rfl <| .next rfl <| .last rfl) .start

theorem revised_succeeds :
    (atStart.edition.isSome → ruledAnew.edition.isSome) ∧
    ruledAnew.edition.map Edition.rulebook =
      (Delivery.valid ([firstRules] ++ [newRules])).getLast? ∧
    (∀ e, ruledAnew.edition = some e → e.rulebook.Valid) ∧
    Edition.number ruledAnew.edition =
      Edition.changes none (Delivery.valid ([firstRules] ++ [newRules])) ∧
    Edition.number atStart.edition ≤ Edition.number ruledAnew.edition ∧
    (Edition.number ruledAnew.edition = Edition.number atStart.edition →
      ruledAnew.edition = atStart.edition) ∧
    ∀ (d : Delivery) (s₃ : Scene), Course Eq ruledAnew d.moments s₃ →
      (∀ m ∈ d.moments, m.before.edition = ruledAnew.edition ∨ m.before.edition = s₃.edition) ∧
      ∀ f, d.result = .error f → s₃.edition = ruledAnew.edition :=
  editions_succeed (fun {a b} (same : a = b) => same ▸ rfl) rfl first_deliveries new_deliveries
    (by decide)

end Sample

end AccessWindow
