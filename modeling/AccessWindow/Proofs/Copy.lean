import AccessWindow.Proofs.Succession

namespace AccessWindow

open Rulebook

def Turn.keeps? : Turn → Option Rulebook
  | ⟨.call (.keepRulebook book), .ok ()⟩ => some book
  | _ => none

def Turn.Changes : Turn → Prop
  | ⟨.adopt _, .ok (_, true)⟩ => True
  | _ => False

def copyAfter (copy : Option Rulebook) (said : List Turn) : Option Rulebook :=
  (said.filterMap Turn.keeps?).getLast?.or copy

/-- The rules were refused to be kept in place of others, and have not changed since. -/
def Behind (copy : Option Rulebook) (said : List Turn) (book : Rulebook) : Prop :=
  ∃ early late f, said = early ++ ⟨.call (.keepRulebook book), .error f⟩ :: late ∧
    copyAfter copy early ≠ some book ∧ ∀ x ∈ late, ¬x.Changes

/-- What is said in a process, from its start with this copy, when it seeds and refreshes its rules
any number of times, and the edition in force thereafter. -/
inductive Supplied (copy : Option Rulebook) : List Turn → Option Edition → Prop
  | start : Supplied copy [] none
  | seeded {said current talk result after} : Supplied copy said current →
      seed.Dialogue talk (some result) → Carried current talk after →
      (∀ found, Heard talk .recallRulebook (.ok found) → found = copyAfter copy said) →
      Supplied copy (said ++ talk) after
  | refreshed {said current talk result after} : Supplied copy said current →
      refresh.Dialogue talk (some result) → Carried current talk after →
      Supplied copy (said ++ talk) after

/-- A process is started with a copy that can be read, and looks for the rules while their source
cannot be reached. -/
inductive Restarts (copy : Option Rulebook) : Except Fault Edition → Prop
  | intro {first later seeded result current after f} :
      seed.Dialogue first (some seeded) → Carried none first current →
      Heard first .recallRulebook (.ok copy) →
      refresh.Dialogue later (some result) → Carried current later after →
      Heard later .fetchRulebook (.error f) → Restarts copy result

variable {copy : Option Rulebook} {said talk more : List Turn} {x : Turn} {book : Rulebook}
  {current after : Option Edition} {e : Edition}

theorem copyAfter_append :
    copyAfter copy (said ++ more) = copyAfter (copyAfter copy said) more := by
  rw [copyAfter, List.filterMap_append, List.getLast?_append, Option.or_assoc]
  rfl

theorem behind_concat : Behind copy (said ++ [x]) book ↔
    ((∃ f, x = ⟨.call (.keepRulebook book), .error f⟩) ∧ copyAfter copy said ≠ some book) ∨
      Behind copy said book ∧ ¬x.Changes := by
  constructor
  · rintro ⟨early, late, f, split, other, since⟩
    cases List.eq_nil_or_concat late with
    | inl last =>
      subst last
      obtain ⟨rfl, same⟩ := List.append_inj' split rfl
      exact .inl ⟨⟨f, (List.cons.inj same).1⟩, other⟩
    | inr longer =>
      obtain ⟨late, y, rfl⟩ := longer
      rw [List.concat_eq_append] at split since
      rw [← List.cons_append, ← List.append_assoc] at split
      obtain ⟨rfl, same⟩ := List.append_inj' split rfl
      obtain rfl := (List.cons.inj same).1
      rw [List.forall_mem_append] at since
      exact .inr ⟨⟨early, late, f, rfl, other, since.1⟩, since.2 x (List.mem_singleton_self x)⟩
  · rintro (⟨⟨f, rfl⟩, other⟩ | ⟨⟨early, late, f, rfl, other, since⟩, same⟩)
    · exact ⟨said, [], f, rfl, other, List.forall_mem_nil _⟩
    · refine ⟨early, late ++ [x], f, ?_, other, ?_⟩
      · rw [List.append_assoc, List.cons_append]
      · exact List.forall_mem_append.2 ⟨since, by simpa using same⟩

def Turn.Idle (x : Turn) : Prop :=
  ¬x.Changes ∧ ∀ book answer, x ≠ ⟨.call (.keepRulebook book), answer⟩

theorem copyAfter_of_idle (idle : ∀ x ∈ talk, x.Idle) : copyAfter copy talk = copy := by
  have nothing : talk.filterMap Turn.keeps? = [] := by
    refine List.filterMap_eq_nil_iff.2 fun x hx => ?_
    cases h : x.keeps? with
    | none => rfl
    | some book =>
      unfold Turn.keeps? at h
      split at h
      · exact absurd rfl ((idle _ hx).2 _ _)
      · cases h
  rw [copyAfter, nothing]
  rfl

theorem behind_of_idle (idle : ∀ x ∈ talk, x.Idle) :
    Behind copy (said ++ talk) book ↔ Behind copy said book := by
  induction talk generalizing said with
  | nil => rw [List.append_nil]
  | cons x rest ih =>
    obtain ⟨still, others⟩ := List.forall_mem_cons.1 idle
    rw [List.append_cons, ih others, behind_concat]
    constructor
    · rintro (⟨⟨f, rfl⟩, -⟩ | before)
      · exact absurd rfl (still.2 _ _)
      · exact before.1
    · exact fun before => .inr ⟨before, still.1⟩

theorem not_behind_of_changes (changes : x.Changes) : ¬Behind copy (said ++ [x]) book := by
  rw [behind_concat]
  rintro (⟨⟨f, rfl⟩, -⟩ | before)
  · exact changes
  · exact before.2 changes

namespace Edition

theorem install_of_same (h : succeed current book = .ok (e, false)) :
    install current book = current := by
  have outcome := succeed_outcome current book
  rw [h] at outcome
  cases outcome with
  | same inForce _ => rw [install_of_ok h, inForce]

theorem other_of_changed (h : succeed current book = .ok (e, true)) :
    current.map rulebook ≠ some book := by
  have outcome := succeed_outcome current book
  rw [h] at outcome
  cases outcome with
  | changed other _ _ =>
    intro same
    obtain ⟨old, inForce, hbook⟩ := Option.map_eq_some_iff.1 same
    exact other old inForce hbook

end Edition

inductive Moves (copy : Option Rulebook) (current : Option Edition) :
    List Turn → Option Edition → Prop
  | idle {talk : List Turn} : (∀ x ∈ talk, x.Idle) → Moves copy current talk current
  | recalled {e : Edition} :
      copy = some e.rulebook → current.map Edition.rulebook ≠ some e.rulebook →
      Moves copy current [⟨.call .recallRulebook, .ok copy⟩, ⟨.adopt e.rulebook, .ok (e, true)⟩]
        (some e)
  | fetched {found : Option Rulebook} {e : Edition} {kept : Except Fault Unit} :
      current.map Edition.rulebook ≠ some e.rulebook →
      Moves copy current [⟨.call .fetchRulebook, .ok found⟩, ⟨.adopt e.rulebook, .ok (e, true)⟩,
        ⟨.call (.keepRulebook e.rulebook), kept⟩] (some e)

theorem seed_tells {result : Except Fault (Option Edition)}
    (h : seed.Dialogue talk (some result)) : Route.copy.Tells talk result :=
  Route.tells (show Route.copy.program.Dialogue talk (some result) from h)

theorem seed_moves {result : Except Fault (Option Edition)}
    (h : seed.Dialogue talk (some result)) (carried : Carried current talk after)
    (read : ∀ found, Heard talk .recallRulebook (.ok found) → found = copy) :
    Moves copy current talk after := by
  cases seed_tells h with
  | lost =>
    cases carried.of_call.of_nil
    exact .idle (by simp [Turn.Idle, Turn.Changes])
  | empty =>
    cases carried.of_call.of_nil
    exact .idle (by simp [Turn.Idle, Turn.Changes])
  | @recalled book answer =>
    obtain ⟨hanswer, later⟩ := carried.of_call.of_adopt
    obtain rfl := read _ List.mem_cons_self
    cases later.of_nil
    cases answer with
    | error f =>
      rw [Edition.install_of_error hanswer.symm]
      exact .idle (by simp [Turn.Idle, Turn.Changes])
    | ok made =>
      obtain ⟨e, changed⟩ := made
      cases changed with
      | false =>
        rw [Edition.install_of_same hanswer.symm]
        exact .idle (by simp [Turn.Idle, Turn.Changes])
      | true =>
        obtain rfl := Edition.rulebook_of_succeed hanswer.symm
        rw [Edition.install_of_ok hanswer.symm]
        exact .recalled rfl (Edition.other_of_changed hanswer.symm)

theorem refresh_moves {result : Except Fault Edition} (h : refresh.Dialogue talk (some result))
    (carried : Carried current talk after) : Moves copy current talk after := by
  cases refresh_looked h with
  | stayed =>
    cases carried.of_call.of_edition.2.of_nil
    exact .idle (by simp [Turn.Idle, Turn.Changes])
  | failed =>
    cases carried.of_call.of_edition.2.of_nil
    exact .idle (by simp [Turn.Idle, Turn.Changes])
  | rejected =>
    obtain ⟨hanswer, later⟩ := carried.of_call.of_adopt
    rw [later.of_nil, Edition.install_of_error hanswer.symm]
    exact .idle (by simp [Turn.Idle, Turn.Changes])
  | same =>
    obtain ⟨hanswer, later⟩ := carried.of_call.of_adopt
    rw [later.of_nil, Edition.install_of_same hanswer.symm]
    exact .idle (by simp [Turn.Idle, Turn.Changes])
  | changed =>
    obtain ⟨hanswer, later⟩ := carried.of_call.of_adopt
    rw [later.of_call.of_nil, Edition.install_of_ok hanswer.symm,
      ← Edition.rulebook_of_succeed hanswer.symm]
    rw [← Edition.rulebook_of_succeed hanswer.symm] at hanswer
    exact .fetched (Edition.other_of_changed hanswer.symm)

def Tracks (copy : Option Rulebook) (said : List Turn) (current : Option Edition) : Prop :=
  ∀ book, Behind copy said book ↔
    current.map Edition.rulebook = some book ∧ copyAfter copy said ≠ some book

theorem Moves.tracks (h : Moves (copyAfter copy said) current talk after)
    (tracks : Tracks copy said current) : Tracks copy (said ++ talk) after := by
  intro book
  cases h with
  | idle idle => rw [behind_of_idle idle, copyAfter_append, copyAfter_of_idle idle, tracks]
  | @recalled e known other =>
    refine iff_of_false ?_ ?_
    · rw [List.append_cons]
      exact not_behind_of_changes trivial
    · rintro ⟨same, behind⟩
      cases same
      rw [copyAfter_append] at behind
      exact behind known
  | @fetched found e kept other =>
    have changed : ¬Behind copy (said ++ [⟨.call .fetchRulebook, .ok found⟩] ++
        [⟨.adopt e.rulebook, .ok (e, true)⟩]) book := not_behind_of_changes trivial
    have unkept : copyAfter copy (said ++ [⟨.call .fetchRulebook, .ok found⟩] ++
        [⟨.adopt e.rulebook, .ok (e, true)⟩]) = copyAfter copy said := by
      rw [copyAfter_append, copyAfter_append]
      rfl
    rw [copyAfter_append, List.append_cons, List.append_cons, behind_concat,
      or_iff_left fun h => changed h.1, unkept]
    -- the rules have just changed, so that all depends on whether they are kept
    cases kept with
    | ok =>
      refine iff_of_false ?_ ?_
      · rintro ⟨⟨f, hf⟩, -⟩
        cases hf
      · rintro ⟨same, behind⟩
        cases same
        exact behind rfl
    | error f =>
      refine and_congr ⟨?_, ?_⟩ Iff.rfl
      · rintro ⟨f, hf⟩
        cases hf
        rfl
      · intro same
        cases same
        exact ⟨f, rfl⟩

theorem Supplied.tracks (h : Supplied copy said current) : Tracks copy said current := by
  induction h with
  | start =>
    refine fun book => iff_of_false ?_ fun h => nomatch h.1
    rintro ⟨early, late, f, split, -, -⟩
    cases early <;> cases split
  | seeded _ talk carried read ih => exact (seed_moves talk carried read).tracks ih
  | refreshed _ talk carried ih => exact (refresh_moves talk carried).tracks ih

theorem seed_recalled {result : Except Fault (Option Edition)}
    (h : seed.Dialogue talk (some result)) (carried : Carried current talk after)
    (read : Heard talk .recallRulebook (.ok copy)) :
    after.map Edition.rulebook =
      (copy.filter fun book => book.Valid).or (current.map Edition.rulebook) := by
  cases seed_tells h with
  | lost => cases List.mem_singleton.1 read
  | empty =>
    cases List.mem_singleton.1 read
    cases carried.of_call.of_nil
    rfl
  | @recalled book answer =>
    obtain rfl : copy = some book := by
      cases read with
      | head => rfl
      | tail _ last => cases List.mem_singleton.1 last
    rw [carried.of_call.of_adopt.2.of_nil, Edition.rulebook_install]
    by_cases valid : book.Valid <;> simp [Option.filter, valid]

theorem Looked.fetched_once {result : Except Fault Edition}
    {found other : Except Fault (Option Rulebook)} (h : Looked talk result)
    (fetched : Heard talk .fetchRulebook found) (again : Heard talk .fetchRulebook other) :
    found = other := by
  cases h <;> simp [Heard] at fetched again <;> rw [fetched, again]

theorem refreshes_of_heard {result : Except Fault Edition} {found : Except Fault (Option Rulebook)}
    (h : refresh.Dialogue talk (some result)) (carried : Carried current talk after)
    (fetched : Heard talk .fetchRulebook found) : Refreshes current talk found result after := by
  obtain ⟨other, rest, split, refreshes⟩ := (refresh_looked h).refreshes carried
  have first : Heard talk .fetchRulebook other := split ▸ List.mem_cons_self
  exact (refresh_looked h).fetched_once fetched first ▸ refreshes

theorem Restarts.up_with {result : Except Fault Edition} (h : Restarts copy result)
    (valid : book.Valid) : (∃ e, result = .ok e ∧ e.rulebook = book) ↔ copy = some book := by
  obtain @⟨_, _, _, _, current, _, _, seeding, seeded, recalled, looking, kept, failed⟩ := h
  have seeds : current.map Edition.rulebook = copy.filter fun book => book.Valid := by
    rw [seed_recalled seeding seeded recalled, Option.map_none, Option.or_none]
  have inForce : (∃ e, result = .ok e ∧ e.rulebook = book) ↔
      current.map Edition.rulebook = some book := by
    cases refreshes_of_heard looking kept failed with
    | stayed known => simp [known]
    | failed none => simp [none]
  rw [inForce, seeds, Option.filter_eq_some_iff]
  simp [valid]

theorem exists_seed (copy : Option Rulebook) : ∃ talk result after,
    seed.Dialogue talk (some result) ∧ Carried none talk after ∧
      Heard talk .recallRulebook (.ok copy) := by
  cases copy with
  | none =>
    have empty : seed.Dialogue [⟨.call .recallRulebook, .ok none⟩] (some (.ok none)) :=
      Program.dialogue_of_replay rfl
    exact ⟨_, _, _, empty, .cons .call .nil, List.mem_singleton_self _⟩
  | some book =>
    have adopts (answer : Except Fault (Edition × Bool)) : seed.Dialogue
        [⟨.call .recallRulebook, .ok (some book)⟩, ⟨.adopt book, answer⟩]
        (some (answer.map fun made => some made.1)) := by
      refine .said (.said ?_)
      cases answer <;> exact .ended
    exact ⟨_, _, _, adopts (Edition.succeed none book), .cons .call (.cons .adopt .nil),
      List.mem_cons_self⟩

theorem exists_restarts (copy : Option Rulebook) : ∃ result, Restarts copy result := by
  obtain ⟨first, seeded, current, seeding, recalled, read⟩ := exists_seed copy
  have looks : refresh.Dialogue [⟨.call .fetchRulebook, .error (.internal "")⟩, ⟨.edition, current⟩]
      (some (current.elim (.error (.internal "")) .ok)) := by
    cases current <;> exact Program.dialogue_of_replay rfl
  exact ⟨_, .intro seeding recalled read looks (.cons .call <| .cons .edition .nil)
    List.mem_cons_self⟩

/-- After valid rules were fetched while the copy can be written, it is a copy of them unless they
were refused to be kept when they were put in force. Just as well, a process that is then started
while the source cannot be reached comes up with them. -/
theorem copy_follows_unless_refused {result : Except Fault Edition} {found : Option Rulebook}
    (past : Supplied copy said current) (fetch : refresh.Dialogue talk (some result))
    (carried : Carried current talk after) (fetched : Heard talk .fetchRulebook (.ok found))
    (valid : (found.getD .standard).Valid)
    (accepted : ∀ book f, ¬Heard talk (.keepRulebook book) (.error f)) :
    (∃ e, result = .ok e ∧ after = some e ∧ e.rulebook = found.getD .standard) ∧
    (copyAfter copy (said ++ talk) = some (found.getD .standard) ↔
      ¬Behind copy said (found.getD .standard)) ∧
    (∃ restarted, Restarts (copyAfter copy (said ++ talk)) restarted) ∧
    ∀ restarted, Restarts (copyAfter copy (said ++ talk)) restarted →
      ((∃ e, restarted = .ok e ∧ e.rulebook = found.getD .standard) ↔
        ¬Behind copy said (found.getD .standard)) := by
  have installed : ∃ e, result = .ok e ∧ after = some e ∧ e.rulebook = found.getD .standard := by
    cases refreshes_of_heard fetch carried fetched with
    | rejected invalid => exact absurd valid invalid
    | installed _ same => exact ⟨_, rfl, rfl, same⟩
  have follows : copyAfter copy (said ++ talk) = some (found.getD .standard) ↔
      ¬Behind copy said (found.getD .standard) := by
    obtain ⟨e, -, rfl, same⟩ := installed
    rw [← same, past.tracks, copyAfter_append]
    have moves : Moves (copyAfter copy said) current talk (some e) := refresh_moves fetch carried
    cases moves with
    | idle idle => simp [copyAfter_of_idle idle]
    | recalled => simp [Heard] at fetched
    | @fetched _ _ kept other =>
      cases kept with
      | ok => exact iff_of_true rfl fun behind => other behind.1
      | error f => exact absurd (by simp [Heard]) (accepted e.rulebook f)
  exact ⟨installed, follows, exists_restarts _,
    fun restarted h => (h.up_with valid).trans follows⟩

namespace Sample

def found (kept : Except Fault Unit) : List Turn := [
  ⟨.call .fetchRulebook, .ok (some edition.rulebook)⟩,
  ⟨.adopt edition.rulebook, .ok (edition, true)⟩,
  ⟨.call (.keepRulebook edition.rulebook), kept⟩]

def foundAgain : List Turn := [
  ⟨.call .fetchRulebook, .ok (some edition.rulebook)⟩,
  ⟨.adopt edition.rulebook, .ok (edition, false)⟩]

def cutOff (current : Option Edition) : List Turn := [
  ⟨.call .fetchRulebook, .error (.internal "")⟩,
  ⟨.edition, current⟩]

theorem supplied (kept : Except Fault Unit) : Supplied none (found kept) (some edition) :=
  .refreshed .start (Program.dialogue_of_replay rfl)
    (.cons .call <| .cons .adopt <| .cons .call .nil)

theorem foundAgain_talk : refresh.Dialogue foundAgain (some (.ok edition)) :=
  Program.dialogue_of_replay rfl

theorem foundAgain_carried : Carried (some edition) foundAgain (some edition) :=
  .cons .call <| .cons .adopt .nil

theorem foundAgain_accepted (book : Rulebook) (f : Fault) :
    ¬Heard foundAgain (.keepRulebook book) (.error f) := by
  simp [Heard, foundAgain]

theorem restarts_without : Restarts none (.error (.internal "")) := by
  have seeding : seed.Dialogue [⟨.call .recallRulebook, .ok none⟩] (some (.ok none)) :=
    Program.dialogue_of_replay rfl
  have looking : refresh.Dialogue (cutOff none) (some (.error (.internal ""))) :=
    Program.dialogue_of_replay rfl
  exact .intro seeding (.cons .call .nil) (List.mem_singleton_self _) looking
    (.cons .call <| .cons .edition .nil) List.mem_cons_self

theorem kept_copy_follows :
    (∃ e, (.ok edition : Except Fault Edition) = .ok e ∧ some edition = some e ∧
      e.rulebook = edition.rulebook) ∧
    (copyAfter none (found (.ok ()) ++ foundAgain) = some edition.rulebook ↔
      ¬Behind none (found (.ok ())) edition.rulebook) ∧
    (∃ restarted, Restarts (copyAfter none (found (.ok ()) ++ foundAgain)) restarted) ∧
    ∀ restarted, Restarts (copyAfter none (found (.ok ()) ++ foundAgain)) restarted →
      ((∃ e, restarted = .ok e ∧ e.rulebook = edition.rulebook) ↔
        ¬Behind none (found (.ok ())) edition.rulebook) :=
  copy_follows_unless_refused (supplied _) foundAgain_talk foundAgain_carried List.mem_cons_self
    edition.valid foundAgain_accepted

/-- A copy that was refused once stays behind while the rules are found unchanged, and a process
that is then started has no rules. -/
theorem copy_can_stay_behind :
    Supplied none (found (.error (.internal ""))) (some edition) ∧
      refresh.Dialogue foundAgain (some (.ok edition)) ∧
      Carried (some edition) foundAgain (some edition) ∧
      (∀ book f, ¬Heard foundAgain (.keepRulebook book) (.error f)) ∧
      copyAfter none (found (.error (.internal "")) ++ foundAgain) ≠ some edition.rulebook ∧
      Restarts (copyAfter none (found (.error (.internal "")) ++ foundAgain))
        (.error (.internal "")) :=
  ⟨supplied _, foundAgain_talk, foundAgain_carried, foundAgain_accepted, nofun, restarts_without⟩

end Sample

end AccessWindow
