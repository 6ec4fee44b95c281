import AccessWindow.Rulebook.Edition

namespace AccessWindow

variable {book : Rulebook} {version : Nat} {current : Option Edition} {e old : Edition}

namespace Rulebook

/-- The texts that may not be blank are not, and the pattern can be read unless it is blank. -/
structure Valid (book : Rulebook) : Prop where
  filled : ∀ entry ∈ book.mandatory, Text.blank entry.2 = false
  readable : ∀ s, book.namespacePattern = some s → Text.blank s = false →
    ∃ p, Pattern.ofText? s = some p ∧ p.size ≤ Pattern.largest

theorem firstBlank?_eq_none :
    book.firstBlank? = none ↔ ∀ entry ∈ book.mandatory, Text.blank entry.2 = false := by
  simp [firstBlank?, List.find?_eq_none]

theorem exists_pattern_iff : (∃ pattern, book.pattern = .ok pattern) ↔
    ∀ s, book.namespacePattern = some s → Text.blank s = false →
      ∃ p, Pattern.ofText? s = some p ∧ p.size ≤ Pattern.largest := by
  have listed (s : String) :
      book.patternText? = some s ↔ book.namespacePattern = some s ∧ Text.blank s = false := by
    simp [patternText?, Option.filter_eq_some_iff]
  simp only [← and_imp, ← listed, pattern]
  cases book.patternText? with
  | none => simp
  | some s =>
    cases hp : Pattern.ofText? s with
    | none => simp [hp]
    | some p => by_cases hs : p.size ≤ Pattern.largest <;> simp [hp, hs]

theorem valid_iff :
    book.Valid ↔ book.firstBlank? = none ∧ ∃ pattern, book.pattern = .ok pattern := by
  rw [firstBlank?_eq_none, exists_pattern_iff]
  exact ⟨fun h => ⟨h.filled, h.readable⟩, fun h => ⟨h.1, h.2⟩⟩

theorem valid_of_isOk (filled : book.firstBlank? = none) (compiled : book.pattern.isOk) :
    book.Valid := by
  cases h : book.pattern with
  | ok pattern => exact valid_iff.2 ⟨filled, pattern, h⟩
  | error => simp [h, Except.isOk, Except.toBool] at compiled

instance : Decidable book.Valid :=
  decidable_of_iff (book.firstBlank? = none ∧ book.pattern.isOk)
    ⟨fun h => valid_of_isOk h.1 h.2, fun h => ⟨(valid_iff.1 h).1, by
      obtain ⟨pattern, hp⟩ := (valid_iff.1 h).2
      rw [hp]
      rfl⟩⟩

theorem pattern_error {f : Fault} (h : book.pattern = .error f) :
    ∃ message, f = .configuration message := by
  rw [pattern] at h
  split at h
  · cases h
  · split at h
    · cases h
      exact ⟨_, rfl⟩
    · split at h
      · cases h
      · cases h
        exact ⟨_, rfl⟩

theorem standard_valid : standard.Valid := by decide +kernel

end Rulebook

namespace Edition

open Rulebook

theorem valid (e : Edition) : e.rulebook.Valid := valid_iff.2 ⟨e.filled, _, e.compiled⟩

theorem ofRulebook_cases (book : Rulebook) (version : Nat) :
    (∃ e, ofRulebook book version = .ok e ∧ book.Valid ∧
      e.rulebook = book ∧ e.version = version) ∨
    ∃ message, ofRulebook book version = .error (.configuration message) ∧ ¬book.Valid := by
  rw [ofRulebook]
  split
  · next name hblank =>
    refine .inr ⟨_, rfl, fun valid => ?_⟩
    cases hblank.symm.trans (valid_iff.1 valid).1
  · next filled =>
    split
    · next pattern compiled =>
      exact .inl ⟨_, rfl, valid_iff.2 ⟨filled, pattern, compiled⟩, rfl, rfl⟩
    · next fault hfault =>
      obtain ⟨message, rfl⟩ := pattern_error hfault
      refine .inr ⟨message, rfl, fun valid => ?_⟩
      obtain ⟨pattern, compiled⟩ := (valid_iff.1 valid).2
      cases hfault.symm.trans compiled

def number : Option Edition → Nat
  | none => 0
  | some e => e.version

inductive Outcome (current : Option Edition) (book : Rulebook) :
    Except Fault (Edition × Bool) → Prop
  | same {e : Edition} : current = some e → e.rulebook = book →
      Outcome current book (.ok (e, false))
  | changed {e : Edition} : (∀ old, current = some old → old.rulebook ≠ book) →
      e.rulebook = book → e.version = min (number current + 1) lastVersion →
      Outcome current book (.ok (e, true))
  | rejected {message : String} : ¬book.Valid →
      Outcome current book (.error (.configuration message))

theorem succeed_outcome (current : Option Edition) (book : Rulebook) :
    Outcome current book (succeed current book) := by
  have renewed (other : ∀ old, current = some old → old.rulebook ≠ book) : Outcome current book
      ((ofRulebook book (min (number current + 1) lastVersion)).map fun e => (e, true)) := by
    cases ofRulebook_cases book (min (number current + 1) lastVersion) with
    | inl made =>
      obtain ⟨e, he, -, hbook, hversion⟩ := made
      rw [he]
      exact .changed other hbook hversion
    | inr refused =>
      obtain ⟨message, hf, invalid⟩ := refused
      rw [hf]
      exact .rejected invalid
  cases current with
  | none =>
    refine renewed fun old hold => ?_
    cases hold
  | some e =>
    rw [succeed]
    split
    · next heq => exact .same rfl heq
    · next hne =>
      refine renewed fun old hold => ?_
      cases hold
      exact hne

theorem rulebook_of_succeed {changed : Bool} (h : succeed current book = .ok (e, changed)) :
    e.rulebook = book := by
  have outcome := succeed_outcome current book
  rw [h] at outcome
  cases outcome <;> assumption

def install (current : Option Edition) (book : Rulebook) : Option Edition :=
  match succeed current book with
  | .ok (e, _) => some e
  | .error _ => current

theorem install_of_ok {changed : Bool} (h : succeed current book = .ok (e, changed)) :
    install current book = some e := by
  rw [install, h]

theorem install_of_error {f : Fault} (h : succeed current book = .error f) :
    install current book = current := by
  rw [install, h]

theorem rulebook_install : (install current book).map rulebook =
    if book.Valid then some book else current.map rulebook := by
  have outcome := succeed_outcome current book
  rw [install]
  generalize succeed current book = answer at outcome
  cases outcome with
  | same _ heq => simp [← heq, valid]
  | changed _ heq _ => simp [← heq, valid]
  | rejected invalid => simp [invalid]

theorem install_cases (book : Rulebook) (few : number current < lastVersion) :
    install current book = current ∧ (book.Valid → current.map rulebook = some book) ∨
      number (install current book) = number current + 1 ∧ book.Valid ∧
        current.map rulebook ≠ some book := by
  have outcome := succeed_outcome current book
  rw [install]
  generalize succeed current book = answer at outcome
  cases outcome with
  | same hcurrent heq => exact .inl ⟨hcurrent.symm, fun _ => by rw [hcurrent, Option.map_some, heq]⟩
  | changed other heq hversion =>
    refine .inr ⟨hversion.trans (by omega), heq ▸ valid _, fun hsame => ?_⟩
    obtain ⟨old, hold, hbook⟩ := Option.map_eq_some_iff.1 hsame
    exact other old hold hbook
  | rejected invalid => exact .inl ⟨rfl, fun h => absurd h invalid⟩

theorem number_install_le (book : Rulebook) :
    number (install current book) ≤ number current + 1 := by
  have outcome := succeed_outcome current book
  rw [install]
  generalize succeed current book = answer at outcome
  cases outcome with
  | same hcurrent _ => exact hcurrent ▸ Nat.le_succ _
  | changed _ _ hversion => exact Nat.le_trans (Nat.le_of_eq hversion) (Nat.min_le_left _ _)
  | rejected => exact Nat.le_succ _

/-- How many of the rulebooks differ from the one before. -/
def changes : Option Rulebook → List Rulebook → Nat
  | _, [] => 0
  | last, book :: rest => (if last = some book then 0 else 1) + changes (some book) rest

section

variable {books : List Rulebook}

theorem rulebook_installs : (books.foldl install current).map rulebook =
    (books.filter fun book => book.Valid).getLast?.or (current.map rulebook) := by
  induction books generalizing current with
  | nil => simp
  | cons book rest ih =>
    rw [List.foldl_cons, ih, rulebook_install, List.filter_cons]
    by_cases valid : book.Valid
    · cases h : (rest.filter fun book => book.Valid).getLast? <;>
        simp [valid, List.getLast?_cons, h]
    · simp [valid]

theorem number_installs_le (books : List Rulebook) :
    number (books.foldl install current) ≤ number current + books.length := by
  induction books generalizing current with
  | nil => exact Nat.le_refl _
  | cons book rest ih =>
    have once : number (install current book) ≤ number current + 1 := number_install_le book
    have := @ih (install current book)
    rw [List.foldl_cons, List.length_cons]
    omega

theorem number_installs (few : number current + books.length ≤ lastVersion) :
    number (books.foldl install current) =
      number current + changes (current.map rulebook) (books.filter fun book => book.Valid) := by
  induction books generalizing current with
  | nil => simp [changes]
  | cons book rest ih =>
    rw [List.length_cons] at few
    have made : (install current book).map rulebook =
      if book.Valid then some book else current.map rulebook := rulebook_install
    cases install_cases book (show number current < lastVersion by omega) with
    | inl kept =>
      obtain ⟨same, known⟩ := kept
      rw [List.foldl_cons, same, ih (by omega), List.filter_cons]
      by_cases valid : book.Valid
      · simp [valid, changes, known valid]
      · simp [valid]
    | inr counted =>
      obtain ⟨next, valid, other⟩ := counted
      rw [if_pos valid] at made
      rw [List.foldl_cons, ih (by omega), made, next, List.filter_cons]
      simp only [valid, decide_true, if_true, changes, if_neg other]
      omega

theorem installs_stay (few : number current + books.length ≤ lastVersion) :
    number current ≤ number (books.foldl install current) ∧
      (number (books.foldl install current) = number current →
        books.foldl install current = current) := by
  induction books generalizing current with
  | nil => simp
  | cons book rest ih =>
    rw [List.length_cons] at few
    cases install_cases book (show number current < lastVersion by omega) with
    | inl kept =>
      rw [List.foldl_cons, kept.1]
      exact ih (by omega)
    | inr counted =>
      obtain ⟨le, -⟩ := @ih (install current book) (by omega)
      rw [List.foldl_cons]
      exact ⟨by omega, fun same => by omega⟩

end

end Edition

end AccessWindow
