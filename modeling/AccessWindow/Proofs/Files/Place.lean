import AccessWindow.Files.Disk
import AccessWindow.Proofs.Lookup

namespace AccessWindow.Files

def follow (place : Place) (name : String) : Place :=
  if name = "." then place else if name = ".." then place.tail else name :: place

namespace Path

variable {p : Path} {name : String} {rest : List String} {rooted : Bool} {place : Place}

theorem steps_push (h : name ≠ "") : (p.push name).steps = p.steps ++ [name] := by
  rw [push]
  split
  · next rest hp =>
    have names : p.names = rest.reverse ++ [""] := by
      rw [← List.reverse_reverse p.names, hp, List.reverse_cons]
    simp [steps, names, h]
  · simp [steps, h]

theorem rooted_push : (p.push name).rooted = p.rooted := by
  rw [push]
  split <;> rfl

theorem foldl_settle (rooted : Bool) (place : Place) (names : List String) :
    ((settle rooted names).reverse.filter (· ≠ "")).foldl follow place =
      (names.reverse.filter (· ≠ "")).foldl follow place := by
  induction names with
  | nil => rfl
  | cons n rest ih =>
    rw [settle]
    split
    · next idle =>
      rw [ih, List.reverse_cons, List.filter_append, List.foldl_append]
      rcases idle with rfl | ⟨rfl, -⟩ <;> rfl
    · rfl

theorem ne_empty_of_settle {names : List String} (h : settle rooted names = name :: rest) :
    name ≠ "" := by
  induction names with
  | nil => cases h
  | cons n names ih =>
    rw [settle] at h
    split at h
    · exact ih h
    · next other =>
      cases h
      exact fun empty => other (.inl empty)

end Path

namespace Disk

variable {d d' d₁ : Disk} {p : Path} {name : String} {place within other : Place} {node : Node}
  {bytes : List UInt8}

/-- Where a path leads, if nothing is in its way. -/
def spot (d : Disk) (p : Path) : Place :=
  p.steps.foldl follow (if p.rooted then [] else d.home)

theorem spot_push (plain : name ∉ ["", ".", ".."]) : d.spot (p.push name) = name :: d.spot p := by
  simp only [List.mem_cons, List.not_mem_nil, or_false, not_or] at plain
  rw [spot, Path.steps_push plain.1, Path.rooted_push, List.foldl_append]
  simp [follow, plain, spot]

theorem spot_of_fileName? (h : p.fileName? = some name) :
    d.spot p = name :: d.spot (p.parent?.getD p) := by
  rw [Path.fileName?] at h
  rw [Path.parent?]
  cases settled : Path.settle p.rooted p.names.reverse with
  | nil =>
    rw [settled] at h
    cases h
  | cons n rest =>
    rw [settled] at h
    dsimp only at h
    split at h
    · cases h
    · next plain =>
      cases h
      have filled := Path.ne_empty_of_settle settled
      rw [not_or] at plain
      have whole := Path.foldl_settle p.rooted (if p.rooted then [] else d.home) p.names.reverse
      rw [settled, List.reverse_reverse, List.reverse_cons, List.filter_append,
        List.foldl_append] at whole
      simp only [Option.getD_some, spot, Path.steps]
      rw [Path.foldl_settle, ← whole]
      simp [filled, follow, plain]

inductive Enters (d : Disk) : Place → List String → Place → Prop
  | here {place : Place} : Enters d place [] place
  | on {place within : Place} {name : String} {rest : List String} :
      (name ∉ [".", ".."] →
        ¬longestName < name.utf8ByteSize ∧ d.node? (name :: place) = some .folder) →
      Enters d (follow place name) rest within → Enters d place (name :: rest) within

theorem enters_of_enter {names : List String} (h : d.enter place names = .ok within) :
    d.Enters place names within := by
  induction names generalizing place with
  | nil =>
    cases h
    exact .here
  | cons n rest ih =>
    rw [enter] at h
    split at h
    · next dot =>
      subst dot
      exact .on (by simp) (ih h)
    · next other =>
      split at h
      · next up =>
        subst up
        exact .on (by simp) (ih h)
      · next plain =>
        have on : follow place n = n :: place := by rw [follow, if_neg other, if_neg plain]
        split at h
        · cases h
        · next short =>
          split at h
          · cases h
          · cases h
          · next folder => exact .on (fun _ => ⟨short, folder⟩) (on ▸ ih h)

theorem Enters.enter {names : List String} (h : d.Enters place names within) :
    d.enter place names = .ok within := by
  induction h with
  | here => rfl
  | @on place within name rest through _ ih =>
    rw [Disk.enter]
    rw [follow] at ih
    by_cases dot : name = "."
    · rw [if_pos dot] at ih ⊢
      exact ih
    · rw [if_neg dot] at ih ⊢
      by_cases up : name = ".."
      · rw [if_pos up] at ih ⊢
        exact ih
      · obtain ⟨short, folder⟩ := through (by simp [dot, up])
        rw [if_neg up] at ih ⊢
        rw [if_neg short, folder]
        exact ih

theorem Enters.foldl {names : List String} (h : d.Enters place names within) :
    names.foldl follow place = within := by
  induction h with
  | here => rfl
  | on _ _ ih => exact ih

theorem spot_of_locate (h : d.locate p = .ok (.named name within)) :
    d.spot p = name :: within := by
  unfold locate at h
  split at h
  · cases h
  · split at h
    · cases h
    · split at h
      · cases h
      · dsimp only at h
        split at h
        · cases h
        · next last before reversed =>
          have steps : p.steps = before.reverse ++ [last] := by
            rw [← List.reverse_reverse p.steps, reversed, List.reverse_cons]
          split at h
          · cases h
          · next found entered =>
            split at h
            · cases h
            · next plain =>
              split at h
              · cases h
              · next plain' =>
                split at h
                · cases h
                · cases h
                  rw [spot, steps, List.foldl_append, (enters_of_enter entered).foldl]
                  simp [follow, plain, plain']

structure Keeps (d d' : Disk) : Prop where
  home : d'.home = d.home
  folders : ∀ place, d.node? place = some .folder → d'.node? place = some .folder

structure Spares (place : Place) (d d' : Disk) : Prop extends Keeps d d' where
  file : ∀ bytes, d'.node? place = some (.file bytes) ↔ d.node? place = some (.file bytes)

theorem Keeps.spot (keeps : Keeps d d') : d'.spot p = d.spot p := by
  rw [Disk.spot, Disk.spot, keeps.home]

theorem Keeps.enters {names : List String} (keeps : Keeps d d')
    (h : d.Enters place names within) : d'.Enters place names within := by
  induction h with
  | here => exact .here
  | on through _ ih => exact .on (fun plain => (through plain).imp_right (keeps.folders _)) ih

theorem Keeps.locate {t : Target} (keeps : Keeps d d') (h : d.locate p = .ok t) :
    d'.locate p = .ok t := by
  unfold Disk.locate at h ⊢
  rw [keeps.home]
  split at h
  · cases h
  · next whole =>
    rw [if_neg whole]
    split at h
    · cases h
    · next filled =>
      rw [if_neg filled]
      split at h
      · cases h
      · next short =>
        rw [if_neg short]
        dsimp only at h ⊢
        cases reversed : p.steps.reverse with
        | nil =>
          rw [reversed] at h
          exact h
        | cons last before =>
          rw [reversed] at h
          dsimp only at h ⊢
          split at h
          · cases h
          · next entered => rwa [(keeps.enters (enters_of_enter entered)).enter]

theorem Keeps.refl (d : Disk) : Keeps d d := ⟨rfl, fun _ => id⟩

theorem Keeps.trans (h : Keeps d d₁) (h' : Keeps d₁ d') : Keeps d d' :=
  ⟨h'.home.trans h.home, fun place => h'.folders place ∘ h.folders place⟩

theorem Spares.refl (place : Place) (d : Disk) : Spares place d d := ⟨.refl d, fun _ => Iff.rfl⟩

theorem Spares.trans (h : Spares place d d₁) (h' : Spares place d₁ d') : Spares place d d' :=
  ⟨h.toKeeps.trans h'.toKeeps, fun bytes => (h'.file bytes).trans (h.file bytes)⟩

theorem node?_erase (inside : place ≠ []) :
    (d.erase place).node? other = if other = place then none else d.node? other := by
  have others : (d.nodes.filter fun n => n.1 ≠ place).lookup other =
      if other = place then none else d.nodes.lookup other := lookup_filter
  rw [node?, node?]
  split
  · next root => rw [if_neg fun same => inside (same.symm.trans root)]
  · exact others

theorem node?_put (inside : place ≠ []) :
    (d.put place node).node? other = if other = place then some node else d.node? other := by
  by_cases same : other = place
  · subst same
    simp [node?, put, inside]
  · have others : (d.erase place).node? other = d.node? other := by
      rw [node?_erase inside, if_neg same]
    rw [if_neg same, ← others]
    simp [node?, put, List.lookup_cons, beq_false_of_ne same]

theorem keeps_put (inside : place ≠ []) (h : d.node? place ≠ some .folder) :
    Keeps d (d.put place node) := by
  refine ⟨rfl, fun other folder => ?_⟩
  rw [node?_put inside, if_neg, folder]
  rintro rfl
  exact h folder

theorem keeps_erase (inside : place ≠ []) (h : d.node? place ≠ some .folder) :
    Keeps d (d.erase place) := by
  refine ⟨rfl, fun other folder => ?_⟩
  rw [node?_erase inside, if_neg, folder]
  rintro rfl
  exact h folder

theorem spares_makeFolder (place : Place) (h : d.makeFolder p = .ok d') : Spares place d d' := by
  rw [makeFolder] at h
  split at h
  · cases h
  · cases h
  · next name within _ =>
    split at h
    · cases h
    · next new =>
      cases h
      rw [Option.not_isSome_iff_eq_none] at new
      refine ⟨keeps_put (List.cons_ne_nil _ _) (by simp [new]), fun bytes => ?_⟩
      rw [node?_put (List.cons_ne_nil _ _)]
      split
      · next same => simp [same, new]
      · rfl

theorem write_eq_ok (h : d.write p bytes = .ok d') :
    d.spot p ≠ [] ∧ d.node? (d.spot p) ≠ some .folder ∧ d' = d.put (d.spot p) (.file bytes) := by
  rw [write] at h
  split at h
  · cases h
  · cases h
  · next name within located =>
    rw [spot_of_locate located]
    split at h
    · cases h
    · next free =>
      cases h
      exact ⟨List.cons_ne_nil _ _, fun folder => free (.inr folder), rfl⟩

theorem spares_write (beside : place ≠ d.spot p) (h : d.write p bytes = .ok d') :
    Spares place d d' := by
  obtain ⟨inside, free, rfl⟩ := write_eq_ok h
  refine ⟨keeps_put inside free, fun bytes => ?_⟩
  rw [node?_put inside, if_neg beside]

structure Moved (d : Disk) (source target : Path) (d' : Disk) : Prop where
  keeps : Keeps d d'
  located : ∃ name within, d'.locate target = .ok (.named name within)
  slashless : target.endsWithSlash = false
  file : ∃ bytes, d.node? (d.spot source) = some (.file bytes) ∧
    d'.node? (d.spot target) = some (.file bytes)

theorem move_moved {source target : Path} (h : d.move source target = .ok d') :
    Moved d source target d' := by
  rw [move] at h
  split at h
  · cases h
  · cases h
  · next name within name' within' there here =>
    split at h
    · cases h
    · cases h
    · next bytes file =>
      split at h
      · cases h
      · next slashless =>
        split at h
        · cases h
        · next free =>
          cases h
          have first : Keeps d (d.erase (name :: within)) :=
            keeps_erase (List.cons_ne_nil _ _) (by simp [file])
          have still : (d.erase (name :: within)).node? (name' :: within') ≠ some .folder := by
            rw [node?_erase (List.cons_ne_nil _ _)]
            split
            · nofun
            · exact free
          have keeps : Keeps d ((d.erase (name :: within)).put (name' :: within') (.file bytes)) :=
            first.trans (keeps_put (List.cons_ne_nil _ _) still)
          refine ⟨keeps, ⟨name', within', keeps.locate here⟩, ?_, bytes, ?_, ?_⟩
          · simpa using fun ends => slashless (.inr ends)
          · rw [spot_of_locate there, file]
          · rw [spot_of_locate here, node?_put (List.cons_ne_nil _ _), if_pos rfl]
  · cases h

/-- A file can be put where the path leads. -/
def Fits (d : Disk) (p : Path) : Prop :=
  p.endsWithSlash = false ∧ ∃ name within,
    d.locate p = .ok (.named name within) ∧ d.node? (name :: within) ≠ some .folder

theorem Fits.free (fits : d.Fits p) : d.spot p ≠ [] ∧ d.node? (d.spot p) ≠ some .folder := by
  obtain ⟨-, name, within, located, free⟩ := fits
  rw [spot_of_locate located]
  exact ⟨List.cons_ne_nil _ _, free⟩

theorem Fits.write (fits : d.Fits p) :
    d.write p bytes = .ok (d.put (d.spot p) (.file bytes)) := by
  obtain ⟨slashless, name, within, located, free⟩ := fits
  rw [Disk.write, located, spot_of_locate located]
  exact if_neg (by simp [slashless, free])

theorem Fits.put {q : Path} (fits : d.Fits p) (there : d.Fits q) :
    (d.put (d.spot q) (.file bytes)).Fits p := by
  obtain ⟨slashless, name, within, located, free⟩ := fits
  obtain ⟨inside, unoccupied⟩ := there.free
  refine ⟨slashless, name, within, (keeps_put inside unoccupied).locate located, ?_⟩
  rw [node?_put inside]
  split
  · nofun
  · exact free

theorem Fits.move {source target : Path} (there : d.Fits source) (fits : d.Fits target)
    (file : d.node? (d.spot source) = some (.file bytes)) :
    ∃ d', d.move source target = .ok d' := by
  obtain ⟨slashless, name, within, located, -⟩ := there
  obtain ⟨slashless', name', within', located', free⟩ := fits
  rw [spot_of_locate located] at file
  rw [Disk.move, located, located']
  dsimp only
  rw [file]
  dsimp only
  rw [if_neg (by simp [slashless, slashless']), if_neg free]
  exact ⟨_, rfl⟩

theorem makeFolder_of_isFolder (h : d.isFolder p) : d.makeFolder p = .error .occupied := by
  rw [isFolder] at h
  rw [makeFolder]
  split at h
  · cases h
  · rfl
  · exact if_pos (by simp [of_decide_eq_true h])

end Disk

end AccessWindow.Files
