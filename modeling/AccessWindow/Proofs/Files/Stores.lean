import AccessWindow.Proofs.Files.Place
import AccessWindow.Proofs.Wire.Rulebook

namespace AccessWindow.Files

open Disk

/-- What a step that fails leaves behind: a file can be there in part. -/
inductive Disk.Spoils : Disk → Step → Disk → Prop
  | spared {d : Disk} {s : Step} : Spoils d s d
  | torn {d d' : Disk} {p : Path} {part bytes : List UInt8} :
      part <+: bytes → d.write p part = .ok d' → Spoils d (.write p bytes) d'

namespace Plan

variable {α : Type} {p : Plan α} {s : Step} {next k k' : Except Trouble Unit → Plan α}
  {d d' d₁ : Disk} {place : Place} {taken : List Step} {result : Option α} {path : Path}

/-- What can become of a plan: the steps that it takes, and what it ends with unless it is broken
off. Any step can fail for any reason. -/
inductive Course : Plan α → Disk → List Step → Option α → Disk → Prop
  | broken {p : Plan α} {d : Disk} : Course p d [] none d
  | ended {a : α} {d : Disk} : Course (.done a) d [] (some a) d
  | took {s : Step} {next : Except Trouble Unit → Plan α} {d d₁ d' : Disk} {taken : List Step}
      {result : Option α} :
      d.take s = .ok d₁ → Course (next (.ok ())) d₁ taken result d' →
      Course (.step s next) d (s :: taken) result d'
  | failed {s : Step} {next : Except Trouble Unit → Plan α} {d d₁ d' : Disk} {t : Trouble}
      {taken : List Step} {result : Option α} :
      d.Spoils s d₁ → Course (next (.error t)) d₁ taken result d' →
      Course (.step s next) d taken result d'

theorem course_run (p : Plan α) (d : Disk) :
    ∃ taken, p.Course d taken (some (p.run d).1) (p.run d).2 := by
  induction p generalizing d with
  | done a => exact ⟨[], .ended⟩
  | step s next ih =>
    rw [run]
    cases h : d.take s with
    | ok d₁ =>
      obtain ⟨taken, course⟩ := ih (.ok ()) d₁
      exact ⟨s :: taken, .took h course⟩
    | error t =>
      obtain ⟨taken, course⟩ := ih (.error t) d
      exact ⟨taken, .failed .spared course⟩

theorem run_makeFolders (h : d.isFolder path) :
    (makeFolders path k).run d = (k (.ok ())).run d := by
  rw [makeFolders, Path.lineage, Path.ancestors]
  split
  · rfl
  · rw [makeLineage, run, Disk.take, makeFolder_of_isFolder h]
    dsimp only
    rw [run, Disk.take, if_pos h]
    rfl

/-- The plan goes on in this way, after steps that have moved nothing and left the file at the place
as it was. -/
def GoesOn (place : Place) (k : Except Trouble Unit → Plan α) (d : Disk) (taken : List Step)
    (result : Option α) (d' : Disk) : Prop :=
  ∃ came d₁ later, Spares place d d₁ ∧ later.any Step.isMove = taken.any Step.isMove ∧
    (k came).Course d₁ later result d'

theorem GoesOn.of_course {came : Except Trouble Unit} (h : (k came).Course d taken result d') :
    GoesOn place k d taken result d' := ⟨came, d, taken, .refl place d, rfl, h⟩

theorem GoesOn.bind (h : GoesOn place k d taken result d')
    (on : ∀ {came d₁ later}, (k came).Course d₁ later result d' →
      GoesOn place k' d₁ later result d') :
    GoesOn place k' d taken result d' := by
  obtain ⟨came, d₁, later, spares, same, course⟩ := h
  obtain ⟨came', d₂, later', spares', same', course'⟩ := on course
  exact ⟨came', d₂, later', spares.trans spares', same'.trans same, course'⟩

theorem Course.goesOn (h : (step s next).Course d taken result d') (still : s.isMove = false)
    (unwritten : ∀ path bytes, s ≠ .write path bytes)
    (took : ∀ d₁, d.take s = .ok d₁ → Spares place d d₁) : GoesOn place next d taken result d' := by
  cases h with
  | broken => exact ⟨.ok (), _, [], .refl place _, rfl, .broken⟩
  | took taking course =>
    exact ⟨.ok (), _, _, took _ taking, by rw [List.any_cons, still, Bool.false_or], course⟩
  | failed spoils course =>
    cases spoils with
    | spared => exact ⟨.error _, _, _, .refl place _, rfl, course⟩
    | torn => exact absurd rfl (unwritten _ _)

theorem Course.of_makeFolder (h : (step (.makeFolder path) next).Course d taken result d') :
    GoesOn place next d taken result d' := h.goesOn rfl nofun fun _ => spares_makeFolder place

theorem Course.of_findFolder (h : (step (.findFolder path) next).Course d taken result d') :
    GoesOn place next d taken result d' := by
  refine h.goesOn rfl nofun fun d₁ found => ?_
  rw [Disk.take] at found
  split at found
  · cases found
    exact .refl place d
  · cases found

theorem Course.of_makeLineage {paths : List Path}
    (h : (makeLineage paths k).Course d taken result d') : GoesOn place k d taken result d' := by
  induction paths generalizing k d taken with
  | nil => exact .of_course h
  | cons p above ih =>
    rw [makeLineage] at h
    refine h.of_makeFolder.bind fun {came} _ _ h => ?_
    have settled {t : Trouble} {d : Disk} {taken : List Step}
        (h : (step (.findFolder p) fun found => k (found.mapError fun _ => t)).Course
          d taken result d') :
        GoesOn place k d taken result d' := h.of_findFolder.bind .of_course
    cases came with
    | ok => exact .of_course h
    | error t =>
      cases t with
      | missing =>
        refine (ih h).bind fun {came} _ _ h => ?_
        cases came with
        | error => exact .of_course h
        | ok =>
          refine h.of_makeFolder.bind fun {came} _ _ h => ?_
          cases came with
          | ok => exact .of_course h
          | error => exact settled h
      | _ => exact settled h

end Plan

namespace Cache

/-- A store of a rulebook that can fail or be broken off at any step, and whether the file was
moved. -/
def Attempt (c : Cache) (book : Rulebook) (d : Disk) (moved : Bool) (d' : Disk) : Prop :=
  ∃ taken result, (c.storing book).Course d taken result d' ∧ moved = taken.any Step.isMove

inductive Stores (c : Cache) (d : Disk) : List Rulebook → Disk → Prop
  | start : Stores c d [] d
  | unmoved {books : List Rulebook} {d₁ d₂ : Disk} {book : Rulebook} :
      Stores c d books d₁ → Attempt c book d₁ false d₂ → Stores c d books d₂
  | moved {books : List Rulebook} {d₁ d₂ : Disk} {book : Rulebook} :
      Stores c d books d₁ → Attempt c book d₁ true d₂ → Stores c d (books ++ [book]) d₂

def Holds (c : Cache) (d : Disk) : Option Rulebook → Prop
  | none => ∀ bytes, d.node? (d.spot c.path) ≠ some (.file bytes)
  | some book => d.node? (d.spot c.path) = some (.file (contents book)) ∧
      c.path.endsWithSlash = false ∧ ∃ name within, d.locate c.path = .ok (.named name within)

variable {c : Cache} {d d' : Disk} {book : Rulebook} {books : List Rulebook}
  {last : Option Rulebook}

theorem plain_append (base : String) : base ++ ".tmp" ∉ ["", ".", ".."] := by
  have longer (s : String) (short : s.length < 4) : base ++ ".tmp" ≠ s := by
    rintro rfl
    rw [String.length_append, show ".tmp".length = 4 from rfl] at short
    omega
  simp only [List.mem_cons, List.not_mem_nil, or_false, not_or]
  exact ⟨longer "" (by decide), longer "." (by decide), longer ".." (by decide)⟩

theorem spot_ne_temporary (d : Disk) (c : Cache) : d.spot c.path ≠ d.spot c.temporary := by
  rw [temporary, Path.withFileName]
  cases named : c.path.fileName? with
  | none =>
    -- the name is added to the path, so the temporary file is further down
    dsimp only
    rw [spot_push (plain_append _)]
    exact fun same => List.cons_ne_self _ _ same.symm
  | some name =>
    dsimp only
    rw [spot_push (plain_append _), spot_of_fileName? named]
    intro same
    have lengths := congrArg String.length (List.cons.inj same).1
    simp [String.length_append] at lengths

theorem Holds.spares (holds : c.Holds d last) (spares : Spares (d.spot c.path) d d') :
    c.Holds d' last := by
  cases last with
  | none =>
    intro bytes
    rw [spares.toKeeps.spot, ne_eq, spares.file]
    exact holds bytes
  | some book =>
    obtain ⟨file, slashless, name, within, located⟩ := holds
    refine ⟨?_, slashless, name, within, spares.toKeeps.locate located⟩
    rw [spares.toKeeps.spot, spares.file, file]

/-- What a store comes to, however it goes. If it ends, it tells whether the file was moved. -/
structure Upshot (c : Cache) (book : Rulebook) (d : Disk) (taken : List Step)
    (result : Option (Except Fault Unit)) (d' : Disk) : Prop where
  truthful : ∀ r ∈ result, r.isOk = taken.any Step.isMove
  unmoved : taken.any Step.isMove = false → Spares (d.spot c.path) d d'
  moved : taken.any Step.isMove = true → c.Holds d' (some book)

theorem Upshot.of_spares {taken : List Step} {result : Option (Except Fault Unit)}
    (spares : Spares (d.spot c.path) d d') (still : taken.any Step.isMove = false)
    (fails : ∀ r ∈ result, r.isOk = false) : c.Upshot book d taken result d' := by
  refine ⟨fun r hr => (fails r hr).trans still.symm, fun _ => spares, fun moved => ?_⟩
  cases still.symm.trans moved

theorem Upshot.of_holds {taken : List Step} {result : Option (Except Fault Unit)}
    (holds : c.Holds d' (some book)) (moved : taken.any Step.isMove = true)
    (succeeds : ∀ r ∈ result, r.isOk = true) : c.Upshot book d taken result d' := by
  refine ⟨fun r hr => (succeeds r hr).trans moved.symm, fun still => ?_, fun _ => holds⟩
  cases moved.symm.trans still

theorem moved_holds (write : d.write c.temporary (contents book) = .ok d₁)
    (move : d₁.move c.temporary c.path = .ok d') : c.Holds d' (some book) := by
  obtain ⟨inside, -, rfl⟩ := write_eq_ok write
  obtain ⟨keeps, located, slashless, bytes, source, target⟩ := move_moved move
  have written := source.symm.trans ((node?_put inside).trans (if_pos rfl))
  cases written
  refine ⟨?_, slashless, located⟩
  rw [keeps.spot, target]

theorem spares_temporary {bytes : List UInt8} (h : d.write c.temporary bytes = .ok d') :
    Spares (d.spot c.path) d d' := spares_write (spot_ne_temporary d c) h

theorem goesOn_prepare {α : Type} {k : Except Trouble Unit → Plan α} {taken : List Step}
    {result : Option α} (place : Place) (h : (c.prepare k).Course d taken result d') :
    Plan.GoesOn place k d taken result d' := by
  rw [prepare] at h
  split at h
  · exact .of_course h
  · split at h
    · exact .of_course h
    · exact h.of_makeLineage

theorem upshot_storing {taken : List Step} {result : Option (Except Fault Unit)}
    (h : (c.storing book).Course d taken result d') : c.Upshot book d taken result d' := by
  obtain ⟨came, d₁, later, spares, same, h⟩ := goesOn_prepare (d.spot c.path) h
  have aside {bytes : List UInt8} {d₂ : Disk}
      (write : d₁.take (.write c.temporary bytes) = .ok d₂) : Spares (d.spot c.path) d d₂ :=
    spares.trans (spares.toKeeps.spot ▸ spares_temporary write)
  have failed {f : Fault} {d₂ : Disk} {rest : List Step} (spares : Spares (d.spot c.path) d d₂)
      (h : (Plan.done (.error f)).Course d₂ rest result d')
      (same : rest.any Step.isMove = taken.any Step.isMove) : c.Upshot book d taken result d' := by
    cases h with
    | broken => exact .of_spares spares same.symm nofun
    | ended => exact .of_spares spares same.symm fun _ hr => by cases hr; rfl
  -- the cases go along the plan: the folders, the write, the move
  cases came with
  | error t => exact failed spares h same
  | ok =>
    cases h with
    | broken => exact .of_spares spares same.symm nofun
    | failed spoils h =>
      cases spoils with
      | spared => exact failed spares h same
      | torn _ write => exact failed (aside write) h same
    | took write h =>
      cases h with
      | broken => exact .of_spares (aside write) same.symm nofun
      | failed spoils h =>
        cases spoils
        exact failed (aside write) h same
      | took move h =>
        have holds := moved_holds write move
        cases h with
        | broken => exact .of_holds holds same.symm nofun
        | ended => exact .of_holds holds same.symm fun _ hr => by cases hr; rfl

theorem Attempt.unmoved (h : c.Attempt book d false d') : Spares (d.spot c.path) d d' := by
  obtain ⟨taken, result, course, still⟩ := h
  exact (upshot_storing course).unmoved still.symm

theorem Attempt.holds (h : c.Attempt book d true d') : c.Holds d' (some book) := by
  obtain ⟨taken, result, course, moved⟩ := h
  exact (upshot_storing course).moved moved.symm

theorem Stores.holds (h : c.Stores d books d') (clear : c.Holds d none) :
    c.Holds d' books.getLast? := by
  -- only a store that gets to move the file changes what it holds
  induction h with
  | start => exact clear
  | unmoved _ attempt ih => exact ih.spares attempt.unmoved
  | moved _ attempt =>
    rw [List.getLast?_concat]
    exact attempt.holds

theorem Holds.load (holds : c.Holds d last) : c.load d = .ok last ∨
    last = none ∧ ∃ t, t ≠ .missing ∧ d.read c.path = .error t ∧
      c.load d = .error (fault "read" c.path t) := by
  cases last with
  | some book =>
    obtain ⟨file, slashless, name, within, located⟩ := holds
    rw [spot_of_locate located] at file
    have read : d.read c.path = .ok (contents book) := by
      simp only [Disk.read, located, file, slashless, Bool.false_eq_true, if_false]
    have whole : Rulebook.ofBytes (contents book) = .ok book := by
      rw [Rulebook.ofBytes, contents, Rulebook.toText, book.returns.decode_prettyText (by decide)]
    refine .inl ?_
    rw [Cache.load, read]
    dsimp only
    rw [whole]
    rfl
  | none =>
    have unread : ∃ t, d.read c.path = .error t := by
      rw [Disk.read]
      split
      · exact ⟨_, rfl⟩
      · exact ⟨_, rfl⟩
      · next name within located =>
        split
        · exact ⟨_, rfl⟩
        · exact ⟨_, rfl⟩
        · next bytes file => exact absurd ((spot_of_locate located).symm ▸ file) (holds bytes)
    obtain ⟨t, read⟩ := unread
    rw [Cache.load, read]
    by_cases missing : t = .missing
    · subst missing
      exact .inl rfl
    · refine .inr ⟨rfl, t, missing, rfl, ?_⟩
      cases t with
      | missing => exact absurd rfl missing
      | _ => rfl

theorem store_attempt (c : Cache) (book : Rulebook) (d : Disk) :
    c.Attempt book d (c.store book d).1.isOk (c.store book d).2 := by
  obtain ⟨taken, course⟩ := (c.storing book).course_run d
  exact ⟨taken, _, course, (upshot_storing course).truthful _ rfl⟩

/-- Nothing is in the way of a store: the folder is there, and so is room for both files. -/
structure Room (c : Cache) (d : Disk) : Prop where
  folder : ∀ folder, c.path.parent? = some folder → folder.isEmpty ∨ d.isFolder folder
  temporary : d.Fits c.temporary
  file : d.Fits c.path

theorem run_prepare {α : Type} {k : Except Trouble Unit → Plan α} (room : c.Room d) :
    (c.prepare k).run d = (k (.ok ())).run d := by
  rw [prepare]
  split
  · rfl
  · next folder up =>
    split
    · rfl
    · next named => exact Plan.run_makeFolders ((room.folder folder up).resolve_left named)

theorem store_of_room (room : c.Room d) (book : Rulebook) : (c.store book d).1 = .ok () := by
  have write : d.take (.write c.temporary (contents book)) =
      .ok (d.put (d.spot c.temporary) (.file (contents book))) := room.temporary.write
  obtain ⟨inside, unoccupied⟩ := room.temporary.free
  have file : (d.put (d.spot c.temporary) (.file (contents book))).node?
      ((d.put (d.spot c.temporary) (.file (contents book))).spot c.temporary) =
        some (.file (contents book)) := by
    rw [(keeps_put inside unoccupied).spot, node?_put inside, if_pos rfl]
  obtain ⟨d', move⟩ :=
    (room.temporary.put room.temporary).move (room.file.put room.temporary) file
  rw [store, storing, run_prepare room]
  dsimp only
  rw [Plan.run, write]
  dsimp only
  rw [Plan.run, Disk.take, move]
  rfl

/-- Whatever becomes of the stores, the file is read as the rulebook that was moved there last. If
there is none, there is nothing to read or reading fails. A store that nothing comes between is one
of these; it succeeds just if the file is moved, and does if nothing is in its way. -/
theorem load_gives_last_moved (clear : ∀ bytes, d.node? (d.spot c.path) ≠ some (.file bytes))
    (stores : c.Stores d books d') :
    (c.load d' = .ok books.getLast? ∨
      books = [] ∧ ∃ t, t ≠ .missing ∧ d'.read c.path = .error t ∧
        c.load d' = .error (fault "read" c.path t)) ∧
    ∀ book, c.Attempt book d' (c.store book d').1.isOk (c.store book d').2 ∧
      (c.Room d' → (c.store book d').1 = .ok ()) := by
  refine ⟨?_, fun book => ⟨c.store_attempt book d', fun room => store_of_room room book⟩⟩
  cases (stores.holds clear).load with
  | inl loaded => exact .inl loaded
  | inr unread => exact .inr ⟨List.getLast?_eq_none_iff.1 unread.1, unread.2⟩

namespace Sample

def cache : Cache := ⟨⟨false, ["config.json"]⟩⟩

def other : Rulebook := { Rulebook.standard with project := "OPS" }

def disk (temporary file : Option (List UInt8)) : Disk where
  home := ["home"]
  nodes := (temporary.map fun bytes => (["config.json.tmp", "home"], .file bytes)).toList ++
    (file.map fun bytes => (["config.json", "home"], .file bytes)).toList ++ [(["home"], .folder)]

def torn : Disk := disk (some ((contents other).take 5)) (some (contents .standard))

theorem unfilled (bytes : List UInt8) :
    Disk.fresh.node? (Disk.fresh.spot cache.path) ≠ some (.file bytes) := by
  have nothing : Disk.fresh.node? (Disk.fresh.spot cache.path) = none := rfl
  rw [nothing]
  nofun

theorem stores : cache.Stores .fresh [.standard] torn := by
  have write : Disk.fresh.write cache.temporary (contents .standard) =
      .ok (disk (some (contents .standard)) none) := rfl
  have stored : cache.Attempt .standard .fresh true (disk none (some (contents .standard))) :=
    ⟨_, _, .took write (.took rfl .broken), rfl⟩
  have broken : cache.Attempt other (disk none (some (contents .standard))) false torn :=
    ⟨_, _, .failed (t := .busy) (.torn (List.take_prefix 5 (contents other)) rfl) .broken, rfl⟩
  exact .unmoved (.moved .start stored) broken

theorem torn_room : cache.Room torn where
  folder folder up := by
    have home : cache.path.parent? = some ⟨false, []⟩ := rfl
    cases home.symm.trans up
    exact .inl rfl
  temporary := ⟨rfl, "config.json.tmp", ["home"], rfl, by decide +kernel⟩
  file := ⟨rfl, "config.json", ["home"], rfl, by decide +kernel⟩

theorem torn_store_spares_file :
    (cache.load torn = .ok [Rulebook.standard].getLast? ∨
      [Rulebook.standard] = [] ∧ ∃ t, t ≠ .missing ∧ torn.read cache.path = .error t ∧
        cache.load torn = .error (fault "read" cache.path t)) ∧
    ∀ book, cache.Attempt book torn (cache.store book torn).1.isOk (cache.store book torn).2 ∧
      (cache.store book torn).1 = .ok () := by
  obtain ⟨read, attempts⟩ := load_gives_last_moved unfilled stores
  exact ⟨read, fun book => (attempts book).imp_right fun succeeds => succeeds torn_room⟩

end Sample

end Cache

end AccessWindow.Files
