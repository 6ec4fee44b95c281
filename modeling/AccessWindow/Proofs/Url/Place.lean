import AccessWindow.Http.Exchange
import AccessWindow.Proofs.Url.Walk
import Mathlib.Data.List.TakeWhile

namespace AccessWindow.Url

open Text

variable {base u : Url} {known : Bool} {before names : List String} {name own : String}
  {reference : String} {cs head tail : List Char}

/-- The names of a path up to where it is open. A slash at the end opens the folder before it. -/
def stem (names : List String) : List String :=
  if names.getLast? = some "" then names.dropLast else names

/-- The address goes on from where another one is open, with these names, and differs from it
otherwise in nothing but the query and the fragment. -/
def Continues (base : Url) (names : List String) (u : Url) : Prop :=
  ∃ before query fragment, base.path = .rooted before ∧
    u = { base with path := .rooted (stem before ++ names), query, fragment }

structure Spells (own name : String) : Prop where
  single : ∀ c ∈ own.toList, c ∉ ['/', '?', '#']
  reads : Percent.decode own.toList = Utf8.encode name

theorem spells_of_encode {keep : Char → Bool} (kept : ∀ c ∈ cs, keep c → c ∉ ['/', '?', '#'])
    (reads : Percent.decode (Percent.encode keep cs) = Utf8.encode name) :
    Spells (String.ofList (Percent.encode keep cs)) name where
  single c hc := by
    rw [String.toList_ofList] at hc
    have signs : ('%' :: "0123456789ABCDEF".toList).all (· ∉ ['/', '?', '#']) := by decide
    exact (Percent.mem_encode hc).elim (fun h => kept c h.1 h.2) fun h =>
      of_decide_eq_true (List.all_eq_true.1 signs c h)
  reads := by rw [String.toList_ofList, reads]

def kept (cs : List Char) : List Char := cs.filter (!isDropped ·)

theorem kept_sublist (cs : List Char) : (kept cs).Sublist cs := List.filter_sublist

theorem kept_eq_self : kept cs = cs ↔ ∀ c ∈ cs, isDropped c = false := by
  simp [kept, List.filter_eq_self]

theorem kept_append_cons {mark : Char} (h : isDropped mark = false) :
    kept (head ++ mark :: tail) = kept head ++ mark :: kept tail := by
  rw [kept, List.filter_append, List.filter_cons_of_pos (by simp [h]), ← kept, ← kept]

def trimEnd (cs : List Char) : List Char := (cs.reverse.dropWhile isEdge).reverse

theorem trimEnd_sublist (cs : List Char) : (trimEnd cs).Sublist cs := by
  have dropped := List.dropWhile_sublist (l := cs.reverse) isEdge
  rw [trimEnd, ← List.reverse_sublist, List.reverse_reverse]
  exact dropped

theorem trimEnd_eq_self : trimEnd cs = cs ↔ ∀ c ∈ cs.getLast?, isEdge c = false := by
  rw [trimEnd, ← List.head?_reverse, List.reverse_eq_iff]
  cases cs.reverse with
  | nil => simp
  | cons c rest =>
    rw [List.dropWhile_cons]
    cases h : isEdge c with
    | false => simp [h]
    | true =>
      have shorter : rest.dropWhile isEdge ≠ c :: rest := fun same => by
        have length := (List.dropWhile_sublist (l := rest) isEdge).length_le
        rw [same, List.length_cons] at length
        omega
      simp [h, shorter]

theorem clean_eq (firm : ∀ c ∈ head.head?, isEdge c = false) :
    clean (String.ofList (head ++ '/' :: tail)) = kept head ++ '/' :: kept (trimEnd tail) := by
  have start : (head ++ '/' :: tail).dropWhile isEdge = head ++ '/' :: tail := by
    cases head with
    | nil => rfl
    | cons c head => exact List.dropWhile_cons_of_neg (by simp [firm c rfl])
  have finish : ((head ++ '/' :: tail).reverse.dropWhile isEdge).reverse =
      head ++ '/' :: trimEnd tail := by
    rw [List.reverse_append, List.reverse_cons, List.append_assoc, List.dropWhile_append, trimEnd]
    split
    · next none =>
      rw [List.isEmpty_iff.1 none, List.singleton_append,
        List.dropWhile_cons_of_neg (by decide), List.reverse_cons, List.reverse_reverse]
      rfl
    · simp
  rw [clean, String.toList_ofList, start, finish, ← kept, kept_append_cons (by decide)]

theorem kept_trimEnd_eq_self : kept (trimEnd cs) = cs ↔
    kept cs = cs ∧ ∀ c ∈ cs.getLast?, isEdge c = false := by
  rw [← trimEnd_eq_self]
  constructor
  · intro h
    have sub := kept_sublist (trimEnd cs)
    rw [h] at sub
    have whole := (trimEnd_sublist cs).eq_of_length_le sub.length_le
    rw [whole] at h
    exact ⟨h, whole⟩
  · rintro ⟨h, whole⟩
    rw [whole, h]

theorem takeWhile_of_not_mem {mark : Char} (h : mark ∉ cs) : cs.takeWhile (· ≠ mark) = cs :=
  List.takeWhile_eq_self_iff.2 fun _ hc => decide_eq_true (ne_of_mem_of_not_mem hc h)

theorem dropWhile_eq_nil {mark : Char} : cs.dropWhile (· ≠ mark) = [] ↔ mark ∉ cs := by
  rw [List.dropWhile_eq_nil_iff]
  constructor
  · exact fun h hmem => of_decide_eq_true (h mark hmem) rfl
  · exact fun h _ hc => decide_eq_true (ne_of_mem_of_not_mem hc h)

theorem cut_of_unmarked (query : '?' ∉ cs) (fragment : '#' ∉ cs) : cut cs = ⟨cs, none, none⟩ := by
  simp only [cut, takeWhile_of_not_mem fragment, takeWhile_of_not_mem query,
    dropWhile_eq_nil.2 fragment, dropWhile_eq_nil.2 query]

theorem fragment_eq_none : (cut cs).fragment = none ↔ '#' ∉ cs := by
  rw [← dropWhile_eq_nil]
  simp only [cut]
  cases cs.dropWhile (· ≠ '#') <;> simp

theorem query_eq_none : (cut cs).query = none ↔ '?' ∉ cs.takeWhile (· ≠ '#') := by
  rw [← dropWhile_eq_nil]
  simp only [cut]
  cases (cs.takeWhile (· ≠ '#')).dropWhile (· ≠ '?') <;> simp

theorem unmarked_of_cut (query : (cut cs).query = none) (fragment : (cut cs).fragment = none) :
    '?' ∉ cs ∧ '#' ∉ cs := by
  have noFragment := fragment_eq_none.1 fragment
  have noQuery := query_eq_none.1 query
  rw [takeWhile_of_not_mem noFragment] at noQuery
  exact ⟨noQuery, noFragment⟩

/-- The path is open at its end, or there is nothing in it. -/
def IsFolder (base : Url) : Prop :=
  ∀ before, base.path = .rooted before → ∀ name ∈ before.getLast?, name = ""

theorem isFolder_iff (h : base.path = .rooted before) :
    base.IsFolder ↔ before.dropLast = stem before := by
  have only : base.IsFolder ↔ ∀ name ∈ before.getLast?, name = "" := by
    rw [IsFolder, h]
    exact ⟨fun h => h before rfl, fun h _ same => Path.rooted.inj same ▸ h⟩
  rw [only, stem]
  split
  · next opened => simp [opened]
  · next opened =>
    obtain rfl | ⟨front, last, rfl⟩ := List.eq_nil_or_concat before
    · simp
    · rw [List.concat_eq_append, List.getLast?_concat] at opened ⊢
      simpa using opened

theorem follow_rooted (h : base.path = .rooted before) :
    base.follow reference = .ok { base with
      path := .rooted (walk before.dropLast
        (namesOf (isKnown base.scheme) (cut (clean reference)).path))
      query := (cut (clean reference)).query.map (queryText (isKnown base.scheme))
      fragment := (cut (clean reference)).fragment.map fragmentText } := by
  rw [follow, h]

theorem exists_follow_iff :
    (∃ u, base.follow reference = .ok u) ↔ ∃ before, base.path = .rooted before := by
  constructor
  · rintro ⟨u, h⟩
    cases hpath : base.path with
    | rooted before => exact ⟨before, rfl⟩
    | loose text =>
      rw [follow, hpath] at h
      cases h
  · rintro ⟨before, h⟩
    exact ⟨_, follow_rooted h⟩

theorem hasHost_of_follow (h : base.follow reference = .ok u) : u.hasHost = base.hasHost := by
  obtain ⟨before, rooted⟩ := exists_follow_iff.1 ⟨u, h⟩
  rw [follow_rooted rooted] at h
  cases h
  rfl

theorem follow_continues_iff (rooted : base.path = .rooted before)
    (h : base.follow reference = .ok u) :
    (base.Continues names u ∧ u.query = none ∧ u.fragment = none) ↔
      '?' ∉ clean reference ∧ '#' ∉ clean reference ∧
        walk before.dropLast (namesOf (isKnown base.scheme) (clean reference)) =
          stem before ++ names := by
  rw [follow_rooted rooted] at h
  cases h
  constructor
  · rintro ⟨⟨front, query, fragment, hfront, same⟩, hquery, hfragment⟩
    obtain rfl := Path.rooted.inj (rooted.symm.trans hfront)
    obtain ⟨noQuery, noFragment⟩ :=
      unmarked_of_cut (Option.map_eq_none_iff.1 hquery) (Option.map_eq_none_iff.1 hfragment)
    have reached := Path.rooted.inj (congrArg Url.path same)
    rw [cut_of_unmarked noQuery noFragment] at reached
    exact ⟨noQuery, noFragment, reached⟩
  · rintro ⟨noQuery, noFragment, reached⟩
    rw [cut_of_unmarked noQuery noFragment]
    exact ⟨⟨before, none, none, rooted, by rw [reached]; rfl⟩, rfl, rfl⟩

end AccessWindow.Url

namespace AccessWindow.Http.Exchange

theorem prepare_url {α : Type} {context method : String} {url : Url} {credential : Option String}
    {body : Option Json} {interpret : Response → Except Fault α} :
    ∃ message, (prepare context method url credential body interpret).map (·.request.url) =
      if url.hasHost ∧ credential.isSome then .ok url else .error (.external none message) := by
  simp only [prepare]
  cases url.hasHost with
  | false => exact ⟨_, rfl⟩
  | true =>
    cases credential with
    | none => exact ⟨_, rfl⟩
    | some own => exact ⟨"", rfl⟩

end AccessWindow.Http.Exchange
