import AccessWindow.Proofs.Wire.Percent
import AccessWindow.Url.Walk

namespace AccessWindow

namespace Text

variable {sep : Char} {p cs ds : List Char}

theorem pieces_of_not_mem (h : sep ∉ cs) : pieces sep cs = [cs] := by
  induction cs with
  | nil => rfl
  | cons c cs ih =>
    obtain ⟨hc, hcs⟩ := not_or.1 (mt List.mem_cons.2 h)
    rw [pieces, if_neg (Ne.symm hc), ih hcs]

theorem pieces_append (cs ds : List Char) :
    pieces sep (cs ++ sep :: ds) = pieces sep cs ++ pieces sep ds := by
  induction cs with
  | nil => simp [pieces]
  | cons c cs ih =>
    rw [List.cons_append, pieces, pieces, ih]
    split
    · rfl
    · cases hp : pieces sep cs with
      | nil => exact absurd hp (pieces_ne_nil sep cs)
      | cons first rest => rfl

theorem not_mem_of_mem_pieces (h : p ∈ pieces sep cs) : sep ∉ p := by
  induction cs generalizing p with
  | nil =>
    obtain rfl := List.mem_singleton.1 h
    exact List.not_mem_nil
  | cons c cs ih =>
    rw [pieces] at h
    split at h
    · obtain rfl | h := List.mem_cons.1 h
      · exact List.not_mem_nil
      · exact ih h
    · next hc =>
      cases hp : pieces sep cs with
      | nil => exact absurd hp (pieces_ne_nil sep cs)
      | cons first rest =>
        rw [hp] at h ih
        obtain rfl | h := List.mem_cons.1 h
        · exact fun hmem => (List.mem_cons.1 hmem).elim (Ne.symm hc) (ih List.mem_cons_self)
        · exact ih (List.mem_cons_of_mem _ h)

theorem sublist_of_mem_pieces (h : p ∈ pieces sep cs) : p.Sublist cs := by
  induction cs generalizing p with
  | nil => exact List.mem_singleton.1 h ▸ List.Sublist.refl _
  | cons c cs ih =>
    rw [pieces] at h
    split at h
    · obtain rfl | h := List.mem_cons.1 h
      · exact List.nil_sublist _
      · exact (ih h).cons c
    · cases hp : pieces sep cs with
      | nil => exact absurd hp (pieces_ne_nil sep cs)
      | cons first rest =>
        rw [hp] at h ih
        obtain rfl | h := List.mem_cons.1 h
        · exact (ih List.mem_cons_self).cons_cons c
        · exact (ih (List.mem_cons_of_mem _ h)).cons c

namespace Utf8

def size (cs : List Char) : Nat := (encodeChars cs).length

theorem size_le_of_sublist (h : ds.Sublist cs) : size ds ≤ size cs := by
  induction h with
  | slnil => exact Nat.le_refl _
  | cons c _ ih =>
    rw [size, size, encodeChars_cons, List.length_append]
    exact Nat.le_add_left_of_le ih
  | cons_cons c _ ih =>
    rw [size, size, encodeChars_cons, encodeChars_cons, List.length_append, List.length_append]
    exact Nat.add_le_add_left ih _

theorem eq_of_sublist (h : ds.Sublist cs) (le : size cs ≤ size ds) : ds = cs := by
  induction h with
  | slnil => rfl
  | @cons ds cs c h ih =>
    have grows := @length_le_encodeChars [c]
    have fewer := size_le_of_sublist h
    rw [show c :: cs = [c] ++ cs from rfl, size, encodeChars_append, List.length_append] at le
    rw [size] at le fewer
    simp only [List.length_singleton] at grows
    simp only [size] at fewer
    omega
  | cons_cons c _ ih =>
    rw [size, size, encodeChars_cons, encodeChars_cons, List.length_append,
      List.length_append] at le
    rw [ih (Nat.le_of_add_le_add_left le)]

end Utf8

end Text

namespace Url

open Text

variable {known : Bool} {before target names : List String} {name last own : String}
  {cs ds : List Char}

def pass (before : List String) (name : String) : List String :=
  if twoDots.contains name then back before
  else if dot.contains name then before
  else before ++ [name]

def arrive (before : List String) (name : String) : List String :=
  if twoDots.contains name then back before ++ [""]
  else if dot.contains name then before ++ [""]
  else before ++ [name]

theorem walk_append (before names : List String) (last : String) :
    walk before (names ++ [last]) = arrive (names.foldl pass before) last := by
  induction names generalizing before with
  | nil => rfl
  | cons name names ih =>
    obtain ⟨next, rest, h⟩ : ∃ next rest, names ++ [last] = next :: rest := by
      cases names with
      | nil => exact ⟨_, _, rfl⟩
      | cons next rest => exact ⟨_, _, rfl⟩
    rw [List.foldl_cons, ← ih, List.cons_append, h, walk, pass, apply_ite (walk · (next :: rest)),
      apply_ite (walk · (next :: rest))]

theorem walk_further {front : List String} (h : names ≠ []) :
    walk before (front ++ names) = walk (front.foldl pass before) names := by
  obtain ⟨rest, last, rfl⟩ := (List.eq_nil_or_concat names).resolve_left h
  rw [List.concat_eq_append, ← List.append_assoc, walk_append, walk_append, List.foldl_append]

def isDots (name : String) : Bool := twoDots.contains name || dot.contains name

theorem pass_of_plain (h : isDots name = false) : pass before name = before ++ [name] := by
  obtain ⟨two, one⟩ := Bool.or_eq_false_iff.1 h
  rw [pass, two, one]
  rfl

theorem arrive_of_plain (h : isDots name = false) : arrive before name = before ++ [name] := by
  obtain ⟨two, one⟩ := Bool.or_eq_false_iff.1 h
  rw [arrive, two, one]
  rfl

theorem arrive_of_dots (h : isDots name) : ∃ front, arrive before name = front ++ [""] := by
  rw [arrive]
  split
  · exact ⟨_, rfl⟩
  · next two =>
    rw [if_pos ((Bool.or_eq_true_iff.1 h).resolve_left two)]
    exact ⟨_, rfl⟩

theorem foldl_pass_of_plain (h : ∀ name ∈ names, isDots name = false) :
    names.foldl pass before = before ++ names := by
  induction names generalizing before with
  | nil => rw [List.foldl_nil, List.append_nil]
  | cons name names ih =>
    obtain ⟨hname, hnames⟩ := List.forall_mem_cons.1 h
    rw [List.foldl_cons, pass_of_plain hname, ih hnames, List.append_assoc, List.singleton_append]

theorem drop_back_subset (n : Nat) : (back before).drop n ⊆ before.drop n := by
  rw [back]
  split
  · exact List.Subset.refl _
  · intro name h
    rw [List.dropLast_eq_take, List.drop_take] at h
    exact List.mem_of_mem_take h

theorem mem_drop_foldl_pass {n : Nat} (h : name ∈ (names.foldl pass before).drop n) :
    name ∈ before.drop n ∨ name ∈ names ∧ isDots name = false := by
  induction names generalizing before with
  | nil => exact .inl h
  | cons first names ih =>
    obtain h | ⟨h, plain⟩ := ih h
    · rw [pass] at h
      split at h
      · exact .inl (drop_back_subset n h)
      · next two =>
        split at h
        · exact .inl h
        · next one =>
          rw [List.drop_append] at h
          obtain h | h := List.mem_append.1 h
          · exact .inl h
          · obtain rfl := List.mem_singleton.1 (List.mem_of_mem_drop h)
            refine .inr ⟨List.mem_cons_self, ?_⟩
            exact Bool.or_eq_false_iff.2 ⟨Bool.not_eq_true _ ▸ two, Bool.not_eq_true _ ▸ one⟩
    · exact .inr ⟨List.mem_cons_of_mem _ h, plain⟩

def slashed (known : Bool) (cs : List Char) : List Char :=
  if known then cs.map fun c => if c = '\\' then '/' else c else cs

def written (cs : List Char) : String := String.ofList (Percent.encode inPath cs)

theorem namesOf_eq : namesOf known cs = (pieces '/' (slashed known cs)).map written := rfl

theorem namesOf_append (cs ds : List Char) :
    namesOf known (cs ++ '/' :: ds) = namesOf known cs ++ namesOf known ds := by
  have split : slashed known (cs ++ '/' :: ds) = slashed known cs ++ '/' :: slashed known ds := by
    cases known with
    | false => rfl
    | true => simp [slashed]
  rw [namesOf_eq, split, pieces_append, List.map_append]
  rfl

theorem namesOf_flatMap (cs : List Char) (further : List (List Char)) :
    namesOf known (cs ++ further.flatMap ('/' :: ·)) =
      namesOf known cs ++ further.flatMap (namesOf known) := by
  induction further generalizing cs with
  | nil => rw [List.flatMap_nil, List.flatMap_nil, List.append_nil, List.append_nil]
  | cons ds further ih =>
    rw [List.flatMap_cons, List.flatMap_cons, ← List.append_assoc, ih, namesOf_append,
      List.append_assoc]

theorem size_slashed : Utf8.size (slashed known cs) = Utf8.size cs := by
  cases known with
  | false => rfl
  | true =>
    induction cs with
    | nil => rfl
    | cons c cs ih =>
      simp only [slashed, if_true, Utf8.size, List.map_cons, Utf8.encodeChars_cons,
        List.length_append] at ih ⊢
      rw [ih]
      split
      · next h =>
        rw [h]
        rfl
      · rfl

theorem slashed_eq_self (h : known → '\\' ∉ cs) : slashed known cs = cs := by
  cases known with
  | false => rfl
  | true =>
    refine (List.map_congr_left fun c hc => ?_).trans (List.map_id _)
    exact if_neg fun (same : c = '\\') => h rfl (same ▸ hc)

theorem decode_written (cs : List Char) :
    Percent.decode (written cs).toList = Percent.decode cs := by
  rw [written, String.toList_ofList]
  refine Percent.decode_encode_of_keep (by decide) fun c h => ?_
  have all : ∀ n < 128, (Percent.digitValue? (Char.ofNat n)).isSome → inPath (Char.ofNat n) := by
    decide +kernel
  have kept := all c.toNat (Percent.lt_of_digitValue? h)
  rw [Char.ofNat_toNat] at kept
  exact kept h

structure Passes (known : Bool) (cs : List Char) : Prop where
  single : '/' ∉ cs
  straight : known → '\\' ∉ cs
  unescaped : Percent.Unescaped cs
  proper : cs ≠ ['.'] ∧ cs ≠ ['.', '.']

theorem encodeChars_injective (h : Utf8.encodeChars cs = Utf8.encodeChars ds) : cs = ds := by
  have same := congrArg Utf8.decode? h
  rw [Utf8.decode?_encodeChars, Utf8.decode?_encodeChars] at same
  simpa using congrArg (Option.map String.toList) same

theorem dots_of_reads (dots : isDots own)
    (reads : Percent.decode own.toList = Utf8.encodeChars cs) : cs = ['.'] ∨ cs = ['.', '.'] := by
  have two : ∀ w ∈ twoDots, Percent.decode w.toList = Utf8.encodeChars ['.', '.'] := by decide
  have one : ∀ w ∈ dot, Percent.decode w.toList = Utf8.encodeChars ['.'] := by decide
  rw [isDots, Bool.or_eq_true, List.contains_iff_mem, List.contains_iff_mem] at dots
  obtain h | h := dots
  · exact .inr (encodeChars_injective (reads.symm.trans (two own h)))
  · exact .inl (encodeChars_injective (reads.symm.trans (one own h)))

namespace Passes

theorem namesOf (h : Passes known cs) : namesOf known cs = [written cs] := by
  rw [namesOf_eq, slashed_eq_self h.straight, pieces_of_not_mem h.single, List.map_singleton]

theorem reads (h : Passes known cs) :
    Percent.decode (written cs).toList = Utf8.encodeChars cs :=
  (decode_written cs).trans (Percent.decode_eq_iff.2 h.unescaped)

theorem plain (h : Passes known cs) : isDots (written cs) = false := by
  refine Bool.eq_false_iff.2 fun dots => ?_
  exact (dots_of_reads dots h.reads).elim h.proper.1 h.proper.2

end Passes

theorem passes_of_reads (sub : ds.Sublist cs) (mem : own ∈ namesOf known ds)
    (plain : isDots own = false) (reads : Percent.decode own.toList = Utf8.encodeChars cs) :
    ds = cs ∧ own = written cs ∧ Passes known cs := by
  rw [namesOf_eq] at mem
  obtain ⟨p, hp, rfl⟩ := List.mem_map.1 mem
  rw [decode_written] at reads
  have part := sublist_of_mem_pieces hp
  have enough : Utf8.size cs ≤ Utf8.size p := by
    rw [Utf8.size, ← reads]
    exact Percent.length_decode_le p
  -- each step from the text to the name can only lose bytes
  have fewer := Utf8.size_le_of_sublist part
  rw [size_slashed] at fewer
  obtain rfl := Utf8.eq_of_sublist sub (Nat.le_trans enough fewer)
  have whole : p = slashed known ds := Utf8.eq_of_sublist part (size_slashed.symm ▸ enough)
  have single : '/' ∉ slashed known ds := whole ▸ not_mem_of_mem_pieces hp
  have straight : known → '\\' ∉ ds := by
    rintro rfl hmem
    exact single (List.mem_map.2 ⟨'\\', hmem, rfl⟩)
  rw [slashed_eq_self straight] at whole single
  subst whole
  refine ⟨rfl, rfl, single, straight, Percent.decode_eq_iff.1 reads, ?_, ?_⟩
  · rintro rfl
    cases plain
  · rintro rfl
    cases plain

theorem foldl_pass_eq_iff (sub : ds.Sublist cs) (short : before.length ≤ target.length)
    (reads : Percent.decode own.toList = Utf8.encodeChars cs) :
    (namesOf known ds).foldl pass before = target ++ [own] ↔
      before = target ∧ ds = cs ∧ own = written cs ∧ Passes known cs := by
  constructor
  · intro h
    have deep : own ∈ ((namesOf known ds).foldl pass before).drop before.length := by
      rw [h, List.drop_append_of_le_length short]
      exact List.mem_append_right _ List.mem_cons_self
    obtain none | ⟨mem, plain⟩ := mem_drop_foldl_pass deep
    · rw [List.drop_length] at none
      cases none
    · obtain ⟨rfl, rfl, passes⟩ := passes_of_reads sub mem plain reads
      rw [passes.namesOf, List.foldl_cons, pass_of_plain plain] at h
      exact ⟨List.append_cancel_right h, rfl, rfl, passes⟩
  · rintro ⟨rfl, rfl, rfl, passes⟩
    rw [passes.namesOf, List.foldl_cons, pass_of_plain passes.plain]
    rfl

theorem walk_eq_iff (sub : ds.Sublist cs)
    (reads : Percent.decode own.toList = Utf8.encodeChars cs) :
    walk before (namesOf known ds) = target ++ [own] ↔
      before = target ∧ ds = cs ∧ own = written cs ∧ Passes known cs := by
  constructor
  · intro h
    obtain none | ⟨front, last, hnames⟩ := List.eq_nil_or_concat (namesOf known ds)
    · rw [namesOf_eq, List.map_eq_nil_iff] at none
      exact absurd none (pieces_ne_nil _ _)
    · rw [hnames, List.concat_eq_append, walk_append] at h
      rw [List.concat_eq_append] at hnames
      have mem : last ∈ namesOf known ds :=
        hnames ▸ List.mem_append_right _ List.mem_cons_self
      cases plain : isDots last with
      | false =>
        rw [arrive_of_plain plain] at h
        obtain ⟨reached, hlast⟩ := List.append_inj' h rfl
        obtain rfl := List.singleton_inj.1 hlast
        obtain ⟨rfl, rfl, passes⟩ := passes_of_reads sub mem plain reads
        rw [passes.namesOf] at hnames
        obtain rfl : front = [] := List.append_left_eq_self.1 hnames.symm
        exact ⟨reached, rfl, rfl, passes⟩
      | true =>
        -- dots leave nothing, and only the empty text is read from nothing
        obtain ⟨left, hleft⟩ := arrive_of_dots plain
        rw [hleft] at h
        obtain rfl := List.singleton_inj.1 (List.append_inj' h rfl).2
        have nothing : cs = [] := encodeChars_injective reads.symm
        subst nothing
        rw [List.sublist_nil.1 sub] at mem
        cases known <;> cases mem with
          | head => cases plain
          | tail _ mem => cases mem
  · rintro ⟨rfl, rfl, rfl, passes⟩
    rw [passes.namesOf]
    exact (walk_append before [] _).trans (arrive_of_plain passes.plain)

end Url

end AccessWindow
