import AccessWindow.Dict

namespace AccessWindow

section

variable {κ α : Type} [DecidableEq κ] [BEq κ] [LawfulBEq κ] {key other : κ}
  {entries : List (κ × α)}

theorem lookup_cons (head : κ × α) :
    (head :: entries).lookup key = if key = head.1 then some head.2 else entries.lookup key := by
  obtain ⟨first, value⟩ := head
  rw [List.lookup_cons]
  by_cases h : key = first
  · simp [h]
  · simp [h, beq_false_of_ne]

theorem lookup_filter :
    (entries.filter fun e => e.1 ≠ key).lookup other =
      if other = key then none else entries.lookup other := by
  induction entries with
  | nil => simp
  | cons head rest ih =>
    by_cases hk : head.1 = key
    · rw [List.filter_cons_of_neg (by simpa using hk), ih, lookup_cons, hk]
      by_cases h : other = key
      · simp [h]
      · simp [h]
    · rw [List.filter_cons_of_pos (by simpa using hk), lookup_cons, lookup_cons, ih]
      by_cases h : other = head.1
      · simp [h, hk]
      · simp [h]

end

namespace Dict

variable {α : Type} {d : Dict α} {key other : String} {value x : α}
  {entries : List (String × α)}

theorem lookup_insertEntry :
    (insertEntry key value entries).lookup other =
      if other = key then some value else entries.lookup other := by
  induction entries with
  | nil => simp [insertEntry, lookup_cons]
  | cons head rest ih =>
    rw [insertEntry]
    split
    · rw [lookup_cons]
    · split
      · next heq =>
        rw [lookup_cons, lookup_cons, ← heq]
        by_cases h : other = key
        · simp [h]
        · simp [h]
      · next hne =>
        rw [lookup_cons, lookup_cons, ih]
        by_cases h : other = key
        · simp [h, hne]
        · simp [h]

@[simp] theorem get?_empty : (empty : Dict α).get? key = none := rfl

@[simp] theorem get?_insert :
    (d.insert key value).get? other = if other = key then some value else d.get? other :=
  lookup_insertEntry

@[simp] theorem get?_erase :
    (d.erase key).get? other = if other = key then none else d.get? other := lookup_filter

@[simp] theorem contains_iff : d.contains key ↔ ∃ value, d.get? key = some value :=
  Option.isSome_iff_exists

theorem lookup_eq_some_iff (ordered : entries.Pairwise fun a b => a.1 < b.1) :
    entries.lookup key = some value ↔ (key, value) ∈ entries := by
  induction entries with
  | nil => simp
  | cons head rest ih =>
    have ⟨hhead, hrest⟩ := List.pairwise_cons.1 ordered
    obtain ⟨first, held⟩ := head
    rw [lookup_cons, List.mem_cons]
    by_cases h : key = first
    · subst h
      -- the keys that follow are greater
      have absent : (key, value) ∉ rest := fun hmem => String.lt_irrefl key (hhead _ hmem)
      simp [absent, eq_comm]
    · simp [h, ih hrest]

theorem mem_entries : (key, value) ∈ d.entries ↔ d.get? key = some value :=
  (lookup_eq_some_iff d.ordered).symm

theorem get?_foldl_erase {gone : List (String × α)} :
    (gone.foldl (fun d e => d.erase e.1) d).get? key =
      if key ∈ gone.map Prod.fst then none else d.get? key := by
  induction gone generalizing d with
  | nil => simp
  | cons head rest ih =>
    rw [List.foldl_cons, ih, get?_erase, List.map_cons]
    by_cases h : key = head.1
    · simp [h]
    · simp only [List.mem_cons, h, false_or, if_false]

theorem mem_values : x ∈ d.values ↔ ∃ key, d.get? key = some x := by
  simp [values, get?, lookup_eq_some_iff d.ordered]

theorem insertEntry_of_last (h : ∀ e ∈ entries, e.1 < key) :
    insertEntry key value entries = entries ++ [(key, value)] := by
  induction entries with
  | nil => rfl
  | cons head rest ih =>
    obtain ⟨hhead, hrest⟩ := List.forall_mem_cons.1 h
    rw [insertEntry, if_neg fun hlt => String.lt_irrefl _ (String.lt_trans hlt hhead),
      if_neg fun heq => String.lt_irrefl _ (heq ▸ hhead), ih hrest, List.cons_append]

theorem entries_foldl_insert (ordered : (d.entries ++ entries).Pairwise fun a b => a.1 < b.1) :
    (entries.foldl (fun d e => d.insert e.1 e.2) d).entries = d.entries ++ entries := by
  induction entries generalizing d with
  | nil => rw [List.foldl_nil, List.append_nil]
  | cons head rest ih =>
    have last : ∀ e ∈ d.entries, e.1 < head.1 := fun e he =>
      (List.pairwise_append.1 ordered).2.2 e he head List.mem_cons_self
    have grown : (d.insert head.1 head.2).entries = d.entries ++ [head] :=
      insertEntry_of_last last
    rw [List.foldl_cons, ih, grown, List.append_assoc, List.singleton_append]
    rwa [grown, List.append_assoc, List.singleton_append]

theorem eq_of_entries {a b : Dict α} (h : a.entries = b.entries) : a = b := by
  cases a
  cases b
  cases h
  rfl

theorem ofList_entries (d : Dict α) : ofList d.entries = d :=
  eq_of_entries (entries_foldl_insert (d := empty) d.ordered)

theorem get?_foldl_insert : (entries.foldl (fun d e => d.insert e.1 e.2) d).get? key =
    (entries.reverse.lookup key).or (d.get? key) := by
  induction entries generalizing d with
  | nil => rfl
  | cons head rest ih =>
    rw [List.foldl_cons, ih, get?_insert, List.reverse_cons, List.lookup_append, lookup_cons,
      List.lookup_nil, Option.or_assoc]
    split <;> rfl

theorem get?_ofList : (ofList entries).get? key = entries.reverse.lookup key := by
  rw [ofList, get?_foldl_insert, get?_empty, Option.or_none]

end Dict

end AccessWindow
