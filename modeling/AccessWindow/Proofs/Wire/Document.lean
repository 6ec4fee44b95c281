import AccessWindow.Json.Codec
import AccessWindow.Proofs.Wire.Literal
import AccessWindow.Proofs.Wire.Printing

namespace AccessWindow.Json

open Text.Utf8

theorem whole_toDoc (j : Json) : j.toDoc.whole := by
  cases j <;> rfl

namespace Doc

variable {style : Style} {level fuel : Nat} {ws gs cs : List Char} {bs : List UInt8} {j : Json}

theorem skipSpace_blank (h : Blank ws) : skipSpace (encodeChars ws ++ bs) = skipSpace bs := by
  induction ws with
  | nil => rfl
  | cons c ws ih =>
    obtain ⟨hc, hws⟩ := List.forall_mem_cons.1 h
    rw [← ih hws]
    obtain rfl | rfl := hc <;> rfl

theorem skipSpace_mark {b : UInt8} (h : isSpace b = false) : skipSpace (b :: bs) = b :: bs :=
  List.dropWhile_cons_of_neg (by simp [h])

theorem readValue_blank (h : Blank ws) :
    readValue fuel (encodeChars ws ++ bs) = readValue fuel bs := by
  cases fuel with
  | zero => rw [readValue, readValue]
  | succ fuel => rw [readValue, readValue, skipSpace_blank h]

theorem readItems_blank (h : Blank ws) :
    readItems fuel (encodeChars ws ++ bs) = readItems fuel bs := by
  cases fuel with
  | zero => rw [readItems, readItems]
  | succ fuel => rw [readItems, readItems, readValue_blank h]

theorem readMembers_blank (h : Blank ws) :
    readMembers fuel (encodeChars ws ++ bs) = readMembers fuel bs := by
  cases fuel with
  | zero => rw [readMembers, readMembers]
  | succ fuel => rw [readMembers, readMembers, skipSpace_blank h]

def Opens (cs : List Char) : Prop :=
  ∃ c rest, cs = c :: rest ∧ c ∈ ['n', 't', 'f', '"', '[', '\x7b']

theorem Opens.length_pos (h : Opens cs) : 0 < cs.length := by
  obtain ⟨c, rest, rfl, -⟩ := h
  exact Nat.succ_pos _

theorem Opens.append {ds : List Char} (h : Opens cs) : Opens (cs ++ ds) := by
  obtain ⟨c, rest, rfl, hc⟩ := h
  exact ⟨c, rest ++ ds, rfl, hc⟩

theorem skipSpace_opens (h : Opens cs) :
    skipSpace (encodeChars cs ++ bs) = encodeChars cs ++ bs := by
  obtain ⟨c, rest, rfl, hc⟩ := h
  simp only [List.mem_cons, List.not_mem_nil, or_false] at hc
  obtain rfl | rfl | rfl | rfl | rfl | rfl := hc <;> rfl

theorem print_opens (h : numberless j) : Opens (print style level j) := by
  cases j with
  | number => cases h
  | bool b => cases b <;> exact ⟨_, _, rfl, by decide⟩
  | null => exact ⟨_, _, rfl, by decide⟩
  | string => exact ⟨_, _, rfl, by decide⟩
  | array items => cases items <;> exact ⟨_, _, rfl, by decide⟩
  | object members => cases members <;> exact ⟨_, _, rfl, by decide⟩

theorem encodeChars_mark {c : Char} (b : UInt8) (hc : encodeChar c = [b]) :
    encodeChars (c :: (gs ++ cs)) ++ bs = b :: (encodeChars gs ++ (encodeChars cs ++ bs)) := by
  rw [encodeChars_cons, hc, encodeChars_append, List.append_assoc, List.append_assoc]
  rfl

theorem encodeChars_quoted (s : String) :
    encodeChars (quoted s) ++ bs =
      34 :: (encodeChars (s.toList.flatMap escape) ++ 34 :: bs) := by
  rw [quoted, encodeChars_cons, encodeChars_append, List.append_assoc, List.append_assoc]
  rfl

theorem encodeChars_printMembersFrom {key : String} {value : Json}
    {members : List (String × Json)} :
    encodeChars (printMembersFrom style level key value members) ++ bs =
      34 :: (encodeChars (key.toList.flatMap escape) ++ 34 :: 58 :: (encodeChars style.colon ++
        (encodeChars (print style (level + 1) value) ++
          (encodeChars (printMembers style level members) ++ bs)))) := by
  rw [printMembersFrom, encodeChars_append, List.append_assoc, encodeChars_quoted,
    encodeChars_mark 58 rfl, encodeChars_append, List.append_assoc]

theorem readValue_string (s : String) :
    readValue (fuel + 1) (encodeChars (quoted s) ++ bs) = (.string (some s), bs) := by
  obtain ⟨ps, found, hs⟩ := pieces?_quoted s bs
  rw [encodeChars_quoted, readValue, skipSpace_mark (by decide)]
  simp only [found, hs]

theorem readValue_array (hg : Blank gs) (h : Opens cs) :
    readValue (fuel + 1) (91 :: (encodeChars gs ++ (encodeChars cs ++ bs))) =
      (.array (readItems fuel (encodeChars cs ++ bs)).1
        (readItems fuel (encodeChars cs ++ bs)).2.1,
        (readItems fuel (encodeChars cs ++ bs)).2.2) := by
  have inside : skipSpace (encodeChars gs ++ (encodeChars cs ++ bs)) = encodeChars cs ++ bs := by
    rw [skipSpace_blank hg, skipSpace_opens h]
  rw [readValue, skipSpace_mark (by decide)]
  simp only [inside]
  obtain ⟨c, rest, rfl, hc⟩ := h
  simp only [List.mem_cons, List.not_mem_nil, or_false] at hc
  obtain rfl | rfl | rfl | rfl | rfl | rfl := hc <;> rfl

theorem readValue_object (hg : Blank gs) :
    readValue (fuel + 1) (123 :: (encodeChars gs ++ 34 :: bs)) =
      (.object (readMembers fuel (34 :: bs)).1 (readMembers fuel (34 :: bs)).2.1,
        (readMembers fuel (34 :: bs)).2.2) := by
  rw [readValue, skipSpace_mark (by decide)]
  simp only [skipSpace_blank hg, skipSpace_mark (show isSpace 34 = false by decide)]
  rfl

variable {rest more after next : List UInt8} {d : Doc} {ps : List Piece}

theorem readItems_last (h : readValue fuel bs = (d, rest)) (whole : d.whole)
    (close : skipSpace rest = 93 :: after) : readItems (fuel + 1) bs = ([d], true, after) := by
  rw [readItems, h]
  simp only [whole, close]
  rfl

theorem readItems_more (h : readValue fuel bs = (d, rest)) (whole : d.whole)
    (comma : skipSpace rest = 44 :: next) :
    readItems (fuel + 1) bs =
      (d :: (readItems fuel next).1, (readItems fuel next).2.1, (readItems fuel next).2.2) := by
  rw [readItems, h]
  simp only [whole, comma]
  rfl

theorem readMembers_key (key : pieces? bs = some (ps, 58 :: more))
    (h : readValue fuel more = (d, rest)) (whole : d.whole) :
    readMembers (fuel + 1) (34 :: bs) =
      match skipSpace rest with
      | 44 :: next =>
        ((stringOf ps, d) :: (readMembers fuel next).1, (readMembers fuel next).2.1,
          (readMembers fuel next).2.2)
      | 125 :: after => ([(stringOf ps, d)], true, after)
      | _ => ([(stringOf ps, d)], false, []) := by
  rw [readMembers, skipSpace_mark (by decide)]
  simp only [key, skipSpace_mark (show isSpace 58 = false by decide), h, whole]
  rfl

theorem readMembers_last (key : pieces? bs = some (ps, 58 :: more))
    (h : readValue fuel more = (d, rest)) (whole : d.whole)
    (close : skipSpace rest = 125 :: after) :
    readMembers (fuel + 1) (34 :: bs) = ([(stringOf ps, d)], true, after) := by
  rw [readMembers_key key h whole, close]
  rfl

theorem readMembers_more (key : pieces? bs = some (ps, 58 :: more))
    (h : readValue fuel more = (d, rest)) (whole : d.whole)
    (comma : skipSpace rest = 44 :: next) :
    readMembers (fuel + 1) (34 :: bs) =
      ((stringOf ps, d) :: (readMembers fuel next).1, (readMembers fuel next).2.1,
        (readMembers fuel next).2.2) := by
  rw [readMembers_key key h whole, comma]
  rfl

variable (style fuel) in
structure Reads : Prop where
  value : ∀ level j bs, numberless j → (print style level j).length ≤ fuel →
    readValue fuel (encodeChars (print style level j) ++ bs) = (j.toDoc, bs)
  items : ∀ level item items bs, numberless item → numberlessItems items →
    (printFrom style level item items).length ≤ fuel →
      readItems fuel (encodeChars (printFrom style level item items) ++ bs) =
        (toDocs (item :: items), true, bs)
  members : ∀ level key value members bs, numberless value → numberlessMembers members →
    (printMembersFrom style level key value members).length ≤ fuel →
      readMembers fuel (encodeChars (printMembersFrom style level key value members) ++ bs) =
        (memberDocs ((key, value) :: members), true, bs)

theorem Reads.value_succ (h : Reads style fuel) (plain : numberless j)
    (enough : (print style level j).length ≤ fuel + 1) :
    readValue (fuel + 1) (encodeChars (print style level j) ++ bs) = (j.toDoc, bs) := by
  cases j with
  | null => rfl
  | bool b => cases b <;> rfl
  | number => cases plain
  | string s => exact readValue_string s
  | array items =>
    cases items with
    | nil => rfl
    | cons item items =>
      rw [numberless, numberlessItems, Bool.and_eq_true] at plain
      rw [print_array, List.length_cons, List.length_append] at enough
      have opens : Opens (printFrom style level item items) := (print_opens plain.1).append
      rw [print_array, encodeChars_mark 91 rfl, readValue_array (style.gap_blank _) opens,
        h.items level item items bs plain.1 plain.2 (by omega)]
      rfl
  | object members =>
    cases members with
    | nil => rfl
    | cons member members =>
      obtain ⟨key, value⟩ := member
      rw [numberless, numberlessMembers, Bool.and_eq_true] at plain
      rw [print_object, List.length_cons, List.length_append] at enough
      rw [print_object, encodeChars_mark 123 rfl, encodeChars_printMembersFrom,
        readValue_object (style.gap_blank _), ← encodeChars_printMembersFrom,
        h.members level key value members bs plain.1 plain.2 (by omega)]
      rfl

theorem Reads.items_succ (h : Reads style fuel) {item : Json} {items : List Json}
    (first : numberless item) (others : numberlessItems items)
    (enough : (printFrom style level item items).length ≤ fuel + 1) :
    readItems (fuel + 1) (encodeChars (printFrom style level item items) ++ bs) =
      (toDocs (item :: items), true, bs) := by
  rw [printFrom, List.length_append] at enough
  have follows : 0 < (printItems style level items).length := by
    cases items <;> simp [printItems]
  have begins : 0 < (print style (level + 1) item).length := (print_opens first).length_pos
  rw [printFrom, encodeChars_append, List.append_assoc]
  have value := h.value (level + 1) item (encodeChars (printItems style level items) ++ bs) first
    (by omega)
  cases items with
  | nil =>
    refine readItems_last value (whole_toDoc item) ?_
    rw [printItems, encodeChars_append, List.append_assoc, skipSpace_blank (style.gap_blank _)]
    rfl
  | cons next items =>
    rw [numberlessItems, Bool.and_eq_true] at others
    have comma : skipSpace (encodeChars (printItems style level (next :: items)) ++ bs) =
        44 :: (encodeChars (style.gap (level + 1)) ++
          (encodeChars (printFrom style level next items) ++ bs)) := by
      rw [printItems_cons, encodeChars_mark 44 rfl]
      rfl
    rw [printItems_cons, List.length_cons, List.length_append] at enough
    rw [readItems_more value (whole_toDoc item) comma, readItems_blank (style.gap_blank _),
      h.items level next items bs others.1 others.2 (by omega)]
    rfl

theorem Reads.members_succ (h : Reads style fuel) {key : String} {value : Json}
    {members : List (String × Json)} (first : numberless value)
    (others : numberlessMembers members)
    (enough : (printMembersFrom style level key value members).length ≤ fuel + 1) :
    readMembers (fuel + 1) (encodeChars (printMembersFrom style level key value members) ++ bs) =
      (memberDocs ((key, value) :: members), true, bs) := by
  simp only [printMembersFrom, List.length_append, List.length_cons] at enough
  obtain ⟨ps, found, hkey⟩ := pieces?_quoted key (58 :: (encodeChars style.colon ++
    (encodeChars (print style (level + 1) value) ++
      (encodeChars (printMembers style level members) ++ bs))))
  have read := (readValue_blank style.colon_blank).trans
    (h.value (level + 1) value (encodeChars (printMembers style level members) ++ bs) first
      (by omega))
  rw [encodeChars_printMembersFrom]
  cases members with
  | nil =>
    have close : skipSpace (encodeChars (printMembers style level []) ++ bs) = 125 :: bs := by
      rw [printMembers, encodeChars_append, List.append_assoc,
        skipSpace_blank (style.gap_blank _)]
      rfl
    rw [readMembers_last found read (whole_toDoc value) close, hkey]
    rfl
  | cons next members =>
    obtain ⟨nextKey, nextValue⟩ := next
    rw [numberlessMembers, Bool.and_eq_true] at others
    have comma : skipSpace (encodeChars (printMembers style level ((nextKey, nextValue) :: members))
        ++ bs) = 44 :: (encodeChars (style.gap (level + 1)) ++
          (encodeChars (printMembersFrom style level nextKey nextValue members) ++ bs)) := by
      rw [printMembers_cons, encodeChars_mark 44 rfl]
      rfl
    rw [printMembers_cons, List.length_cons, List.length_append] at enough
    rw [readMembers_more found read (whole_toDoc value) comma,
      readMembers_blank (style.gap_blank _),
      h.members level nextKey nextValue members bs others.1 others.2 (by omega), hkey]
    rfl

/-- By induction on the fuel, as the reader goes: what it reads next is shorter by the mark or the
value in front of it. -/
theorem reads (style : Style) (fuel : Nat) : Reads style fuel := by
  induction fuel with
  | zero =>
    refine ⟨?_, ?_, ?_⟩
    · intro level j bs plain short
      exact absurd short (Nat.not_le.2 (print_opens plain).length_pos)
    · intro level item items bs first others short
      exact absurd short (Nat.not_le.2 (print_opens first).append.length_pos)
    · intro level key value members bs first others short
      exact absurd short (Nat.not_le.2 (Nat.succ_pos _))
  | succ fuel ih =>
    exact ⟨fun _ _ _ => ih.value_succ, fun _ _ _ _ => ih.items_succ,
      fun _ _ _ _ _ => ih.members_succ⟩

theorem read_print (plain : numberless j) :
    Doc.read (encodeChars (print style level j)) = (j.toDoc, []) := by
  have short : (print style level j).length ≤ 2 * (encodeChars (print style level j)).length + 2 :=
    calc
      _ ≤ (encodeChars (print style level j)).length := length_le_encodeChars
      _ ≤ _ := by omega
  have whole := (reads style _).value level j [] plain short
  rwa [List.append_nil] at whole

end Doc

namespace Codec

variable {α : Type} {c : Codec α} {j : Json}

theorem decodeText_print {style : Style} {level : Nat} (plain : numberless j) :
    c.decodeText (encodeChars (print style level j)) = c.read (.text Route.deepest) j.toDoc := by
  rw [Codec.decodeText, Doc.read_print plain]
  change (c.read (.text Route.deepest) j.toDoc).bind (fun a => .ok a) = _
  cases c.read (.text Route.deepest) j.toDoc <;> rfl

theorem decodeText_compactText (plain : numberless j) :
    c.decodeText (encode (compactText j)) = c.read (.text Route.deepest) j.toDoc := by
  rw [encode, compactText, String.toList_ofList, compact_eq 0, decodeText_print plain]

theorem decodeText_prettyText (plain : numberless j) :
    c.decodeText (encode (prettyText j)) = c.read (.text Route.deepest) j.toDoc := by
  rw [encode, prettyText, String.toList_ofList, pretty_eq 0, decodeText_print plain]

end Codec

end AccessWindow.Json
