import AccessWindow.Json.Document
import AccessWindow.Json.Printer
import AccessWindow.Proofs.Wire.Utf8

namespace AccessWindow.Json

open Text.Utf8

namespace Doc

variable {b e w x y z : UInt8} {bs xs : List UInt8} {ps more : List Piece} {c : Char}
  {cs : List Char} {u : Nat}

theorem pieces?_byte (low : 32 ≤ b.toNat) (quote : b ≠ 34) (slash : b ≠ 92) :
    pieces? (b :: bs) = (pieces? bs).map fun p => (.byte b :: p.1, p.2) := by
  rw [pieces?.eq_def]
  split
  · contradiction
  · next heq =>
    cases heq
    exact absurd rfl quote
  · next heq =>
    cases heq
    exact absurd rfl slash
  · next heq =>
    cases heq
    exact absurd rfl slash
  · next heq =>
    cases heq
    have hlt : ¬b < 32 := fun hlt => Nat.not_lt.2 low (UInt8.lt_iff_toNat_lt.1 hlt)
    rw [if_neg (not_or.2 ⟨hlt, slash⟩)]
    cases pieces? bs <;> rfl

theorem pieces?_escaped (unit : b ≠ 117) (h : escaped? b = some e) :
    pieces? (92 :: b :: bs) = (pieces? bs).map fun p => (.byte e :: p.1, p.2) := by
  rw [pieces?.eq_def]
  split
  · contradiction
  · next heq => cases heq
  · next heq =>
    cases heq
    exact absurd rfl unit
  · next heq =>
    cases heq
    rw [h]
    cases pieces? bs <;> rfl
  · next further heq =>
    cases heq
    exact (further _ _ rfl rfl).elim

theorem pieces?_unit (h : hexUnit? w x y z = some u) :
    pieces? (92 :: 117 :: w :: x :: y :: z :: bs) =
      (pieces? bs).map fun p => (.unit u :: p.1, p.2) := by
  rw [pieces?, h]
  cases pieces? bs <;> rfl

theorem pieces?_bytes (h : ∀ b ∈ xs, 32 ≤ b.toNat ∧ b ≠ 34 ∧ b ≠ 92) :
    pieces? (xs ++ bs) = (pieces? bs).map fun p => (xs.map .byte ++ p.1, p.2) := by
  induction xs with
  | nil => simp
  | cons b xs ih =>
    obtain ⟨⟨low, quote, slash⟩, others⟩ := List.forall_mem_cons.1 h
    rw [List.cons_append, pieces?_byte low quote slash, ih others, Option.map_map]
    rfl

theorem spell?_bytes : spell? (xs.map .byte ++ more) = (spell? more).map (xs ++ ·) := by
  induction xs with
  | nil => simp
  | cons b xs ih =>
    rw [List.map_cons, List.cons_append, spell?, ih, Option.map_map]
    rfl

structure Stands (c : Char) (ps : List Piece) : Prop where
  found : ∀ bs, pieces? (encodeChars (escape c) ++ bs) =
    (pieces? bs).map fun p => (ps ++ p.1, p.2)
  spelt : ∀ more, spell? (ps ++ more) = (spell? more).map (encodeChar c ++ ·)

theorem stands_escaped (hc : encodeChar c = [b]) (hescape : escape c = ['\\', Char.ofNat e.toNat])
    (he : encodeChar (Char.ofNat e.toNat) = [e]) (unit : e ≠ 117) (h : escaped? e = some b) :
    Stands c [.byte b] where
  found bs := by
    rw [hescape, encodeChars_cons, encodeChars_cons, he]
    exact pieces?_escaped unit h
  spelt more := by
    rw [hc, ← spell?_bytes]
    rfl

theorem hexUnit?_hexDigits : ∀ n < 32,
    encodeChars [hexDigit (n / 16), hexDigit n] =
        [UInt8.ofNat (hexDigit (n / 16)).toNat, UInt8.ofNat (hexDigit n).toNat] ∧
      hexUnit? 48 48 (UInt8.ofNat (hexDigit (n / 16)).toNat) (UInt8.ofNat (hexDigit n).toNat) =
        some n := by
  decide

theorem stands_control (h : c.toNat < 32) (hescape : escape c =
    ['\\', 'u', '0', '0', hexDigit (c.toNat / 16), hexDigit c.toNat]) :
    Stands c [.unit c.toNat] where
  found bs := by
    obtain ⟨digits, unit⟩ := hexUnit?_hexDigits c.toNat h
    have written : encodeChars (escape c) =
        92 :: 117 :: 48 :: 48 :: encodeChars [hexDigit (c.toNat / 16), hexDigit c.toNat] :=
      hescape ▸ rfl
    rw [written, digits]
    exact pieces?_unit unit
  spelt more := by
    rw [List.singleton_append, spell?.eq_def]
    simp only [if_pos (.inl (by omega) : c.toNat < 0xD800 ∨ 0xDFFF < c.toNat), Char.ofNat_toNat]

theorem stands_plain (quote : c ≠ '"') (slash : c ≠ '\\') (low : 32 ≤ c.toNat)
    (hescape : escape c = [c]) : Stands c ((encodeChar c).map .byte) where
  found bs := by
    rw [hescape, encodeChars_cons, encodeChars_nil, List.append_nil]
    refine pieces?_bytes fun b hb => ?_
    have differs : ∀ d : Char, d.toNat < 0x80 → c ≠ d → b ≠ UInt8.ofNat d.toNat := by
      rintro d hd hne rfl
      have ascii := UInt8.toNat_ofNat_of_lt' (show d.toNat < 256 by omega)
      by_cases h : c.toNat < 0x80
      · rw [encodeChar_of_lt h, List.mem_singleton] at hb
        have hn := congrArg UInt8.toNat hb
        rw [ascii, UInt8.toNat_ofNat_of_lt' (show _ < 256 by omega)] at hn
        exact hne (Char.ext (UInt32.toNat_inj.1 hn.symm))
      · have := le_of_mem_encodeChar (by omega) hb
        omega
    refine ⟨?_, differs '"' (by decide) quote, differs '\\' (by decide) slash⟩
    by_cases h : c.toNat < 0x80
    · rw [encodeChar_of_lt h, List.mem_singleton] at hb
      rw [hb, UInt8.toNat_ofNat_of_lt' (show _ < 256 by omega)]
      exact low
    · exact Nat.le_trans (by decide) (le_of_mem_encodeChar (by omega) hb)
  spelt _ := spell?_bytes

def lettered : List (UInt8 × UInt8) :=
  [(34, 34), (92, 92), (10, 110), (13, 114), (9, 116), (8, 98), (12, 102)]

theorem lettered_escaped : ∀ x ∈ lettered,
    encodeChar (Char.ofNat x.1.toNat) = [x.1] ∧
      escape (Char.ofNat x.1.toNat) = ['\\', Char.ofNat x.2.toNat] ∧
      encodeChar (Char.ofNat x.2.toNat) = [x.2] ∧ x.2 ≠ 117 ∧ escaped? x.2 = some x.1 := by
  intro x hx
  simp only [lettered, List.mem_cons, List.not_mem_nil, or_false] at hx
  obtain rfl | rfl | rfl | rfl | rfl | rfl | rfl := hx
  all_goals exact ⟨rfl, rfl, rfl, by decide, rfl⟩

theorem escape_of_not_lettered (h : ∀ x ∈ lettered, c ≠ Char.ofNat x.1.toNat) :
    escape c = if c.toNat < 32 then
      ['\\', 'u', '0', '0', hexDigit (c.toNat / 16), hexDigit c.toNat] else [c] := by
  have toNat_ne : ∀ n, c ≠ Char.ofNat n → c.toNat ≠ n := by
    rintro n hne rfl
    exact hne (Char.ofNat_toNat c).symm
  have quote : c ≠ '"' := h (34, 34) (by decide)
  have slash : c ≠ '\\' := h (92, 92) (by decide)
  have feed : c ≠ '\n' := h (10, 110) (by decide)
  have back : c ≠ '\r' := h (13, 114) (by decide)
  have tab : c ≠ '\t' := h (9, 116) (by decide)
  have erase : c.toNat ≠ 8 := toNat_ne 8 (h (8, 98) (by decide))
  have page : c.toNat ≠ 12 := toNat_ne 12 (h (12, 102) (by decide))
  rw [escape, if_neg quote, if_neg slash, if_neg feed, if_neg back, if_neg tab, if_neg erase,
    if_neg page]

theorem exists_stands (c : Char) : ∃ ps, Stands c ps := by
  by_cases letter : ∃ x ∈ lettered, c = Char.ofNat x.1.toNat
  · obtain ⟨x, hx, rfl⟩ := letter
    obtain ⟨hc, hescape, he, unit, h⟩ := lettered_escaped x hx
    exact ⟨_, stands_escaped hc hescape he unit h⟩
  · have plain : ∀ x ∈ lettered, c ≠ Char.ofNat x.1.toNat := by
      rintro x hx rfl
      exact letter ⟨x, hx, rfl⟩
    have hescape := escape_of_not_lettered plain
    by_cases control : c.toNat < 32
    · exact ⟨_, stands_control control (hescape.trans (if_pos control))⟩
    · exact ⟨_, stands_plain (plain (34, 34) (by decide)) (plain (92, 92) (by decide))
        (Nat.not_lt.1 control) (hescape.trans (if_neg control))⟩

theorem exists_pieces (cs : List Char) (bs : List UInt8) :
    ∃ ps, pieces? (encodeChars (cs.flatMap escape) ++ 34 :: bs) = some (ps, bs) ∧
      spell? ps = some (encodeChars cs) := by
  induction cs with
  | nil => exact ⟨[], rfl, rfl⟩
  | cons c cs ih =>
    obtain ⟨more, found, spelt⟩ := ih
    obtain ⟨ps, hc⟩ := exists_stands c
    refine ⟨ps ++ more, ?_, ?_⟩
    · rw [List.flatMap_cons, encodeChars_append, List.append_assoc, hc.found, found,
        Option.map_some]
    · rw [hc.spelt, spelt, Option.map_some, encodeChars_cons]

theorem pieces?_quoted (s : String) (bs : List UInt8) :
    ∃ ps, pieces? (encodeChars (s.toList.flatMap escape) ++ 34 :: bs) = some (ps, bs) ∧
      stringOf ps = some s := by
  obtain ⟨ps, found, spelt⟩ := exists_pieces s.toList bs
  exact ⟨ps, found, by rw [stringOf, spelt, Option.bind_eq_bind, Option.bind_some, ← encode,
    decode?_encode]⟩

end Doc

end AccessWindow.Json
