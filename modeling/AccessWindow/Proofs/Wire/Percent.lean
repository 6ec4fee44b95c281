import AccessWindow.Proofs.Wire.Utf8
import AccessWindow.Text.Percent

namespace AccessWindow.Text.Percent

open Utf8

variable {keep : Char → Bool} {a b c : Char} {cs rest : List Char} {x : UInt8} {bs : List UInt8}

def escaped? : List Char → Option UInt8
  | a :: b :: _ => byte? a b
  | _ => none

theorem decode_plain (h : c = '%' → escaped? cs = none) :
    decode (c :: cs) = encodeChar c ++ decode cs := by
  by_cases hc : c = '%'
  · subst hc
    replace h := h rfl
    match cs with
    | [] => rfl
    | [_] => rfl
    | a :: b :: rest =>
      rw [escaped?] at h
      rw [decode, h]
      rfl
  · rw [decode]
    · exact fun sign _ => hc sign
    · exact fun _ sign _ => hc sign
    · exact fun _ _ _ sign _ => hc sign

theorem decode_escaped (h : byte? a b = some x) :
    decode ('%' :: a :: b :: cs) = x :: decode cs := by
  rw [decode, h]

@[elab_as_elim]
theorem reading {motive : List Char → Prop} (cs : List Char) (nil : motive [])
    (plain : ∀ c cs, (c = '%' → escaped? cs = none) → motive cs → motive (c :: cs))
    (escaped : ∀ a b x cs, byte? a b = some x → motive cs → motive ('%' :: a :: b :: cs)) :
    motive cs := by
  fun_induction decode cs with
  | case1 => exact nil
  | case2 => exact plain '%' [] (fun _ => rfl) nil
  | case3 a ih => exact plain '%' [a] (fun _ => rfl) ih
  | case4 a b rest x h ih => exact escaped a b x rest h ih
  | case5 a b rest h ih => exact plain '%' (a :: b :: rest) (fun _ => h) ih
  | case6 c rest _ _ further ih =>
    refine plain c rest (fun hc => ?_) ih
    match rest with
    | [] => rfl
    | [_] => rfl
    | a :: b :: rest => exact (further a b rest hc rfl).elim

theorem digitValue?_digit (n : Nat) : digitValue? (digit n) = some (n % 16) := by
  have all : ∀ k < 16, digitValue? ("0123456789ABCDEF".toList.getD k '0') = some k := by decide
  exact all _ (Nat.mod_lt _ (by decide))

theorem byte?_digits (x : UInt8) : byte? (digit (x.toNat / 16)) (digit x.toNat) = some x := by
  have small : x.toNat < 256 := x.toNat_lt
  rw [byte?, digitValue?_digit, digitValue?_digit]
  refine congrArg some ?_
  rw [show x.toNat / 16 % 16 * 16 + x.toNat % 16 = x.toNat by omega, UInt8.ofNat_toNat]

theorem decode_escapeByte (x : UInt8) (rest : List Char) :
    decode (escapeByte x ++ rest) = x :: decode rest :=
  decode_escaped (byte?_digits x)

theorem decode_escapeBytes : decode (bs.flatMap escapeByte ++ rest) = bs ++ decode rest := by
  induction bs with
  | nil => rfl
  | cons x bs ih =>
    rw [List.flatMap_cons, List.append_assoc, decode_escapeByte, ih, List.cons_append]

theorem encode_cons : encode keep (c :: cs) = escape keep c ++ encode keep cs := rfl

theorem decode_encode (h : keep '%' = false) : decode (encode keep cs) = encodeChars cs := by
  induction cs with
  | nil => rfl
  | cons c cs ih =>
    rw [encode_cons, escape, encodeChars_cons, ← ih]
    split
    · next kept =>
      refine decode_plain fun hc => ?_
      rw [hc, h] at kept
      cases kept
    · exact decode_escapeBytes

theorem mem_encode (h : c ∈ encode keep cs) :
    c ∈ cs ∧ keep c ∨ c ∈ '%' :: "0123456789ABCDEF".toList := by
  have digits (n : Nat) : digit n ∈ "0123456789ABCDEF".toList := by
    have all : ∀ k < 16, "0123456789ABCDEF".toList.getD k '0' ∈ "0123456789ABCDEF".toList := by
      decide
    exact all _ (Nat.mod_lt _ (by decide))
  obtain ⟨d, hd, hc⟩ := List.mem_flatMap.1 h
  rw [escape] at hc
  split at hc
  · next kept =>
    obtain rfl := List.mem_singleton.1 hc
    exact .inl ⟨hd, kept⟩
  · obtain ⟨x, -, hx⟩ := List.mem_flatMap.1 hc
    right
    rw [escapeByte] at hx
    rcases hx with _ | ⟨_, _ | ⟨_, _ | ⟨_, ⟨⟩⟩⟩⟩
    · exact List.mem_cons_self
    · exact List.mem_cons_of_mem _ (digits _)
    · exact List.mem_cons_of_mem _ (digits _)

theorem lt_of_digitValue? (h : (digitValue? c).isSome) : c.toNat < 128 := by
  rw [digitValue?] at h
  split at h
  · next range => exact Nat.lt_of_le_of_lt range.2 (by decide)
  split at h
  · next range => exact Nat.lt_of_le_of_lt range.2 (by decide)
  split at h
  · next range => exact Nat.lt_of_le_of_lt range.2 (by decide)
  · cases h

theorem isSome_of_byte? (h : byte? a b = some x) :
    (digitValue? a).isSome ∧ (digitValue? b).isSome := by
  rw [byte?] at h
  cases ha : digitValue? a with
  | none => simp [ha] at h
  | some m =>
    cases hb : digitValue? b with
    | none => simp [ha, hb] at h
    | some n => exact ⟨rfl, rfl⟩

theorem escaped?_encode (h : escaped? cs = none) : escaped? (encode keep cs) = none := by
  have sign (b : Char) : byte? '%' b = none := rfl
  have sign' (a : Char) : byte? a '%' = none := by
    cases ha : digitValue? a <;> simp [byte?, ha, show digitValue? '%' = none by decide]
  -- a character that is not kept begins with a percent sign
  have begins (c : Char) : keep c ∨ ∃ tail, escape keep c = '%' :: tail := by
    by_cases kept : keep c
    · exact .inl kept
    · refine .inr ?_
      rw [escape, if_neg kept, encodeChar]
      split
      · exact ⟨_, rfl⟩
      split
      · exact ⟨_, rfl⟩
      split <;> exact ⟨_, rfl⟩
  have escaped?_sign (tail : List Char) : escaped? ('%' :: tail) = none := by
    cases tail with
    | nil => rfl
    | cons b tail => exact sign b
  cases cs with
  | nil => rfl
  | cons a cs =>
    rw [encode_cons]
    obtain kept | ⟨tail, htail⟩ := begins a
    · rw [escape, if_pos kept, List.singleton_append]
      cases cs with
      | nil => rfl
      | cons b cs =>
        rw [encode_cons]
        obtain kept | ⟨tail, htail⟩ := begins b
        · rw [escape, if_pos kept]
          exact h
        · rw [htail]
          exact sign' a
    · rw [htail]
      exact escaped?_sign _

theorem decode_encode_of_keep (sign : keep '%')
    (digits : ∀ c, (digitValue? c).isSome → keep c) : decode (encode keep cs) = decode cs := by
  induction cs using reading with
  | nil => rfl
  | plain c cs h ih =>
    rw [decode_plain h, ← ih, encode_cons, escape]
    split
    · exact decode_plain fun hc => escaped?_encode (h hc)
    · exact decode_escapeBytes
  | escaped a b x cs h ih =>
    obtain ⟨ha, hb⟩ := isSome_of_byte? h
    rw [decode_escaped h, ← ih]
    simp only [encode_cons, escape, if_pos sign, if_pos (digits a ha), if_pos (digits b hb)]
    exact decode_escaped h

def Unescaped (cs : List Char) : Prop := ∀ a b, ['%', a, b] <:+: cs → byte? a b = none

theorem unescaped_cons :
    Unescaped (c :: cs) ↔ (c = '%' → escaped? cs = none) ∧ Unescaped cs := by
  simp only [Unescaped, List.infix_cons_iff, or_imp, forall_and]
  refine and_congr_left fun _ => ?_
  constructor
  · rintro h rfl
    match cs with
    | [] => rfl
    | [_] => rfl
    | a :: b :: rest => exact h a b ⟨rest, rfl⟩
  · rintro h a b ⟨rest, hrest⟩
    cases hrest
    exact h rfl

theorem length_decode_le (cs : List Char) : (decode cs).length ≤ (encodeChars cs).length := by
  induction cs using reading with
  | nil => exact Nat.le_refl _
  | plain c cs h ih =>
    rw [decode_plain h, encodeChars_cons, List.length_append, List.length_append]
    exact Nat.add_le_add_left ih _
  | escaped a b x cs h ih =>
    have grows : 3 ≤ (encodeChars ['%', a, b]).length := @length_le_encodeChars ['%', a, b]
    rw [show '%' :: a :: b :: cs = ['%', a, b] ++ cs from rfl, encodeChars_append,
      List.length_append, List.cons_append, List.cons_append, List.cons_append, List.nil_append,
      decode_escaped h, List.length_cons]
    omega

theorem decode_eq_iff : decode cs = encodeChars cs ↔ Unescaped cs := by
  induction cs using reading with
  | nil => simp [decode, Unescaped]
  | plain c cs h ih =>
    rw [decode_plain h, encodeChars_cons, List.append_cancel_left_eq, ih, unescaped_cons,
      and_iff_right h]
  | escaped a b x cs h ih =>
    refine iff_of_false (fun same => ?_) fun none => ?_
    · have fewer := congrArg List.length same
      have grows : 3 ≤ (encodeChars ['%', a, b]).length := @length_le_encodeChars ['%', a, b]
      have le := length_decode_le cs
      rw [decode_escaped h, show '%' :: a :: b :: cs = ['%', a, b] ++ cs from rfl,
        encodeChars_append, List.length_append, List.length_cons] at fewer
      omega
    · cases h.symm.trans (none a b ⟨[], cs, rfl⟩)

end AccessWindow.Text.Percent
