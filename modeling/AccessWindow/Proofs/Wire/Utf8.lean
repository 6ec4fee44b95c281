import AccessWindow.Text.Utf8

namespace AccessWindow.Text.Utf8

variable {n k low high code : Nat} {c : Char} {s : String} {cs : List Char} {b : UInt8}
  {bs rest : List UInt8}

theorem toNat_tail : (tail n).toNat = 0x80 + n % 64 :=
  UInt8.toNat_ofNat_of_lt' (show _ < 256 by omega)

theorem follow_tail (hlow : low ≤ 0x80 + n % 64) (hhigh : 0x80 + n % 64 ≤ high) :
    follow (k + 1) low high code (tail n :: bs) =
      follow k 0x80 0xBF (code * 64 + n % 64) bs := by
  rw [follow, toNat_tail, if_pos ⟨hlow, hhigh⟩, Nat.add_sub_cancel_left]

theorem follow_further :
    follow (k + 1) 0x80 0xBF code (tail n :: bs) =
      follow k 0x80 0xBF (code * 64 + n % 64) bs :=
  follow_tail (by omega) (by omega)

theorem scan_cons (lead : Lead) (hlead : Lead.of? b.toNat = some lead)
    (hfollow : follow lead.following lead.low lead.high lead.share rest = (some c.toNat, bs)) :
    scan (b :: rest) = some c :: scan bs := by
  rw [scan, hlead]
  simp only [hfollow, Option.map_some, Char.ofNat_toNat]

theorem lead_one (h : n < 0x80) : Lead.of? n = some ⟨n, 0, 0x80, 0xBF⟩ := if_pos h

theorem lead_two (h : 0x80 ≤ n) (h' : n < 0x800) :
    Lead.of? (0xC0 + n / 64) = some ⟨n / 64, 1, 0x80, 0xBF⟩ := by
  rw [Lead.of?, if_neg (by omega), if_neg (by omega), if_pos (by omega), Nat.add_sub_cancel_left]

theorem lead_three (h : 0x800 ≤ n) (h' : n < 0x10000) (hs : n < 0xD800 ∨ 0xDFFF < n) :
    ∃ low high, Lead.of? (0xE0 + n / 4096) = some ⟨n / 4096, 2, low, high⟩ ∧
      low ≤ 0x80 + n / 64 % 64 ∧ 0x80 + n / 64 % 64 ≤ high := by
  rw [Lead.of?, if_neg (by omega), if_neg (by omega), if_neg (by omega)]
  by_cases hlow : n / 4096 = 0
  · exact ⟨0xA0, 0xBF, by rw [if_pos (by omega), hlow], by omega, by omega⟩
  rw [if_neg (by omega)]
  by_cases hhigh : n / 4096 = 0xD
  · exact ⟨0x80, 0x9F, by rw [if_pos (by omega), hhigh], by omega, by omega⟩
  refine ⟨0x80, 0xBF, ?_, by omega, by omega⟩
  rw [if_neg (by omega), if_pos (by omega), Nat.add_sub_cancel_left]

theorem lead_four (h : 0x10000 ≤ n) (h' : n < 0x110000) :
    ∃ low high, Lead.of? (0xF0 + n / 262144) = some ⟨n / 262144, 3, low, high⟩ ∧
      low ≤ 0x80 + n / 4096 % 64 ∧ 0x80 + n / 4096 % 64 ≤ high := by
  rw [Lead.of?, if_neg (by omega), if_neg (by omega), if_neg (by omega), if_neg (by omega),
    if_neg (by omega), if_neg (by omega)]
  by_cases hlow : n / 262144 = 0
  · exact ⟨0x90, 0xBF, by rw [if_pos (by omega), hlow], by omega, by omega⟩
  rw [if_neg (by omega)]
  by_cases hhigh : n / 262144 = 4
  · exact ⟨0x80, 0x8F, by rw [if_neg (by omega), if_pos (by omega), hhigh], by omega, by omega⟩
  refine ⟨0x80, 0xBF, ?_, by omega, by omega⟩
  rw [if_pos (by omega), Nat.add_sub_cancel_left]

theorem scan_encodeChar (c : Char) (bs : List UInt8) :
    scan (encodeChar c ++ bs) = some c :: scan bs := by
  have valid : c.toNat < 0xD800 ∨ 0xDFFF < c.toNat ∧ c.toNat < 0x110000 := c.valid
  rw [encodeChar]
  split
  · refine scan_cons ⟨c.toNat, 0, 0x80, 0xBF⟩ ?_ rfl
    rw [UInt8.toNat_ofNat_of_lt' (show _ < 256 by omega), lead_one ‹_›]
  split
  · refine scan_cons ⟨c.toNat / 64, 1, 0x80, 0xBF⟩ ?_ ?_
    · rw [UInt8.toNat_ofNat_of_lt' (show _ < 256 by omega), lead_two (by omega) ‹_›]
    · refine follow_further.trans ?_
      rw [follow, show c.toNat / 64 * 64 + c.toNat % 64 = c.toNat by omega]
      rfl
  split
  · obtain ⟨low, high, hlead, hlow, hhigh⟩ := lead_three (n := c.toNat) (by omega) ‹_› (by omega)
    refine scan_cons ⟨c.toNat / 4096, 2, low, high⟩ ?_ ?_
    · rw [UInt8.toNat_ofNat_of_lt' (show _ < 256 by omega), hlead]
    · refine (follow_tail hlow hhigh).trans (follow_further.trans ?_)
      rw [follow, show (c.toNat / 4096 * 64 + c.toNat / 64 % 64) * 64 + c.toNat % 64 = c.toNat by
        omega]
      rfl
  · obtain ⟨low, high, hlead, hlow, hhigh⟩ := lead_four (n := c.toNat) (by omega) (by omega)
    refine scan_cons ⟨c.toNat / 262144, 3, low, high⟩ ?_ ?_
    · rw [UInt8.toNat_ofNat_of_lt' (show _ < 256 by omega), hlead]
    · refine (follow_tail hlow hhigh).trans (follow_further.trans (follow_further.trans ?_))
      rw [follow, show ((c.toNat / 262144 * 64 + c.toNat / 4096 % 64) * 64 + c.toNat / 64 % 64) * 64
        + c.toNat % 64 = c.toNat by omega]
      rfl

@[simp] theorem encodeChars_nil : encodeChars [] = [] := rfl

@[simp] theorem encodeChars_cons : encodeChars (c :: cs) = encodeChar c ++ encodeChars cs := rfl

@[simp] theorem encodeChars_append {ds : List Char} :
    encodeChars (cs ++ ds) = encodeChars cs ++ encodeChars ds := List.flatMap_append

theorem scan_encodeChars : scan (encodeChars cs) = cs.map some := by
  induction cs with
  | nil => rw [encodeChars_nil, scan, List.map_nil]
  | cons c cs ih => rw [encodeChars_cons, scan_encodeChar, ih, List.map_cons]

theorem gather_map_some : gather (cs.map some) = some cs := by
  induction cs with
  | nil => rfl
  | cons c cs ih => rw [List.map_cons, gather, ih, Option.map_some]

theorem decode?_encodeChars : decode? (encodeChars cs) = some (String.ofList cs) := by
  rw [decode?, decodeChars?, scan_encodeChars, gather_map_some, Option.map_some]

theorem decode?_encode : decode? (encode s) = some s := by
  rw [encode, decode?_encodeChars, String.ofList_toList]

theorem encodeChar_of_lt (h : c.toNat < 0x80) : encodeChar c = [UInt8.ofNat c.toNat] := if_pos h

theorem le_of_mem_encodeChar (h : 0x80 ≤ c.toNat) (hb : b ∈ encodeChar c) : 0x80 ≤ b.toNat := by
  have valid : c.toNat < 0x110000 := by
    have : c.toNat < 0xD800 ∨ 0xDFFF < c.toNat ∧ c.toNat < 0x110000 := c.valid
    omega
  have tails : ∀ n, 0x80 ≤ (tail n).toNat := fun n => toNat_tail ▸ Nat.le_add_right ..
  rw [encodeChar, if_neg (by omega)] at hb
  split at hb
  · rcases hb with _ | ⟨_, _ | ⟨_, ⟨⟩⟩⟩
    · rw [UInt8.toNat_ofNat_of_lt' (show _ < 256 by omega)]
      omega
    · exact tails _
  split at hb
  · rcases hb with _ | ⟨_, _ | ⟨_, _ | ⟨_, ⟨⟩⟩⟩⟩
    · rw [UInt8.toNat_ofNat_of_lt' (show _ < 256 by omega)]
      omega
    · exact tails _
    · exact tails _
  · rcases hb with _ | ⟨_, _ | ⟨_, _ | ⟨_, _ | ⟨_, ⟨⟩⟩⟩⟩⟩
    · rw [UInt8.toNat_ofNat_of_lt' (show _ < 256 by omega)]
      omega
    · exact tails _
    · exact tails _
    · exact tails _

theorem length_le_encodeChars : cs.length ≤ (encodeChars cs).length := by
  induction cs with
  | nil => exact Nat.le_refl _
  | cons c cs ih =>
    have : 0 < (encodeChar c).length := by
      rw [encodeChar]
      split
      · exact Nat.succ_pos _
      split
      · exact Nat.succ_pos _
      split <;> exact Nat.succ_pos _
    rw [encodeChars_cons, List.length_append, List.length_cons]
    omega

end AccessWindow.Text.Utf8
