import AccessWindow.Text.Blank

namespace AccessWindow.Text

variable {c : Char} {cs : List Char} {s word : String}

def Firm (cs : List Char) : Prop := ∀ c, cs.head? = some c → isBlank c = false

theorem firm_cons (h : isBlank c = false) : Firm (c :: cs) := by
  rintro _ ⟨⟩
  exact h

theorem Firm.dropWhile (h : Firm cs) : cs.dropWhile isBlank = cs := by
  cases cs with
  | nil => rfl
  | cons c cs => rw [List.dropWhile_cons_of_neg (by simp [h c rfl])]

theorem firm_dropWhile (cs : List Char) : Firm (cs.dropWhile isBlank) := by
  induction cs with
  | nil => nofun
  | cons c cs ih =>
    cases h : isBlank c with
    | true => rwa [List.dropWhile_cons_of_pos h]
    | false =>
      rw [List.dropWhile_cons_of_neg (by simp [h])]
      exact firm_cons h

def Trimmed (cs : List Char) : Prop := Firm cs ∧ Firm cs.reverse

theorem Trimmed.trimChars (h : Trimmed cs) : trimChars cs = cs := by
  rw [Text.trimChars, h.1.dropWhile, h.2.dropWhile, List.reverse_reverse]

theorem trimmed_trimChars (cs : List Char) : Trimmed (trimChars cs) := by
  refine ⟨?_, ?_⟩
  · -- what is dropped at the end leaves the start as it is
    obtain ⟨dropped, hsplit⟩ :=
      List.dropWhile_suffix isBlank (l := (cs.dropWhile isBlank).reverse)
    have start := congrArg List.reverse hsplit
    rw [List.reverse_append, List.reverse_reverse] at start
    intro c hc
    rw [trimChars] at hc
    refine firm_dropWhile cs c ?_
    rw [← start, List.head?_append, hc, Option.some_or]
  · rw [trimChars, List.reverse_reverse]
    exact firm_dropWhile _

theorem trimChars_eq_self : trimChars cs = cs ↔ Trimmed cs :=
  ⟨fun h => h ▸ trimmed_trimChars cs, Trimmed.trimChars⟩

theorem trim_eq_self : trim s = s ↔ Trimmed s.toList := by
  rw [trim, ← trimChars_eq_self]
  constructor
  · intro h
    rw [← String.toList_ofList (l := trimChars s.toList), h]
  · intro h
    rw [h, String.ofList_toList]

theorem trim_trim (s : String) : trim (trim s) = trim s := by
  rw [trim_eq_self, trim, String.toList_ofList]
  exact trimmed_trimChars _

theorem isBlank_of_letter (low : 65 ≤ c.toNat) (high : c.toNat ≤ 122) : isBlank c = false := by
  simp only [isBlank, Bool.or_eq_false_iff, Bool.and_eq_false_iff, decide_eq_false_iff_not]
  omega

theorem isBlank_toLower (c : Char) : isBlank c.toLower = isBlank c := by
  by_cases h : 'A'.val ≤ c.val ∧ c.val ≤ 'Z'.val
  · have low : 65 ≤ c.toNat := UInt32.le_iff_toNat_le.1 h.1
    have high : c.toNat ≤ 90 := UInt32.le_iff_toNat_le.1 h.2
    have lower : c.toLower.toNat = c.toNat + 32 :=
      calc
        c.toLower.toNat = (c.val + 32).toNat := congrArg Char.toNat (dif_pos h)
        _ = (c.toNat + 32) % 2 ^ 32 := UInt32.toNat_add c.val 32
        _ = c.toNat + 32 := Nat.mod_eq_of_lt (by omega)
    rw [isBlank_of_letter low (by omega), isBlank_of_letter (by omega) (by omega)]
  · exact congrArg isBlank (dif_neg h)

theorem firm_map_toLower : Firm (cs.map Char.toLower) ↔ Firm cs := by
  cases cs with
  | nil => simp [Firm]
  | cons c cs => simp [Firm, isBlank_toLower]

theorem trimmed_map_toLower : Trimmed (cs.map Char.toLower) ↔ Trimmed cs := by
  rw [Trimmed, Trimmed, ← List.map_reverse, firm_map_toLower, firm_map_toLower]

theorem trim_eq_self_of_asciiLower (h : asciiLower s = word) (hw : trim word = word) :
    trim s = s := by
  rw [trim_eq_self, ← trimmed_map_toLower]
  rwa [← h, trim_eq_self, asciiLower, String.toList_ofList] at hw

theorem asciiLower_eq_iff (hw : trim word = word) :
    asciiLower s = word ↔ asciiLower (trim s) = word ∧ trim s = s := by
  constructor
  · intro h
    have bare := trim_eq_self_of_asciiLower h hw
    exact ⟨bare.symm ▸ h, bare⟩
  · rintro ⟨h, bare⟩
    rwa [bare] at h

end AccessWindow.Text
