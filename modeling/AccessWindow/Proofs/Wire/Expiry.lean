import AccessWindow.Proofs.Wire.Timestamp

namespace AccessWindow

def Instant.year (t : Instant) : Int := (Time.Date.ofDayNumber (t.seconds / 86400)).year

namespace Time.Rfc3339

open Scan

variable {t : Instant} {rest : List Char}

theorem offsetText_toList (t : Instant) :
    (offsetText t).toList = (secondsText t).toList ++
      ((fractionText t.nanos).toList ++ ['+', '0', '0', ':', '0', '0']) := by
  simp [offsetText]

theorem read_strictYear {year : Int} (low : 0 ≤ year) (high : year ≤ 9999) (ends : Ends rest) :
    Scan.field 0 9999 4 4 ((yearText year).toList ++ rest) = .ok (year.toNat, rest) := by
  rw [yearText, if_pos ⟨low, high⟩]
  exact read_field (by decide) (by decide) (by decide) (by omega) (Nat.zero_le _) (by omega) ends

theorem read_signedYear {sign : Char} (h : sign = '-' ∨ sign = '+') (cs : List Char) :
    ∃ complaint, Scan.field 0 9999 4 4 (sign :: cs) = .error complaint := by
  have digits : ((sign :: cs).take 4).takeWhile isDigit = [] := by
    cases h with
    | inl h => exact h ▸ rfl
    | inr h => exact h ▸ rfl
  refine ⟨if byteLength (sign :: cs) < 4 then .tooShort else .misplaced, ?_⟩
  have number : Scan.number 4 (some 4) (sign :: cs) =
      .error (if byteLength (sign :: cs) < 4 then .tooShort else .misplaced) := by
    simp only [Scan.number, Option.elim_some, digits]
    split <;> rfl
  change (Scan.number 4 (some 4) (sign :: cs)).bind _ = _
  rw [number]
  rfl

theorem read_strictParts (low : 0 ≤ (Parts.ofInstant t).year)
    (high : (Parts.ofInstant t).year ≤ 9999) :
    strictParts (offsetText t).toList = .ok (Parts.ofInstant t, []) := by
  obtain ⟨month, day, hour, minute, second⟩ := regular_ofInstant t
  have year : (((Parts.ofInstant t).year.toNat : Nat) : Int) = (Parts.ofInstant t).year :=
    Int.toNat_of_nonneg low
  have field {n low high : Nat} {rest : List Char} (hn : n < 100) (hlow : low ≤ n)
      (hhigh : n ≤ high) (ends : Ends rest) :
      Scan.field low high 2 2 ((padded 2 n).toList ++ rest) = .ok (n, rest) :=
    read_field (by decide) (by decide) (by decide) hn hlow hhigh ends
  have ended : Ends ((fractionText t.nanos).toList ++ ['+', '0', '0', ':', '0', '0']) :=
    ends_fractionText (ends_cons rfl) _
  have offset : Scan.offset (do let _ ← Scan.char [':']) ['+', '0', '0', ':', '0', '0'] =
      .ok (0, []) := rfl
  rw [offsetText_toList, secondsText_toList, strictParts,
    bind_read (read_strictYear low high (ends_cons rfl)),
    bind_read (rfl : Scan.char ['-'] _ = .ok (_, _)),
    bind_read (field (by omega) month.1 month.2 (ends_cons rfl)),
    bind_read (rfl : Scan.char ['-'] _ = .ok (_, _)),
    bind_read (field (by omega) day.1 day.2 (ends_cons rfl)),
    bind_read (rfl : Scan.char ['t', 'T', ' '] _ = .ok (_, _)),
    bind_read (field (by omega) (Nat.zero_le _) hour (ends_cons rfl)),
    bind_read (rfl : Scan.char [':'] _ = .ok (_, _)),
    bind_read (field (by omega) (Nat.zero_le _) minute (ends_cons rfl)),
    bind_read (rfl : Scan.char [':'] _ = .ok (_, _)),
    bind_read (field (by omega) (Nat.zero_le _) second ended),
    bind_read (read_fraction (ends_cons rfl) (by decide)), bind_read offset, year]
  rfl

theorem read_strictParts_signed (h : ¬(0 ≤ t.year ∧ t.year ≤ 9999)) :
    ∃ complaint, strictParts (offsetText t).toList = .error complaint := by
  obtain ⟨sign, cs, hsign, htext⟩ : ∃ sign cs, (sign = '-' ∨ sign = '+') ∧
      (offsetText t).toList = sign :: cs := by
    have text := offsetText_toList t
    rw [secondsText_toList] at text
    change _ = (yearText t.year).toList ++ _ at text
    rw [yearText, if_neg h, String.toList_append] at text
    by_cases negative : t.year < 0
    · rw [if_pos negative] at text
      exact ⟨'-', _, .inl rfl, text⟩
    · rw [if_neg negative] at text
      exact ⟨'+', _, .inr rfl, text⟩
  obtain ⟨complaint, failed⟩ := read_signedYear hsign cs
  refine ⟨complaint, ?_⟩
  rw [htext]
  change (Scan.field 0 9999 4 4 (sign :: cs)).bind _ = _
  rw [failed]
  rfl

theorem readStrict?_offsetText (t : Instant) :
    readStrict? (offsetText t) = if 0 ≤ t.year ∧ t.year ≤ 9999 then some t else none := by
  rw [readStrict?]
  split_ifs with h
  · have parts : strictParts.run (offsetText t).toList = .ok (Parts.ofInstant t, []) :=
      read_strictParts h.1 h.2
    have near : (Parts.ofInstant t).offset.natAbs ≤ 86340 := by
      change (0 : Int).natAbs ≤ 86340
      decide
    simp only [parts, if_pos near, instant_ofInstant]
    rfl
  · obtain ⟨complaint, failed⟩ := read_strictParts_signed h
    have parts : strictParts.run (offsetText t).toList = .error complaint := failed
    simp only [parts]

end Time.Rfc3339

end AccessWindow
