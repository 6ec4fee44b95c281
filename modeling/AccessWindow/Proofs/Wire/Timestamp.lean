import AccessWindow.Proofs.Instant
import AccessWindow.Proofs.Wire.Calendar
import AccessWindow.Proofs.Wire.Numeral
import AccessWindow.Proofs.Wire.Trim

namespace AccessWindow.Time.Rfc3339

open Scan

variable {α β : Type} {a : α} {low high n width : Nat} {c : Char} {cs ds rest : List Char}

theorem bind_read {p : Scan α} {f : α → Scan β} (h : p cs = .ok (a, rest)) :
    (p >>= f) cs = f a rest := by
  change (p cs >>= fun x => f x.1 x.2) = _
  rw [h]
  rfl

theorem read_blanks (h : Text.Firm cs) : Scan.blanks cs = .ok ((), cs) :=
  congrArg (fun rest => Except.ok ((), rest)) h.dropWhile

theorem isBlank_of_isDigit (h : isDigit c) : Text.isBlank c = false := by
  simp only [isDigit, Bool.and_eq_true, decide_eq_true_eq] at h
  have low : 48 ≤ c.toNat := h.1
  have high : c.toNat ≤ 57 := h.2
  simp only [Text.isBlank, Bool.or_eq_false_iff, Bool.and_eq_false_iff, decide_eq_false_iff_not]
  omega

theorem padded_cons (pos : 0 < width) (n : Nat) (rest : List Char) :
    ∃ c cs, (padded width n).toList ++ rest = c :: cs ∧ isDigit c := by
  cases hp : (padded width n).toList with
  | nil =>
    have wide : width ≤ (padded width n).toList.length := le_length_padded
    rw [hp] at wide
    exact absurd wide (Nat.not_le.2 pos)
  | cons c cs =>
    exact ⟨c, cs ++ rest, rfl, (padded_spells width n).digits c (hp ▸ List.mem_cons_self)⟩

theorem firm_padded (pos : 0 < width) : Text.Firm ((padded width n).toList ++ rest) := by
  obtain ⟨c, cs, htext, hc⟩ := padded_cons pos n rest
  exact htext ▸ Text.firm_cons (isBlank_of_isDigit hc)

theorem read_field {least : Nat} (pos : 0 < width) (short : width ≤ 4) (few : least ≤ width)
    (hn : n < 10 ^ width) (hlow : low ≤ n) (hhigh : n ≤ high) (ends : Ends rest) :
    Scan.field low high least width ((padded width n).toList ++ rest) = .ok (n, rest) := by
  have length : (padded width n).toList.length = width := length_padded hn pos
  have small : n < 10 ^ 4 := Nat.lt_of_lt_of_le hn (Nat.pow_le_pow_right (by decide) short)
  have number : Scan.number least (some width) ((padded width n).toList ++ rest) = .ok (n, rest) :=
    (padded_spells width n).number (by omega) (by omega) (fun m hm => by cases hm; omega) ends
  rw [Scan.field, bind_read number, if_pos ⟨hlow, hhigh⟩]
  rfl

theorem read_looseField (hn : n < 100) (hlow : low ≤ n) (hhigh : n ≤ high) (ends : Ends rest) :
    looseField low high 2 ((padded 2 n).toList ++ rest) = .ok (n, rest) := by
  rw [looseField, bind_read (read_blanks (firm_padded (by decide)))]
  exact read_field (by decide) (by decide) (by decide) hn hlow hhigh ends

theorem read_looseChar (firm : Text.isBlank c = false) :
    looseChar c (c :: rest) = .ok ((), rest) := by
  have char : Scan.char [c] (c :: rest) = .ok (c, rest) := by simp [Scan.char]
  rw [looseChar, bind_read (read_blanks (Text.firm_cons firm)), bind_read char]
  rfl

theorem read_looseYear_signed {sign : Char} (hs : sign = '-' ∨ sign = '+')
    (hn : n ≤ 2147483647) (ends : Ends rest) :
    looseYear (sign :: ((padded 4 n).toList ++ rest)) =
      .ok (if sign = '-' then -(n : Int) else n, rest) := by
  have firm : Text.Firm (sign :: ((padded 4 n).toList ++ rest)) :=
    Text.firm_cons (by cases hs <;> subst sign <;> decide)
  have number : Scan.number 1 none ((padded 4 n).toList ++ rest) = .ok (n, rest) :=
    (padded_spells 4 n).number (by omega) (Nat.le_trans (by decide) le_length_padded) nofun ends
  have dropped : (modify (List.drop 1) : Scan Unit) (sign :: ((padded 4 n).toList ++ rest)) =
      .ok ((), (padded 4 n).toList ++ rest) := rfl
  rw [looseYear, bind_read (read_blanks firm),
    bind_read (rfl : (get : Scan (List Char)) _ = .ok (_, _))]
  simp only [List.head?_cons, Option.some.injEq, hs, if_true]
  rw [bind_read dropped, bind_read number, pure_bind, if_pos (by split <;> omega)]
  rfl

theorem read_looseYear_plain (hn : n ≤ 9999) (ends : Ends rest) :
    looseYear ((padded 4 n).toList ++ rest) = .ok ((n : Int), rest) := by
  have length : (padded 4 n).toList.length = 4 := length_padded (by omega) (by decide)
  have number : Scan.number 1 (some 4) ((padded 4 n).toList ++ rest) = .ok (n, rest) :=
    (padded_spells 4 n).number (by omega) (by omega) (fun m hm => by cases hm; omega) ends
  obtain ⟨c, cs, htext, hc⟩ := padded_cons (by decide : 0 < 4) n rest
  have unsigned : ¬(c = '-' ∨ c = '+') := by
    rintro (rfl | rfl) <;> cases hc
  rw [looseYear, bind_read (read_blanks (firm_padded (by decide))),
    bind_read (rfl : (get : Scan (List Char)) _ = .ok (_, _)), htext]
  simp only [List.head?_cons, Option.some.injEq, unsigned, if_false]
  rw [← htext, bind_read number, pure_bind, if_pos (by omega)]
  rfl

theorem read_looseYear {year : Int} (low : -2147483647 ≤ year) (high : year ≤ 2147483647)
    (ends : Ends rest) : looseYear ((yearText year).toList ++ rest) = .ok (year, rest) := by
  rw [yearText]
  split
  · rw [read_looseYear_plain (by omega) ends]
    congr
    omega
  · have bounded : year.natAbs ≤ 2147483647 := by omega
    rw [String.toList_append]
    split
    · have text : ("-".toList ++ (padded 4 year.natAbs).toList) ++ rest =
          '-' :: ((padded 4 year.natAbs).toList ++ rest) := by simp
      rw [text, read_looseYear_signed (.inl rfl) bounded ends, if_pos rfl]
      congr
      omega
    · have text : ("+".toList ++ (padded 4 year.natAbs).toList) ++ rest =
          '+' :: ((padded 4 year.natAbs).toList ++ rest) := by simp
      rw [text, read_looseYear_signed (.inr rfl) bounded ends, if_neg (by decide)]
      congr
      omega

theorem read_fraction_padded (pos : 0 < width) (wide : width ≤ 9) (hn : n < 10 ^ width)
    (ends : Ends rest) :
    Scan.fraction ('.' :: ((padded width n).toList ++ rest)) =
      .ok (n * 10 ^ (9 - width), rest) := by
  have length : (padded width n).toList.length = width := length_padded hn pos
  have small : n < 10 ^ 9 := Nat.lt_of_lt_of_le hn (Nat.pow_le_pow_right (by decide) wide)
  have number : Scan.number 1 (some 9) ((padded width n).toList ++ rest) = .ok (n, rest) :=
    (padded_spells width n).number (by omega) (by omega) (fun m hm => by cases hm; omega) ends
  have taken : ((padded width n).toList ++ rest).length - rest.length = width := by
    rw [List.length_append]
    omega
  have stays : rest.dropWhile isDigit = rest := by
    cases rest with
    | nil => rfl
    | cons c cs => rw [List.dropWhile_cons_of_neg (by simp [ends c rfl])]
  simp only [Scan.fraction, number, taken, stays]
  rfl

theorem read_fraction_none (h : rest.head? ≠ some '.') : Scan.fraction rest = .ok (0, rest) := by
  cases rest with
  | nil => rfl
  | cons c cs =>
    rw [Scan.fraction.eq_def]
    split
    · next heq =>
      cases heq
      exact absurd rfl h
    · rfl

theorem read_fraction {nanos : Nat} (ends : Ends rest) (h : rest.head? ≠ some '.') :
    Scan.fraction ((fractionText nanos).toList ++ rest) = .ok (nanos % nanosPerSecond, rest) := by
  have read : ∀ width n, 0 < width → width ≤ 9 → n < 10 ^ width →
      Scan.fraction (("." ++ padded width n).toList ++ rest) =
        .ok (n * 10 ^ (9 - width), rest) := by
    intro width n pos wide hn
    have text : ("." ++ padded width n).toList ++ rest =
        '.' :: ((padded width n).toList ++ rest) := by simp
    rw [text, read_fraction_padded pos wide hn ends]
  have small : nanos % nanosPerSecond < 1000000000 := Nat.mod_lt _ (by decide)
  simp only [fractionText]
  split
  · next zero => simpa [zero] using read_fraction_none h
  split
  · rw [read 3 _ (by decide) (by decide) (by omega)]
    congr
    omega
  split
  · rw [read 6 _ (by decide) (by decide) (by omega)]
    congr
    omega
  · rw [read 9 _ (by decide) (by decide) (by omega), Nat.sub_self, Nat.pow_zero, Nat.mul_one]

def Parts.ofInstant (t : Instant) : Parts where
  year := (Date.ofDayNumber (t.seconds / 86400)).year
  month := (Date.ofDayNumber (t.seconds / 86400)).month
  day := (Date.ofDayNumber (t.seconds / 86400)).day
  hour := (t.seconds % 86400).toNat / 3600
  minute := (t.seconds % 86400).toNat / 60 % 60
  second := (t.seconds % 86400).toNat % 60 + (if t.isLeap then 1 else 0)
  nanos := t.nanos % nanosPerSecond
  offset := 0

theorem secondsText_toList (t : Instant) : (secondsText t).toList ++ rest =
    (yearText (Parts.ofInstant t).year).toList ++ '-' ::
      ((padded 2 (Parts.ofInstant t).month).toList ++ '-' ::
        ((padded 2 (Parts.ofInstant t).day).toList ++ 'T' ::
          ((padded 2 (Parts.ofInstant t).hour).toList ++ ':' ::
            ((padded 2 (Parts.ofInstant t).minute).toList ++ ':' ::
              ((padded 2 (Parts.ofInstant t).second).toList ++ rest))))) := by
  simp [secondsText, Parts.ofInstant]

theorem second_le (t : Instant) : (Parts.ofInstant t).second ≤ 60 := by
  simp only [Parts.ofInstant]
  split <;> omega

theorem second_of_leap {t : Instant} (h : t.isLeap) : (Parts.ofInstant t).second = 60 := by
  have := t.valid.2.2 (Instant.isLeap_iff.1 h)
  simp only [Parts.ofInstant, h, if_true]
  omega

theorem second_of_not_leap {t : Instant} (h : t.isLeap = false) :
    (Parts.ofInstant t).second = (t.seconds % 86400).toNat % 60 := by
  simp [Parts.ofInstant, h]

theorem ofParts?_self (t : Instant) : Instant.ofParts? t.seconds t.nanos = some t :=
  dif_pos t.valid

theorem time_ofInstant (t : Instant) :
    (if (Parts.ofInstant t).second = 60 then (59, (Parts.ofInstant t).nanos + nanosPerSecond)
      else ((Parts.ofInstant t).second, (Parts.ofInstant t).nanos)) =
        ((t.seconds % 86400).toNat % 60, t.nanos) := by
  have nanos := t.valid.2.1
  have leap := t.valid.2.2
  cases h : t.isLeap with
  | true =>
    have late := leap (Instant.isLeap_iff.1 h)
    have long := Instant.isLeap_iff.1 h
    rw [second_of_leap h, if_pos rfl]
    simp only [Parts.ofInstant, nanosPerSecond, Prod.mk.injEq] at nanos ⊢
    omega
  | false =>
    have short := Instant.isLeap_eq_false_iff.1 h
    rw [second_of_not_leap h, if_neg (by omega)]
    simp only [Parts.ofInstant, nanosPerSecond, Prod.mk.injEq, true_and]
    omega

theorem instant_ofInstant (t : Instant) : (Parts.ofInstant t).instant = .ok t := by
  have real : (Date.ofDayNumber (t.seconds / 86400)).real := Date.real_ofDayNumber _
  have number : (Date.ofDayNumber (t.seconds / 86400)).dayNumber = t.seconds / 86400 :=
    Date.dayNumber_ofDayNumber _
  have date : (⟨(Parts.ofInstant t).year, (Parts.ofInstant t).month, (Parts.ofInstant t).day⟩ :
      Date) = Date.ofDayNumber (t.seconds / 86400) := rfl
  have dated : ¬(¬(Date.ofDayNumber (t.seconds / 86400)).real ∨ t.seconds / 86400 < firstDay ∨
      lastDay < t.seconds / 86400) := by
    rw [not_or, not_or, not_not, Int.not_lt, Int.not_lt]
    exact ⟨real, t.valid.1⟩
  have clock : t.seconds / 86400 * 86400 + (((Parts.ofInstant t).hour : Int) * 3600 +
      (Parts.ofInstant t).minute * 60 + ((t.seconds % 86400).toNat % 60 : Nat)) -
        (Parts.ofInstant t).offset = t.seconds := by
    simp only [Parts.ofInstant]
    omega
  simp only [Parts.instant, date, number, time_ofInstant, clock, ofParts?_self]
  rw [if_neg dated]
  rfl

theorem year_range (t : Instant) :
    -2147483647 ≤ (Parts.ofInstant t).year ∧ (Parts.ofInstant t).year ≤ 2147483647 := by
  obtain ⟨cycle, century, four, single, month, day, h, hdate⟩ :=
    Date.ofDayNumber_split (t.seconds / 86400)
  have total := h.total
  obtain ⟨_, _⟩ := h.century_range
  obtain ⟨_, _⟩ := h.four_range
  obtain ⟨_, _⟩ := h.single_range
  obtain ⟨_, _⟩ := h.month_range
  obtain ⟨_, _⟩ := h.day_range
  have first : -100000000 ≤ t.seconds / 86400 := Int.le_trans (by decide) t.valid.1.1
  have last : t.seconds / 86400 ≤ 100000000 := Int.le_trans t.valid.1.2 (by decide)
  have bounded := h.last
  simp only [Date.epochOffset, Date.daysToMonth] at total bounded
  change -2147483647 ≤ (Date.ofDayNumber _).year ∧ (Date.ofDayNumber _).year ≤ 2147483647
  rw [hdate]
  split <;> simp only <;> omega

theorem ends_cons (h : isDigit c = false) : Ends (c :: cs) := by
  rintro _ ⟨⟩
  exact h

theorem ends_fractionText (ends : Ends rest) (nanos : Nat) :
    Ends ((fractionText nanos).toList ++ rest) := by
  have point : ∀ width n, Ends (("." ++ padded width n).toList ++ rest) := by
    intro width n
    have text : ("." ++ padded width n).toList ++ rest =
        '.' :: ((padded width n).toList ++ rest) := by simp
    exact text ▸ ends_cons rfl
  simp only [fractionText]
  split
  · simpa using ends
  split
  · exact point _ _
  split
  · exact point _ _
  · exact point _ _

theorem day_le (t : Instant) : (Parts.ofInstant t).day ≤ 31 := by
  have real : (Date.ofDayNumber (t.seconds / 86400)).real := Date.real_ofDayNumber _
  refine Nat.le_trans real.2.2.2 ?_
  rw [Date.monthLength]
  split
  · split <;> decide
  · split <;> decide

structure Parts.Regular (p : Parts) : Prop where
  month : 1 ≤ p.month ∧ p.month ≤ 12
  day : 1 ≤ p.day ∧ p.day ≤ 31
  hour : p.hour ≤ 23
  minute : p.minute ≤ 59
  second : p.second ≤ 60

theorem regular_ofInstant (t : Instant) : (Parts.ofInstant t).Regular where
  month := ⟨(Date.real_ofDayNumber _).1, (Date.real_ofDayNumber _).2.1⟩
  day := ⟨(Date.real_ofDayNumber _).2.2.1, day_le t⟩
  hour := by
    simp only [Parts.ofInstant]
    omega
  minute := by
    simp only [Parts.ofInstant]
    omega
  second := second_le t

theorem read_looseParts (t : Instant) :
    looseParts (text t).toList = .ok (Parts.ofInstant t, []) := by
  obtain ⟨month, day, hour, minute, second⟩ := regular_ofInstant t
  have year := year_range t
  have written : (text t).toList =
      (secondsText t).toList ++ ((fractionText t.nanos).toList ++ ['Z']) := by
    simp [text]
  have ended : Ends ((fractionText t.nanos).toList ++ ['Z']) := ends_fractionText (ends_cons rfl) _
  have offset : looseOffset ['Z'] = .ok (0, []) := rfl
  rw [written, secondsText_toList, looseParts,
    bind_read (read_looseYear year.1 year.2 (ends_cons rfl)), bind_read (read_looseChar rfl),
    bind_read (read_looseField (by omega) month.1 month.2 (ends_cons rfl)),
    bind_read (read_looseChar rfl),
    bind_read (read_looseField (by omega) day.1 day.2 (ends_cons rfl)),
    bind_read (rfl : Scan.char ['t', 'T', ' '] _ = .ok (_, _)),
    bind_read (read_looseField (by omega) (Nat.zero_le _) hour (ends_cons rfl)),
    bind_read (read_looseChar rfl),
    bind_read (read_looseField (by omega) (Nat.zero_le _) minute (ends_cons rfl)),
    bind_read (read_looseChar rfl),
    bind_read (read_looseField (by omega) (Nat.zero_le _) second ended),
    bind_read (read_fraction (ends_cons rfl) (by decide)), bind_read offset]
  rfl

theorem read_text (t : Instant) : read (text t) = .ok t := by
  have parts : looseParts.run (text t).toList = .ok (Parts.ofInstant t, []) := read_looseParts t
  rw [read, parts]
  exact instant_ofInstant t

end AccessWindow.Time.Rfc3339
