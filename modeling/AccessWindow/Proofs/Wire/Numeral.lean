import Mathlib.Algebra.Group.Nat.Defs
import AccessWindow.Time.Rfc3339

namespace AccessWindow.Time.Rfc3339

open Scan

variable {width n d least : Nat} {c : Char} {cs ds rest : List Char} {most : Option Nat}

structure Spells (ds : List Char) (n : Nat) : Prop where
  digits : ∀ c ∈ ds, isDigit c
  value : natOf ds = n

theorem natOf_eq_ofDigitChars : natOf cs = Nat.ofDigitChars 10 cs 0 := by
  rw [natOf, Nat.ofDigitChars]
  congr 1
  funext n c
  rw [Nat.mul_comm]
  rfl

theorem natOf_zeros (k : Nat) : natOf (List.replicate k '0' ++ cs) = natOf cs := by
  induction k with
  | zero => rfl
  | succ k ih => exact ih

theorem padded_toList : (padded width n).toList =
    List.replicate (width - (Nat.toDigits 10 n).length) '0' ++ Nat.toDigits 10 n := by
  rw [padded, String.toList_ofList]

theorem padded_spells (width n : Nat) : Spells (padded width n).toList n where
  digits c hc := by
    rw [padded_toList, List.mem_append] at hc
    cases hc with
    | inl zero => exact (List.mem_replicate.1 zero).2 ▸ rfl
    | inr digit =>
      have := Nat.isDigit_of_mem_toDigits (by decide) (by decide) digit
      simpa [Char.isDigit, isDigit, Char.le_def] using this
  value := by
    rw [padded_toList, natOf_zeros, natOf_eq_ofDigitChars, Nat.ofDigitChars_ten_toDigits]

theorem length_padded (h : n < 10 ^ width) (pos : 0 < width) :
    (padded width n).toList.length = width := by
  have := (Nat.length_toDigits_le_iff (by decide) pos).2 h
  rw [padded_toList, List.length_append, List.length_replicate]
  omega

theorem le_length_padded : width ≤ (padded width n).toList.length := by
  rw [padded_toList, List.length_append, List.length_replicate]
  omega

theorem length_le_byteLength : cs.length ≤ byteLength cs := by
  have grows : ∀ m, m + cs.length ≤ cs.foldl (fun n c => n + c.utf8Size) m := by
    induction cs with
    | nil => exact fun m => Nat.le_refl m
    | cons c cs ih =>
      intro m
      have := ih (m + c.utf8Size)
      have := c.utf8Size_pos
      rw [List.length_cons, List.foldl_cons]
      omega
  exact Nat.zero_add cs.length ▸ grows 0

def Ends (cs : List Char) : Prop := ∀ c, cs.head? = some c → isDigit c = false

theorem Spells.takeWhile (h : Spells ds n) (ends : Ends rest) :
    (ds ++ rest).takeWhile isDigit = ds := by
  rw [List.takeWhile_append_of_pos h.digits]
  cases rest with
  | nil => rw [List.takeWhile_nil, List.append_nil]
  | cons c rest => rw [List.takeWhile_cons_of_neg (by simp [ends c rfl]), List.append_nil]

theorem Ends.take (h : Ends rest) (k : Nat) : Ends (rest.take k) := by
  intro c hc
  cases k with
  | zero => cases hc
  | succ k =>
    cases rest with
    | nil => cases hc
    | cons => exact h c hc

theorem Spells.number (h : Spells ds n) (small : n < 9223372036854775808)
    (enough : least ≤ ds.length) (within : ∀ m, most = some m → ds.length ≤ m)
    (ends : Ends rest) : Scan.number least most (ds ++ rest) = .ok (n, rest) := by
  have found : (most.elim (ds ++ rest) (ds ++ rest).take).takeWhile isDigit = ds := by
    cases most with
    | none => exact h.takeWhile ends
    | some m =>
      rw [Option.elim_some, List.take_append, List.take_of_length_le (within m rfl)]
      exact h.takeWhile (ends.take _)
  have bytes : least ≤ byteLength (ds ++ rest) :=
    calc
      least ≤ (ds ++ rest).length := by rw [List.length_append]; omega
      _ ≤ _ := length_le_byteLength
  simp only [Scan.number, found, h.value]
  rw [if_neg (by omega), if_neg (by omega), if_neg (by omega), List.drop_left]

end AccessWindow.Time.Rfc3339
