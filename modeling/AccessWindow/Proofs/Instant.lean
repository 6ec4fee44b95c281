import Mathlib.Order.Defs.LinearOrder
import AccessWindow.Time.Instant

namespace AccessWindow.Instant

open Time

variable {a b target now t u : Instant} {span shorter longer : Int}

theorem le_iff : a ≤ b ↔ a.seconds < b.seconds ∨ (a.seconds = b.seconds ∧ a.nanos ≤ b.nanos) :=
  Iff.rfl

theorem lt_iff : a < b ↔ a.seconds < b.seconds ∨ (a.seconds = b.seconds ∧ a.nanos < b.nanos) :=
  Iff.rfl

theorem ext (hs : a.seconds = b.seconds) (hn : a.nanos = b.nanos) : a = b := by
  cases a
  cases b
  cases hs
  cases hn
  rfl

instance : LinearOrder Instant where
  le_refl a := le_iff.2 (.inr ⟨rfl, Nat.le_refl _⟩)
  le_trans a b c := by
    simp only [le_iff]
    omega
  lt_iff_le_not_ge a b := by
    simp only [le_iff, lt_iff]
    omega
  le_antisymm a b := by
    simp only [le_iff]
    intro h h'
    exact ext (by omega) (by omega)
  le_total a b := by
    simp only [le_iff]
    omega
  toDecidableLE := inferInstance

theorem isLeap_iff : a.isLeap ↔ 1000000000 ≤ a.nanos := decide_eq_true_iff

theorem isLeap_eq_false_iff : t.isLeap = false ↔ t.nanos < 1000000000 := by
  rw [← Bool.not_eq_true, isLeap_iff, Nat.not_le]

theorem since_nonneg (h : now < target) (hl : now.isLeap = false) : 0 ≤ target.since now := by
  have hn := isLeap_eq_false_iff.1 hl
  rw [lt_iff] at h
  simp only [since, hl, nanosPerSecond]
  split
  · next hlate => simp at hlate
  · split
    · next hearly =>
      have ht := isLeap_iff.1 hearly.2
      have hs : now.seconds ≠ target.seconds := by
        intro he
        have := hearly.1
        simp only [secondOfDay, he] at this
        omega
      omega
    · omega

theorem lt_of_until?_eq_some {delay : Duration} (h : target.until? now = some delay) :
    now < target := by
  by_contra hle
  rw [until?, if_pos (le_of_not_gt hle)] at h
  cases h

theorem le_of_until?_eq_none (h : target.until? now = none) (hl : now.isLeap = false) :
    target ≤ now := by
  by_contra hlt
  have hnn := since_nonneg (lt_of_not_ge hlt) hl
  simp only [until?, hlt, if_false] at h
  split at h
  · omega
  · cases h

def sinceEpoch (t : Instant) : Int := t.nanos + nanosPerSecond * t.seconds

theorem add?_of_not_leap (hl : t.isLeap = false) :
    t.add? span = ofParts? ((t.sinceEpoch + span) / nanosPerSecond)
      ((t.sinceEpoch + span) % nanosPerSecond).toNat := by
  have hspan : t.sinceEpoch + span = t.nanos + span.tmod nanosPerSecond +
      nanosPerSecond * (t.seconds + span.tdiv nanosPerSecond) := by
    have h := Int.mul_tdiv_add_tmod span nanosPerSecond
    rw [Int.mul_add]
    simp only [sinceEpoch]
    omega
  rw [hspan, Int.add_mul_ediv_left _ _ (by decide), Int.add_mul_emod_self_left]
  simp only [add?, hl, Bool.false_eq_true, false_and, if_false]
  congr 1
  omega

theorem ofParts?_eq_some {seconds : Int} {nanos : Nat} (h : ofParts? seconds nanos = some u) :
    u.seconds = seconds ∧ u.nanos = nanos := by
  rw [ofParts?] at h
  split at h
  · cases h
    exact ⟨rfl, rfl⟩
  · cases h

theorem isLeap_of_add? (hl : t.isLeap = false) (h : t.add? span = some u) : u.isLeap = false := by
  rw [add?_of_not_leap hl] at h
  have := (ofParts?_eq_some h).2
  rw [isLeap_eq_false_iff, this]
  simp only [nanosPerSecond]
  omega

theorem le_latest (hl : t.isLeap = false) : t ≤ latest := by
  rw [isLeap_eq_false_iff] at hl
  have := t.valid.1.2
  rw [le_iff]
  simp only [latest]
  omega

theorem getD_add?_le (hl : t.isLeap = false) (hs : 0 ≤ shorter) (hle : shorter ≤ longer) :
    (t.add? shorter).getD latest ≤ (t.add? longer).getD latest := by
  cases hb : t.add? longer with
  | none =>
    cases ha : t.add? shorter with
    | none => exact le_refl _
    | some u => exact le_latest (isLeap_of_add? hl ha)
  | some v =>
    rw [add?_of_not_leap hl] at hb
    have ⟨hseconds, hnanos⟩ := ofParts?_eq_some hb
    have valid : Valid ((t.sinceEpoch + shorter) / nanosPerSecond)
        ((t.sinceEpoch + shorter) % nanosPerSecond).toNat := by
      have first := t.valid.1.1
      have last := v.valid.1.2
      simp only [Valid, sinceEpoch, nanosPerSecond] at *
      omega
    rw [add?_of_not_leap hl, ofParts?, dif_pos valid, le_iff]
    simp only [Option.getD_some, hseconds, hnanos, nanosPerSecond]
    omega

end AccessWindow.Instant
