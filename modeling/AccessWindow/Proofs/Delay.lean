import Mathlib.Order.MinMax
import AccessWindow.Proofs.Instant

/-! How a clock that is moved by just the time left comes to its target. Outside leap seconds one
wait is enough. Around them it can take a second wait, or the time left can come out as nothing
before the target is reached. -/

namespace AccessWindow.Instant

open Time

variable {target t u v : Instant} {delay : Nat}

theorem until?_eq_some :
    target.until? t = some delay ↔ t < target ∧ target.since t = delay := by
  rw [until?]
  by_cases h : target ≤ t
  · simp [h, not_lt_of_ge h]
  · have hlt := lt_of_not_ge h
    have hsplit : target.since t < 0 ∨ ((target.since t).toNat : Int) = target.since t := by omega
    simp only [h, if_false, hlt, true_and]
    split
    · simp only [reduceCtorEq, false_iff]
      omega
    · rw [Option.some.injEq]
      change Int.toNat _ = delay ↔ _
      omega

theorem until?_eq_none : target.until? t = none ↔ target ≤ t ∨ target.since t < 0 := by
  rw [until?]
  by_cases h : target ≤ t <;> simp [h]

inductive Counted (target t : Instant) : Prop
  | passed : t.seconds % 86400 < target.seconds % 86400 → 1000000000 ≤ t.nanos →
      target.since t = target.sinceEpoch - t.sinceEpoch + 1000000000 → Counted target t
  | ahead : target.seconds % 86400 < t.seconds % 86400 → 1000000000 ≤ target.nanos →
      target.since t = target.sinceEpoch - t.sinceEpoch - 1000000000 → Counted target t
  | none : ¬(t.seconds % 86400 < target.seconds % 86400 ∧ 1000000000 ≤ t.nanos) →
      ¬(target.seconds % 86400 < t.seconds % 86400 ∧ 1000000000 ≤ target.nanos) →
      target.since t = target.sinceEpoch - t.sinceEpoch → Counted target t

theorem counted (target t : Instant) : Counted target t := by
  have hs : target.since t = target.since t := rfl
  conv at hs => rhs; simp only [since, secondOfDay, isLeap_iff, nanosPerSecond]
  split at hs
  · next h =>
    refine .passed h.1 h.2 ?_
    simp only [sinceEpoch, nanosPerSecond]
    omega
  · next h =>
    split at hs
    · next h' =>
      refine .ahead h'.1 h'.2 ?_
      simp only [sinceEpoch, nanosPerSecond]
      omega
    · next h' =>
      refine .none h h' ?_
      simp only [sinceEpoch, nanosPerSecond]
      omega

theorem pos_of_until? (hl : t.isLeap = false) (h : target.until? t = some delay) : 0 < delay := by
  obtain ⟨hlt, hspan⟩ := until?_eq_some.1 h
  rw [isLeap_eq_false_iff] at hl
  rw [lt_iff] at hlt
  cases counted target t <;> simp only [sinceEpoch, nanosPerSecond] at * <;> omega

theorem until?_of_not_leap (hl : t.isLeap = false) (hl' : target.isLeap = false)
    (hlt : t < target) :
    target.until? t = some (target.sinceEpoch - t.sinceEpoch).toNat := by
  refine until?_eq_some.2 ⟨hlt, ?_⟩
  rw [isLeap_eq_false_iff] at hl hl'
  rw [lt_iff] at hlt
  cases counted target t <;> simp only [sinceEpoch, nanosPerSecond] at * <;> omega

inductive Moved (t : Instant) (delay : Nat) (u : Instant) : Prop
  | within : t.isLeap → u.seconds = t.seconds → u.nanos = t.nanos + delay → Moved t delay u
  | out : t.isLeap → u.isLeap = false → 2 * 1000000000 ≤ t.nanos + delay →
      u.sinceEpoch = t.sinceEpoch + delay - 1000000000 → Moved t delay u
  | onward : t.isLeap = false → u.isLeap = false → u.sinceEpoch = t.sinceEpoch + delay →
      Moved t delay u

theorem moved_of_add? (hd : 0 < delay) (h : t.add? delay = some u) : Moved t delay u := by
  have hdiv : (delay : Int).tdiv nanosPerSecond = (delay : Int) / nanosPerSecond :=
    Int.tdiv_eq_ediv_of_nonneg (by omega)
  have hmod : (delay : Int).tmod nanosPerSecond = (delay : Int) % nanosPerSecond :=
    Int.tmod_eq_emod_of_nonneg (by omega)
  cases hl : t.isLeap with
  | false =>
    refine .onward hl (isLeap_of_add? hl h) ?_
    rw [add?_of_not_leap hl] at h
    obtain ⟨hs, hn⟩ := ofParts?_eq_some h
    simp only [sinceEpoch, nanosPerSecond] at *
    omega
  | true =>
    have hn := isLeap_iff.1 hl
    simp only [add?, hl, true_and, if_true, hdiv, hmod] at h
    split at h
    · obtain ⟨hs, hn'⟩ := ofParts?_eq_some h
      simp only [nanosPerSecond] at *
      exact .within hl hs (by omega)
    · obtain ⟨hs, hn'⟩ := ofParts?_eq_some h
      simp only [nanosPerSecond] at *
      have hlater : 0 < (delay : Int) / 1000000000 ∨ 0 < (delay : Int) % 1000000000 := by omega
      simp only [Int.cast_ofNat_Int, hlater, if_true] at hs hn'
      refine .out hl (isLeap_eq_false_iff.2 ?_) ?_ ?_
      · omega
      · omega
      · simp only [sinceEpoch, nanosPerSecond]
        omega

theorem direct_of_moved {left : Nat} (h : target.until? t = some delay) (m : Moved t delay u)
    (h' : target.until? u = some left) (hleft : 0 < left) :
    u.isLeap = false ∧ target.since u = target.sinceEpoch - u.sinceEpoch := by
  obtain ⟨hlt, hspan⟩ := until?_eq_some.1 h
  obtain ⟨hlt', hspan'⟩ := until?_eq_some.1 h'
  have ht := t.valid.2
  have hu := u.valid.2
  have htarget := target.valid.2
  have hcount := counted target t
  have hcount' := counted target u
  simp only [isLeap_eq_false_iff]
  rw [lt_iff] at hlt hlt'
  cases m with
  | within hl hs hn =>
    rw [isLeap_iff] at hl
    exfalso
    cases hcount <;> cases hcount' <;> simp only [sinceEpoch, nanosPerSecond] at * <;> omega
  | out hl hl' hn hs =>
    rw [isLeap_iff] at hl
    rw [isLeap_eq_false_iff] at hl'
    cases hcount <;> cases hcount' <;> simp only [sinceEpoch, nanosPerSecond] at * <;> omega
  | onward hl hl' hs =>
    rw [isLeap_eq_false_iff] at hl hl'
    cases hcount <;> cases hcount' <;> simp only [sinceEpoch, nanosPerSecond] at * <;> omega

theorem reached_of_direct (hl : t.isLeap = false)
    (direct : target.since t = target.sinceEpoch - t.sinceEpoch)
    (h : target.until? t = some delay) (hd : 0 < delay) (hu : t.add? delay = some u) :
    target ≤ u := by
  obtain ⟨-, hspan⟩ := until?_eq_some.1 h
  have htarget := target.valid.2
  cases moved_of_add? hd hu with
  | within hl' => simp [hl] at hl'
  | out hl' => simp [hl] at hl'
  | onward _ hl' hs =>
    rw [isLeap_eq_false_iff] at hl'
    rw [le_iff]
    simp only [sinceEpoch, nanosPerSecond] at *
    omega

def left (target t : Instant) : Nat := (target.until? t).getD 0

def waits (target t : Instant) : Nat :=
  if target.left t = 0 then 0
  else if (t.add? (target.left t)).all fun u => target.left u = 0 then 1
  else 2

theorem waits_le : target.waits t ≤ 2 := by
  rw [waits]
  split
  · omega
  · split <;> omega

theorem waits_lt (h : target.until? t = some delay) (hd : 0 < delay)
    (hu : t.add? delay = some u) : target.waits u < target.waits t := by
  have hleft : target.left t = delay := by simp [left, h]
  have here : target.waits t = if target.left u = 0 then 1 else 2 := by
    simp [waits, hleft, Nat.ne_of_gt hd, hu]
  rw [here]
  split
  · next hz => simp [waits, hz]
  · next hz =>
    have h' : target.until? u = some (target.left u) := by
      cases hn : target.until? u with
      | none => simp [left, hn] at hz
      | some d => simp [left, hn]
    obtain ⟨hl, direct⟩ :=
      direct_of_moved h (moved_of_add? hd hu) h' (Nat.pos_of_ne_zero hz)
    have last : (u.add? (target.left u)).all fun v => target.left v = 0 := by
      refine (Option.all_eq_true _ _).2 fun v hv => ?_
      have hle := reached_of_direct hl direct h' (Nat.pos_of_ne_zero hz) hv
      simp [left, until?_eq_none.2 (.inl hle)]
    simp [waits, hz, last]

theorem since_of_not_leap (hl : t.isLeap = false) (hl' : target.isLeap = false) :
    target.since t = target.sinceEpoch - t.sinceEpoch := by
  rw [isLeap_eq_false_iff] at hl hl'
  cases counted target t <;> simp only [sinceEpoch, nanosPerSecond] at * <;> omega

theorem sinceEpoch_le_iff (hl : t.isLeap = false) (hl' : u.isLeap = false) :
    t.sinceEpoch ≤ u.sinceEpoch ↔ t ≤ u := by
  rw [isLeap_eq_false_iff] at hl hl'
  rw [le_iff]
  simp only [sinceEpoch, nanosPerSecond]
  omega

theorem add?_eq_some_of_sinceEpoch {span : Int} (hl : t.isLeap = false) (hl' : u.isLeap = false)
    (h : t.sinceEpoch + span = u.sinceEpoch) : t.add? span = some u := by
  rw [isLeap_eq_false_iff] at hl'
  have hseconds : u.sinceEpoch / nanosPerSecond = u.seconds := by
    simp only [sinceEpoch, nanosPerSecond]
    omega
  have hnanos : (u.sinceEpoch % nanosPerSecond).toNat = u.nanos := by
    simp only [sinceEpoch, nanosPerSecond]
    omega
  rw [add?_of_not_leap hl, h, hseconds, hnanos, ofParts?, dif_pos u.valid]

theorem add?_since (hl : t.isLeap = false) (hl' : target.isLeap = false) :
    t.add? (target.since t).toNat = some (max t target) := by
  have hspan := since_of_not_leap hl hl'
  cases le_total target t with
  | inl hle =>
    have hpast := (sinceEpoch_le_iff hl' hl).2 hle
    rw [max_eq_left hle]
    exact add?_eq_some_of_sinceEpoch hl hl (by omega)
  | inr hle =>
    have hahead := (sinceEpoch_le_iff hl hl').2 hle
    rw [max_eq_right hle]
    exact add?_eq_some_of_sinceEpoch hl hl' (by omega)

theorem isLeap_after (hl : t.isLeap = false) : (t.after delay).isLeap = false := by
  have latest_plain : latest.isLeap = false := by decide
  rw [after]
  split
  · cases hu : t.add? delay with
    | none => exact latest_plain
    | some u => exact isLeap_of_add? hl hu
  · exact latest_plain

end AccessWindow.Instant
