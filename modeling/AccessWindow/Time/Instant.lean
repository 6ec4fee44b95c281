import AccessWindow.Time.Calendar

/-! Instants of coordinated universal time. A leap second is the last second of a minute taken
longer: its nanoseconds run on from one thousand million. -/

namespace AccessWindow

namespace Time

abbrev Duration := Nat

namespace Duration

/-- What the pair of a 64-bit count of seconds and its nanoseconds can hold. -/
def longest : Duration := 18446744073709551615 * 1000000000 + 999999999

def ofSeconds (n : Nat) : Duration := n * 1000000000

def ofMillis (n : Nat) : Duration := n * 1000000

end Duration

/-- The first day of the year -262143. -/
def firstDay : Int := Date.dayNumber ⟨-262143, 1, 1⟩

/-- The last day of the year 262142. -/
def lastDay : Int := Date.dayNumber ⟨262142, 12, 31⟩

def nanosPerSecond : Nat := 1000000000

end Time

def Instant.Valid (seconds : Int) (nanos : Nat) : Prop :=
  (Time.firstDay ≤ seconds / 86400 ∧ seconds / 86400 ≤ Time.lastDay) ∧
    nanos < 2 * Time.nanosPerSecond ∧ (Time.nanosPerSecond ≤ nanos → seconds % 60 = 59)

instance (seconds : Int) (nanos : Nat) : Decidable (Instant.Valid seconds nanos) := by
  unfold Instant.Valid; infer_instance

/-- The seconds since 1 January 1970, leap seconds not counted, and the nanoseconds within the
second. -/
structure Instant where
  seconds : Int
  nanos : Nat
  valid : Instant.Valid seconds nanos
  deriving DecidableEq

namespace Instant

open Time

def epoch : Instant := ⟨0, 0, by decide⟩

instance : Inhabited Instant := ⟨epoch⟩

def latest : Instant := ⟨lastDay * 86400 + 86399, 999999999, by decide⟩

def ofParts? (seconds : Int) (nanos : Nat) : Option Instant :=
  if h : Valid seconds nanos then some ⟨seconds, nanos, h⟩ else none

instance : LT Instant where
  lt a b := a.seconds < b.seconds ∨ (a.seconds = b.seconds ∧ a.nanos < b.nanos)

instance : LE Instant where
  le a b := a.seconds < b.seconds ∨ (a.seconds = b.seconds ∧ a.nanos ≤ b.nanos)

instance (a b : Instant) : Decidable (a < b) :=
  inferInstanceAs (Decidable (a.seconds < b.seconds ∨ (a.seconds = b.seconds ∧ a.nanos < b.nanos)))

instance (a b : Instant) : Decidable (a ≤ b) :=
  inferInstanceAs (Decidable (a.seconds < b.seconds ∨ (a.seconds = b.seconds ∧ a.nanos ≤ b.nanos)))

def isLeap (t : Instant) : Bool := nanosPerSecond ≤ t.nanos

def secondOfDay (t : Instant) : Int := t.seconds % 86400

/-- The nanoseconds from `b` to `a`. A leap second between the two is counted when the one that lies
in it comes first by the clock of its day and the other comes later by the clock of its day. -/
def since (a b : Instant) : Int :=
  let leap : Int :=
    if b.secondOfDay < a.secondOfDay ∧ b.isLeap then 1
    else if a.secondOfDay < b.secondOfDay ∧ a.isLeap then -1
    else 0
  (a.seconds - b.seconds + leap) * nanosPerSecond + ((a.nanos : Int) - b.nanos)

def until? (target now : Instant) : Option Duration :=
  if target ≤ now then none
  else
    let span := target.since now
    if span < 0 then none else some span.toNat

/-- The instant some nanoseconds later, or earlier. What leaves a leap second goes on from the
second that follows it. -/
def add? (t : Instant) (span : Int) : Option Instant :=
  let whole := span.tdiv nanosPerSecond
  let part := span.tmod nanosPerSecond
  let stays := t.isLeap ∧ whole = 0 ∧ (part ≤ 0 ∨ t.nanos + part < 2 * nanosPerSecond)
  if stays then ofParts? t.seconds (t.nanos + part).toNat
  else
    let (seconds, nanos) : Int × Int :=
      if t.isLeap then
        (if 0 < whole ∨ 0 < part then t.seconds else t.seconds + 1,
          (t.nanos : Int) - nanosPerSecond)
      else (t.seconds, t.nanos)
    let nanos := nanos + part
    ofParts? (seconds + whole + nanos / nanosPerSecond) (nanos % nanosPerSecond).toNat

/-- The longest delay that a clock can be moved by: the milliseconds that fit 63 bits. -/
def longestDelay : Duration := 9223372036854775807 * 1000000

def after (t : Instant) (delay : Duration) : Instant :=
  if delay ≤ longestDelay then (t.add? delay).getD latest else latest

end Instant

end AccessWindow
