import AccessWindow.Text.Pieces

namespace AccessWindow.Unicode

abbrev Intervals := List (Nat × Nat)

namespace Intervals

def greatest : Nat := 0x10FFFF

def contains (s : Intervals) (n : Nat) : Bool := s.any fun r => r.1 ≤ n && n ≤ r.2

def all : Intervals := [(0, greatest)]

def merge : Intervals → Intervals
  | a :: rest =>
    match merge rest with
    | b :: more => if b.1 ≤ a.2 + 1 then (a.1, max a.2 b.2) :: more else a :: b :: more
    | [] => [a]
  | [] => []

def normal (s : Intervals) : Intervals :=
  merge ((s.filter fun r => r.1 ≤ r.2).mergeSort fun a b => a.1 ≤ b.1)

def union (s t : Intervals) : Intervals := normal (s ++ t)

def gaps (start : Nat) : Intervals → Intervals
  | [] => if start ≤ greatest then [(start, greatest)] else []
  | r :: rest =>
    let after := gaps (r.2 + 1) rest
    if start < r.1 then (start, r.1 - 1) :: after else after

def complement (s : Intervals) : Intervals := gaps 0 (normal s)

def inter (s t : Intervals) : Intervals := complement (union (complement s) (complement t))

def diff (s t : Intervals) : Intervals := inter s (complement t)

def symmDiff (s t : Intervals) : Intervals := union (diff s t) (diff t s)

def hexValue (c : Char) : Nat :=
  if '0' ≤ c ∧ c ≤ '9' then c.toNat - 48 else if 'a' ≤ c ∧ c ≤ 'f' then c.toNat - 87 else 0

def hexNat (cs : List Char) : Nat := cs.foldl (fun n c => n * 16 + hexValue c) 0

def ofWord (cs : List Char) : Nat × Nat :=
  match cs.span (· ≠ '-') with
  | (a, _ :: b) => (hexNat a, hexNat b)
  | (a, []) => (hexNat a, hexNat a)

def words (s : String) : List (List Char) := (Text.pieces ' ' s.toList).filter (· ≠ [])

/-- Reads intervals in the notation `61-7a 5f`. -/
def ofText (s : String) : Intervals := (words s).map ofWord

end Intervals

/-- A partition of the code points: the first one of each run and the label of the run. The text has
`width` characters for a label, which starts with a capital. -/
def runsOf (width : Nat) : Nat → List Char → List Char → List (Nat × String)
  | 0, _, _ => []
  | _, _, [] => []
  | fuel + 1, digits, c :: cs =>
    if 'A' ≤ c ∧ c ≤ 'Z' then
      (Intervals.hexNat digits.reverse, String.ofList (c :: cs.take (width - 1)))
        :: runsOf width fuel [] (cs.drop (width - 1))
    else runsOf width fuel (c :: digits) cs

def runsOfText (width : Nat) (s : String) : List (Nat × String) :=
  runsOf width (s.length + 1) [] s.toList

def labelled (test : String → Bool) : List (Nat × String) → Intervals
  | [] => []
  | [(first, label)] => if test label then [(first, Intervals.greatest)] else []
  | (first, label) :: (next, other) :: rest =>
    if test label then (first, next - 1) :: labelled test ((next, other) :: rest)
    else labelled test ((next, other) :: rest)

def labelAt (n : Nat) : List (Nat × String) → Option String
  | [] => none
  | [(first, label)] => if first ≤ n then some label else none
  | (first, label) :: (next, other) :: rest =>
    if n < first then none else if n < next then some label else labelAt n ((next, other) :: rest)

end AccessWindow.Unicode
