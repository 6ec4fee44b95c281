import AccessWindow.Pattern.Basic

namespace AccessWindow.Pattern

/-- The lengths of UTF-8 text for one character: the code points of each length, with surrogates
left out, the number of bytes after the first, and the least first byte. -/
def byteLengths : List (Nat × Nat × Nat × Nat) := [
  (0, 0x7F, 0, 0),
  (0x80, 0x7FF, 1, 0xC0),
  (0x800, 0xD7FF, 2, 0xE0),
  (0xE000, 0xFFFF, 2, 0xE0),
  (0x10000, 0x10FFFF, 3, 0xF0)]

def byteRanges (first : Nat) : Nat → Nat → Nat → List (List (Nat × Nat))
  | 0, low, high => [[(first + low, first + high)]]
  | k + 1, low, high =>
    let unit := Nat.pow 64 (k + 1)
    let a := low / unit
    let b := high / unit
    let starting (n low high : Nat) :=
      (byteRanges 0x80 k low high).map ((first + n, first + n) :: ·)
    if a = b then starting a (low % unit) (high % unit)
    else
      let cutLow := low % unit ≠ 0
      let cutHigh := high % unit ≠ unit - 1
      let c := if cutLow then a + 1 else a
      let d := if cutHigh then b - 1 else b
      (if cutLow then starting a (low % unit) (unit - 1) else [])
        ++ (if c ≤ d then [(first + c, first + d) :: List.replicate (k + 1) (0x80, 0xBF)] else [])
        ++ (if cutHigh then starting b 0 (high % unit) else [])

def byteSequences (s : Unicode.Intervals) : List (List (Nat × Nat)) :=
  s.flatMap fun r => byteLengths.flatMap fun (low, high, k, first) =>
    if max r.1 low ≤ min r.2 high then byteRanges first k (max r.1 low) (min r.2 high) else []

def commonLength : List (Nat × Nat) → List (Nat × Nat) → Nat
  | a :: as, b :: bs => if a = b then commonLength as bs + 1 else 0
  | _, _ => 0

def stateCount (before : List (Nat × Nat)) : List (List (Nat × Nat)) → Nat
  | [] => 0
  | s :: rest => s.length - commonLength before s + stateCount s rest

def stateSize : Nat := 32

def membersSize (s : Unicode.Intervals) : Nat :=
  let sequences := byteSequences s
  let states := stateCount [] sequences
  match s with
  | [(a, b)] =>
    if a = b then states * stateSize
    else if b < 0x80 then 2 * stateSize + 8
    else (2 + states) * stateSize + 4 * sequences.length
  | _ =>
    if List.all s (·.2 < 0x80) then 2 * stateSize + 8 * s.length
    else (2 + states) * stateSize + 4 * sequences.length

/-- A repetition takes the room of its body once for each time that is counted. -/
def size : Pattern → Nat
  | empty => stateSize
  | one members => membersSize members
  | .at _ => stateSize
  | seq first second => first.size + second.size
  | either left right => left.size + right.size + 4
  | repeated body least none => max least 1 * body.size + stateSize + 8
  | repeated body least (some most) => most * body.size + (most - least) * (stateSize + 8)

def largest : Nat := 10485760

end AccessWindow.Pattern
