namespace AccessWindow.Url.Punycode

def digitValue? (c : Char) : Option Nat :=
  if 'a' ≤ c ∧ c ≤ 'z' then some (c.toNat - 97)
  else if 'A' ≤ c ∧ c ≤ 'Z' then some (c.toNat - 65)
  else if '0' ≤ c ∧ c ≤ '9' then some (c.toNat - 22)
  else none

def threshold (position bias : Nat) : Nat :=
  if position ≤ bias then 1 else if bias + 26 ≤ position then 26 else position - bias

def shrink : Nat → Nat → Nat → Nat × Nat
  | 0, delta, k => (delta, k)
  | fuel + 1, delta, k => if 455 < delta then shrink fuel (delta / 35) (k + 36) else (delta, k)

def adapt (delta size : Nat) (isFirst : Bool) : Nat :=
  let delta := if isFirst then delta / 700 else delta / 2
  let (delta, k) := shrink 64 (delta + delta / size) 0
  k + 36 * delta / (delta + 38)

def difference (bias : Nat) : Nat → Nat → Nat → List Char → Option (Nat × List Char)
  | _, _, _, [] => none
  | position, weight, total, c :: cs =>
    match digitValue? c with
    | none => none
    | some d =>
      let t := threshold position bias
      let total := total + d * weight
      if d < t then some (total, cs)
      else difference bias (position + 36) (weight * (36 - t)) total cs

def insertAt (i n : Nat) (ns : List Nat) : List Nat := ns.take i ++ n :: ns.drop i

/-- Every difference takes at least one character, so as many rounds as there are characters do. -/
def decodeRest : Nat → Nat → Nat → Nat → List Nat → List Char → Option (List Nat)
  | _, _, _, _, out, [] => some out
  | 0, _, _, _, _, _ => none
  | fuel + 1, n, i, bias, out, cs => do
    let (delta, rest) ← difference bias 36 1 0 cs
    let size := out.length + 1
    let next := n + (i + delta) / size
    let position := (i + delta) % size
    if 0x110000 ≤ next then none
    else
      let bias := adapt delta size (i = 0)
      decodeRest fuel next (position + 1) bias (insertAt position next out) rest

def decode? (cs : List Char) : Option (List Nat) :=
  let (last, front) := (cs.reverse.takeWhile (· ≠ '-'), cs.reverse.dropWhile (· ≠ '-'))
  decodeRest cs.length 128 0 72 ((front.drop 1).reverse.map Char.toNat) last.reverse

example : decode? "bcher-kva".toList = some [98, 252, 99, 104, 101, 114] := by decide +kernel

end AccessWindow.Url.Punycode
