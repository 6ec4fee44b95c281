/-! Finite binary numbers with a mantissa of 53 bits, as exact values. Every operation rounds the
exact result to the nearest such number, ties to the even mantissa, and fails where that number
would be infinite. -/

namespace AccessWindow.Number

/-- The number `± mantissa * 2 ^ exponent`. -/
structure Double where
  negative : Bool
  mantissa : Nat
  exponent : Int
  deriving DecidableEq, Repr

namespace Double

def finest : Int := -1074

def scaled (num den : Nat) : Int → Nat × Nat
  | .ofNat k => (num, den * Nat.pow 2 k)
  | .negSucc k => (num * Nat.pow 2 (k + 1), den)

def nearest (num den : Nat) : Nat :=
  let q := num / den
  let r := num % den
  if den < 2 * r ∨ (2 * r = den ∧ q % 2 = 1) then q + 1 else q

def ofRatio? (negative : Bool) (num den : Nat) : Option Double :=
  if num = 0 then some ⟨negative, 0, finest⟩
  else
    let top : Int := (num.log2 : Int) - (den.log2 : Int) - 52
    let (n, d) := scaled num den top
    let e := max (if n / d < 4503599627370496 then top - 1 else top) finest
    let (n, d) := scaled num den e
    let m := nearest n d
    let (m, e) := if m = 9007199254740992 then (4503599627370496, e + 1) else (m, e)
    if 971 < e then none else some ⟨negative, m, e⟩

def ratio (x : Double) : Nat × Nat :=
  match x.exponent with
  | .ofNat k => (x.mantissa * Nat.pow 2 k, 1)
  | .negSucc k => (x.mantissa, Nat.pow 2 (k + 1))

def mul? (x y : Double) : Option Double :=
  ofRatio? (x.negative != y.negative) (x.ratio.1 * y.ratio.1) (x.ratio.2 * y.ratio.2)

def div? (x y : Double) : Option Double :=
  ofRatio? (x.negative != y.negative) (x.ratio.1 * y.ratio.2) (x.ratio.2 * y.ratio.1)

def powerOfTen? (k : Nat) : Option Double := ofRatio? false (Nat.pow 10 k) 1

/-- `x * 10 ^ e`, where powers beyond 308 are applied in portions: downwards one portion at a time
until nothing is left, upwards not at all. -/
def timesTenTo? : Nat → Double → Int → Option Double
  | 0, x, _ => some x
  | fuel + 1, x, e =>
    if e.natAbs ≤ 308 then do
      let p ← powerOfTen? e.natAbs
      if 0 ≤ e then x.mul? p else x.div? p
    else if x.mantissa = 0 then some x
    else if 0 ≤ e then none
    else do
      let p ← powerOfTen? 308
      timesTenTo? fuel (← x.div? p) (e + 308)

def ofDecimal? (negative : Bool) (digits : Nat) (e : Int) : Option Double := do
  let x ← ofRatio? false digits 1
  let y ← timesTenTo? 8 x e
  return { y with negative }

def leadingExponent (num den : Nat) : Int :=
  if den ≤ num then ((Nat.toDigits 10 (num / den)).length : Int) - 1
  else
    match (List.range 330).find? (fun k => den ≤ num * Nat.pow 10 k) with
    | some k => -(k : Int)
    | none => -330

def gridPoint (point : Nat) : Int → Nat × Nat
  | .ofNat k => (point * Nat.pow 10 k, 1)
  | .negSucc k => (point, Nat.pow 10 (k + 1))

/-- The grid point rounds to the number, that is, it lies between the midpoints to its two
neighbours; the midpoints count iff the mantissa is even. -/
def owns (x : Double) (point : Nat) (e : Int) : Bool :=
  let (n, d) := gridPoint point e
  let (fn, fd) := ({ x with mantissa := 1 } : Double).ratio
  let below := if x.mantissa = 4503599627370496 ∧ finest < x.exponent then 1 else 2
  let low := (4 * x.mantissa - below) * fn * d
  let high := (4 * x.mantissa + 2) * fn * d
  let here := 4 * n * fd
  if x.mantissa % 2 = 0 then low ≤ here ∧ here ≤ high else low < here ∧ here < high

def candidate? (x : Double) (lead : Int) (n : Nat) : Option (Nat × Int) :=
  let e := lead + 1 - n
  let (num, den) := x.ratio
  let (un, ud) := gridPoint 1 e
  let q := num * ud / (den * un)
  let r := num * ud % (den * un)
  let down := x.owns q e
  let up := x.owns (q + 1) e
  let nearUp := den * un < 2 * r ∨ (2 * r = den * un ∧ q % 2 = 1)
  if down ∧ ¬ (up ∧ nearUp) then some (q, e) else if up then some (q + 1, e) else none

def strip : Nat → Nat → Int → Nat × Int
  | 0, digits, e => (digits, e)
  | fuel + 1, digits, e =>
    if digits % 10 = 0 ∧ digits ≠ 0 then strip fuel (digits / 10) (e + 1) else (digits, e)

def shortest (x : Double) : Nat × Int :=
  let (num, den) := x.ratio
  let lead := leadingExponent num den
  match (List.range 17).findSome? (fun n => x.candidate? lead (n + 1)) with
  | some (digits, e) => strip 20 digits e
  | none => (x.mantissa, 0)

def zeros (n : Nat) : String := String.ofList (List.replicate n '0')

/-- Positional from `1e-5` up to below `1e16`, always with a decimal point; otherwise one digit, the
rest after the point, and a signed exponent of at least two digits. -/
def text (x : Double) : String :=
  let sign := if x.negative then "-" else ""
  if x.mantissa = 0 then sign ++ "0.0"
  else
    let (digits, e) := x.shortest
    let ds := Nat.toDigits 10 digits
    let lead := e + ds.length - 1
    sign ++
      if -5 ≤ lead ∧ lead ≤ 15 then
        if 0 ≤ e then String.ofList ds ++ zeros e.toNat ++ ".0"
        else if 0 ≤ lead then
          String.ofList (ds.take (lead.toNat + 1)) ++ "."
            ++ String.ofList (ds.drop (lead.toNat + 1))
        else "0." ++ zeros (-lead - 1).toNat ++ String.ofList ds
      else
        let fraction := ds.drop 1
        String.ofList (ds.take 1) ++ (if fraction = [] then "" else "." ++ String.ofList fraction)
          ++ "e" ++ (if lead < 0 then "-" else "+")
          ++ (if lead.natAbs < 10 then "0" else "") ++ toString lead.natAbs

end Double

end AccessWindow.Number
