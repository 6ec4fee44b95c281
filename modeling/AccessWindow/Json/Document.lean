import AccessWindow.Json.Value
import AccessWindow.Text.Utf8

/-! A JSON text, read as far as it is well formed. The text of a document keeps the order of its
members and may stop being JSON at some point; what stands before that point can still be looked
at. -/

namespace AccessWindow.Json

/-- A text number or string may be well formed and yet denote nothing: a number too large, a string
with half a surrogate pair or with bytes that are no characters. -/
inductive Doc
  | broken
  | null
  | bool (value : Bool)
  | number (value : Option Number)
  | string (value : Option String)
  | array (items : List Doc) (closed : Bool)
  | object (members : List (Option String × Doc)) (closed : Bool)

namespace Doc

instance : Inhabited Doc := ⟨.broken⟩

def whole : Doc → Bool
  | .broken => false
  | .array _ closed => closed
  | .object _ closed => closed
  | _ => true

def isSpace (b : UInt8) : Bool := b = 32 || b = 10 || b = 9 || b = 13

def skipSpace (bs : List UInt8) : List UInt8 := bs.dropWhile isSpace

def isDigit (b : UInt8) : Bool := 48 ≤ b && b ≤ 57

def digitValue (b : UInt8) : Nat := b.toNat - 48

def hexValue? (b : UInt8) : Option Nat :=
  if 48 ≤ b ∧ b ≤ 57 then some (b.toNat - 48)
  else if 65 ≤ b ∧ b ≤ 70 then some (b.toNat - 55)
  else if 97 ≤ b ∧ b ≤ 102 then some (b.toNat - 87)
  else none

def hexUnit? (a b c d : UInt8) : Option Nat := do
  return (← hexValue? a) * 4096 + (← hexValue? b) * 256 + (← hexValue? c) * 16 + (← hexValue? d)

inductive Piece
  | byte (value : UInt8)
  | unit (value : Nat)

def escaped? (b : UInt8) : Option UInt8 :=
  if b = 34 ∨ b = 92 ∨ b = 47 then some b
  else if b = 98 then some 8
  else if b = 102 then some 12
  else if b = 110 then some 10
  else if b = 114 then some 13
  else if b = 116 then some 9
  else none

def pieces? : List UInt8 → Option (List Piece × List UInt8)
  | [] => none
  | 34 :: rest => some ([], rest)
  | 92 :: 117 :: a :: b :: c :: d :: rest => do
    let u ← hexUnit? a b c d
    let (ps, after) ← pieces? rest
    return (.unit u :: ps, after)
  | 92 :: b :: rest => do
    let e ← escaped? b
    let (ps, after) ← pieces? rest
    return (.byte e :: ps, after)
  | b :: rest =>
    if b < 32 ∨ b = 92 then none
    else do
      let (ps, after) ← pieces? rest
      return (.byte b :: ps, after)

def spell? : List Piece → Option (List UInt8)
  | [] => some []
  | .byte b :: rest => (spell? rest).map (b :: ·)
  | .unit u :: rest =>
    if u < 0xD800 ∨ 0xDFFF < u then (spell? rest).map (Text.Utf8.encodeChar (Char.ofNat u) ++ ·)
    else if 0xDC00 ≤ u then none
    else
      match rest with
      | .unit v :: more =>
        if 0xDC00 ≤ v ∧ v ≤ 0xDFFF then
          (spell? more).map
            (Text.Utf8.encodeChar (Char.ofNat (0x10000 + (u - 0xD800) * 0x400 + (v - 0xDC00))) ++ ·)
        else none
      | _ => none

def stringOf (ps : List Piece) : Option String := do
  Text.Utf8.decode? (← spell? ps)

structure Numeral where
  negative : Bool
  units : List Nat
  fraction : List Nat
  exponent : Option Int

namespace Numeral

def limit : Nat := 18446744073709551616

def accumulate : Nat → List Nat → Nat × List Nat
  | n, [] => (n, [])
  | n, d :: ds => if n * 10 + d < limit then accumulate (n * 10 + d) ds else (n, d :: ds)

/-- Whole numbers that fit stay whole, except minus zero; all else becomes a binary fraction, from
the digits that fit 64 bits. -/
def value? (n : Numeral) : Option Number :=
  let (significand, dropped) := accumulate 0 n.units
  let fits := dropped = [] ∧ n.fraction = [] ∧ n.exponent = none
  if fits ∧ n.negative = false then some (.whole significand)
  else if fits ∧ 0 < significand ∧ significand ≤ 9223372036854775808 then
    some (.whole (-(significand : Int)))
  else
    let (digits, rest) := accumulate significand n.fraction
    let e : Int := dropped.length - (n.fraction.length - rest.length : Nat) + n.exponent.getD 0
    (Number.Double.ofDecimal? n.negative digits e).map .double

end Numeral

def takeDigits (bs : List UInt8) : List Nat × List UInt8 :=
  ((bs.takeWhile isDigit).map digitValue, bs.dropWhile isDigit)

def natOf (digits : List Nat) : Nat := digits.foldl (fun n d => n * 10 + d) 0

def fraction? : List UInt8 → Option (List Nat × List UInt8)
  | 46 :: rest =>
    let (ds, after) := takeDigits rest
    if ds = [] then none else some (ds, after)
  | bs => some ([], bs)

def exponent? : List UInt8 → Option (Option Int × List UInt8)
  | b :: rest =>
    if b = 101 ∨ b = 69 then
      let (sign, digits) : Int × List UInt8 :=
        match rest with
        | 43 :: more => (1, more)
        | 45 :: more => (-1, more)
        | more => (1, more)
      let (ds, after) := takeDigits digits
      if ds = [] then none else some (some (sign * natOf ds), after)
    else some (none, b :: rest)
  | [] => some (none, [])

def numeral? (negative : Bool) (bs : List UInt8) : Option (Numeral × List UInt8) := do
  let (units, afterUnits) := takeDigits bs
  if units = [] ∨ (units.head? = some 0 ∧ units.length ≠ 1) then none
  let (fraction, afterFraction) ← fraction? afterUnits
  let (exponent, rest) ← exponent? afterFraction
  return (⟨negative, units, fraction, exponent⟩, rest)

def numberOf : Option (Numeral × List UInt8) → Doc × List UInt8
  | some (n, rest) => (.number n.value?, rest)
  | none => (.broken, [])

mutual

def readValue : Nat → List UInt8 → Doc × List UInt8
  | 0, _ => (.broken, [])
  | fuel + 1, bs =>
    match skipSpace bs with
    | 110 :: 117 :: 108 :: 108 :: rest => (.null, rest)
    | 116 :: 114 :: 117 :: 101 :: rest => (.bool true, rest)
    | 102 :: 97 :: 108 :: 115 :: 101 :: rest => (.bool false, rest)
    | 34 :: rest =>
      match pieces? rest with
      | some (ps, after) => (.string (stringOf ps), after)
      | none => (.broken, [])
    | 91 :: rest =>
      match skipSpace rest with
      | 93 :: after => (.array [] true, after)
      | inside =>
        let (items, closed, after) := readItems fuel inside
        (.array items closed, after)
    | 123 :: rest =>
      match skipSpace rest with
      | 125 :: after => (.object [] true, after)
      | inside =>
        let (members, closed, after) := readMembers fuel inside
        (.object members closed, after)
    | 45 :: rest => numberOf (numeral? true rest)
    | rest => numberOf (numeral? false rest)

def readItems : Nat → List UInt8 → List Doc × Bool × List UInt8
  | 0, _ => ([], false, [])
  | fuel + 1, bs =>
    let (item, rest) := readValue fuel bs
    if item.whole = false then ([item], false, [])
    else
      match skipSpace rest with
      | 44 :: more =>
        let (items, closed, after) := readItems fuel more
        (item :: items, closed, after)
      | 93 :: after => ([item], true, after)
      | _ => ([item], false, [])

def readMembers : Nat → List UInt8 → List (Option String × Doc) × Bool × List UInt8
  | 0, _ => ([], false, [])
  | fuel + 1, bs =>
    match skipSpace bs with
    | 34 :: rest =>
      match pieces? rest with
      | none => ([], false, [])
      | some (ps, afterKey) =>
        match skipSpace afterKey with
        | 58 :: more =>
          let (value, rest) := readValue fuel more
          if value.whole = false then ([(stringOf ps, value)], false, [])
          else
            match skipSpace rest with
            | 44 :: more =>
              let (members, closed, after) := readMembers fuel more
              ((stringOf ps, value) :: members, closed, after)
            | 125 :: after => ([(stringOf ps, value)], true, after)
            | _ => ([(stringOf ps, value)], false, [])
        | _ => ([(stringOf ps, .broken)], false, [])
    | _ => ([], false, [])

end

def read (bs : List UInt8) : Doc × List UInt8 := readValue (2 * bs.length + 2) bs

end Doc

mutual

def toDoc : Json → Doc
  | .null => .null
  | .bool b => .bool b
  | .number n => .number (some n)
  | .string s => .string (some s)
  | .array items => .array (toDocs items) true
  | .object members => .object (memberDocs members) true

def toDocs : List Json → List Doc
  | [] => []
  | j :: js => toDoc j :: toDocs js

def memberDocs : List (String × Json) → List (Option String × Doc)
  | [] => []
  | (key, j) :: js => (some key, toDoc j) :: memberDocs js

end

end AccessWindow.Json
