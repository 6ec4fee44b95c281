namespace AccessWindow.Net

inductive Address
  | four (a b c d : Nat)
  | six (groups : List Nat)
  deriving DecidableEq

namespace Address

def digitValue? (radix : Nat) (c : Char) : Option Nat :=
  let n := c.toNat
  let value :=
    if '0' ≤ c ∧ c ≤ '9' then n - 48
    else if 'a' ≤ c ∧ c ≤ 'z' then n - 87
    else if 'A' ≤ c ∧ c ≤ 'Z' then n - 55
    else radix
  if value < radix then some value else none

def digits (radix : Nat) : List Char → List Nat × List Char
  | [] => ([], [])
  | c :: cs =>
    match digitValue? radix c with
    | none => ([], c :: cs)
    | some d =>
      let (ds, rest) := digits radix cs
      (d :: ds, rest)

def number? (radix longest : Nat) (cs : List Char) : Option (List Nat × List Char) :=
  let (ds, rest) := digits radix cs
  if ds = [] ∨ longest < ds.length then none else some (ds, rest)

def value (radix : Nat) (ds : List Nat) : Nat := ds.foldl (fun n d => n * radix + d) 0

def octet? (cs : List Char) : Option (Nat × List Char) := do
  let (ds, rest) ← number? 10 3 cs
  if value 10 ds < 256 ∧ (ds.head? ≠ some 0 ∨ ds.length = 1) then some (value 10 ds, rest) else none

def skip? (c : Char) : List Char → Option (List Char)
  | x :: cs => if x = c then some cs else none
  | [] => none

def four? (cs : List Char) : Option ((Nat × Nat × Nat × Nat) × List Char) := do
  let (a, cs) ← octet? cs
  let (b, cs) ← octet? (← skip? '.' cs)
  let (c, cs) ← octet? (← skip? '.' cs)
  let (d, cs) ← octet? (← skip? '.' cs)
  return ((a, b, c, d), cs)

/-- Up to so many groups with colons between them; the last two may be written as four bytes, and
the answer tells whether they are. -/
def groups : Nat → Bool → List Char → List Nat × Bool × List Char
  | 0, _, cs => ([], false, cs)
  | n + 1, isFirst, cs =>
    match if isFirst then some cs else skip? ':' cs with
    | none => ([], false, cs)
    | some start =>
      match if n = 0 then none else four? start with
      | some ((a, b, c, d), rest) => ([a * 256 + b, c * 256 + d], true, rest)
      | none =>
        match number? 16 4 start with
        | none => ([], false, cs)
        | some (ds, rest) =>
          let (more, dotted, rest) := groups n false rest
          (value 16 ds :: more, dotted, rest)

def six? (cs : List Char) : Option (List Nat × List Char) :=
  let (front, dotted, rest) := groups 8 true cs
  if front.length = 8 then some (front, rest)
  else if dotted then none
  else do
    let rest ← skip? ':' (← skip? ':' rest)
    let (back, _, rest) := groups (7 - front.length) true rest
    some (front ++ List.replicate (8 - front.length - back.length) 0 ++ back, rest)

def ofText? (s : String) : Option Address :=
  match four? s.toList with
  | some ((a, b, c, d), rest) => if rest = [] then some (four a b c d) else none
  | none =>
    match six? s.toList with
    | some (gs, []) => some (six gs)
    | _ => none

def fourText (a b c d : Nat) : String := ".".intercalate ([a, b, c, d].map toString)

def hexText (n : Nat) : String := String.ofList (Nat.toDigits 16 n)

def zeros (gs : List Nat) : Nat := (gs.takeWhile (· = 0)).length

def longestZeros (gs : List Nat) : Nat × Nat :=
  (List.range gs.length).foldl
    (fun best i => if best.2 < zeros (gs.drop i) then (i, zeros (gs.drop i)) else best) (0, 0)

def groupsText (gs : List Nat) : String := ":".intercalate (gs.map hexText)

def sixText (gs : List Nat) : String :=
  match gs with
  | [0, 0, 0, 0, 0, 0xFFFF, x, y] => "::ffff:" ++ fourText (x / 256) (x % 256) (y / 256) (y % 256)
  | _ =>
    let (start, length) := longestZeros gs
    if 1 < length then groupsText (gs.take start) ++ "::" ++ groupsText (gs.drop (start + length))
    else groupsText gs

def text : Address → String
  | four a b c d => fourText a b c d
  | six gs => sixText gs

def withService (a : Address) (service : Nat) : String :=
  match a with
  | four .. => a.text ++ ":" ++ toString service
  | six _ => "[" ++ a.text ++ "]:" ++ toString service

example : (ofText? "2001:db8:0:0:1::1").map text = some "2001:db8::1:0:0:1" := by decide +kernel
example : (ofText? "::FFFF:1.2.3.4").map text = some "::ffff:1.2.3.4" := by decide +kernel
example : ofText? "1.2.3.04" = none ∧ ofText? "1:2:3:4:5:6:7::8" = none := by decide +kernel

end Address

end AccessWindow.Net
