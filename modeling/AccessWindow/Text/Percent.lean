import AccessWindow.Text.Utf8

namespace AccessWindow.Text.Percent

def digit (n : Nat) : Char := "0123456789ABCDEF".toList.getD (n % 16) '0'

def escapeByte (b : UInt8) : List Char := ['%', digit (b.toNat / 16), digit b.toNat]

def escape (keep : Char → Bool) (c : Char) : List Char :=
  if keep c then [c] else (Utf8.encodeChar c).flatMap escapeByte

def encode (keep : Char → Bool) (cs : List Char) : List Char := cs.flatMap (escape keep)

def digitValue? (c : Char) : Option Nat :=
  if '0' ≤ c ∧ c ≤ '9' then some (c.toNat - 48)
  else if 'A' ≤ c ∧ c ≤ 'F' then some (c.toNat - 55)
  else if 'a' ≤ c ∧ c ≤ 'f' then some (c.toNat - 87)
  else none

def byte? (a b : Char) : Option UInt8 := do
  return UInt8.ofNat ((← digitValue? a) * 16 + (← digitValue? b))

/-- The bytes of a text, those behind percent signs included. A percent sign without two digits
after it stands for itself. -/
def decode : List Char → List UInt8
  | [] => []
  | ['%'] => [0x25]
  | ['%', a] => 0x25 :: decode [a]
  | '%' :: a :: b :: rest =>
    match byte? a b with
    | some byte => byte :: decode rest
    | none => 0x25 :: decode (a :: b :: rest)
  | c :: rest => Utf8.encodeChar c ++ decode rest

example : encode (· ≠ ' ') "a ".toList = "a%20".toList := by decide +kernel
example : decode "%4a%zz%".toList = Utf8.encode "J%zz%" := by decide +kernel

end AccessWindow.Text.Percent
