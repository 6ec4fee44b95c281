import AccessWindow.Unicode.Property

namespace AccessWindow.Text

def hexDigits (n : Nat) : List Char := Nat.toDigits 16 n

/-- Characters that extend the one before them would not show alone, so they are escaped as well. -/
def literalChar (c : Char) : List Char :=
  if c = '"' then ['\\', '"']
  else if c = '\\' then ['\\', '\\']
  else if c = '\n' then ['\\', 'n']
  else if c = '\r' then ['\\', 'r']
  else if c = '\t' then ['\\', 't']
  else if c.toNat = 0 then ['\\', '0']
  else if c.toNat < 0x7F ∧ 0x20 ≤ c.toNat then [c]
  else if Unicode.Property.printable c.toNat
      ∧ ¬ Unicode.Property.graphemeExtend.contains c.toNat then [c]
  else ['\\', 'u', '\x7b'] ++ hexDigits c.toNat ++ ['\x7d']

def literal (s : String) : String := String.ofList ('"' :: (s.toList.flatMap literalChar ++ ['"']))

end AccessWindow.Text
