namespace AccessWindow.Text

def isBlank (c : Char) : Bool :=
  let n := c.toNat
  (9 ≤ n && n ≤ 13) || n = 0x20 || n = 0x85 || n = 0xA0 || n = 0x1680
    || (0x2000 ≤ n && n ≤ 0x200A) || n = 0x2028 || n = 0x2029 || n = 0x202F || n = 0x205F
    || n = 0x3000

def trimChars (cs : List Char) : List Char :=
  ((cs.dropWhile isBlank).reverse.dropWhile isBlank).reverse

def trim (s : String) : String := String.ofList (trimChars s.toList)

def blank (s : String) : Bool := s.toList.all isBlank

def asciiLower (s : String) : String := String.ofList (s.toList.map Char.toLower)

def eqIgnoreCase (s t : String) : Bool := asciiLower s = asciiLower t

def join (separator : String) (parts : List String) : String := separator.intercalate parts

example : trim "\u3000 a b\t" = "a b" := by decide +kernel
example : blank "\u00A0\u2028" ∧ ¬ blank "\u200B" := by decide +kernel

end AccessWindow.Text
