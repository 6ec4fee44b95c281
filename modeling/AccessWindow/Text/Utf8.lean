/-! Characters as bytes, and back. Reading finds each character or each longest piece that begins
one but does not finish it; the strict reader refuses such pieces and the lenient one puts U+FFFD in
their place. -/

namespace AccessWindow.Text.Utf8

def tail (n : Nat) : UInt8 := UInt8.ofNat (0x80 + n % 64)

def encodeChar (c : Char) : List UInt8 :=
  let n := c.toNat
  if n < 0x80 then [UInt8.ofNat n]
  else if n < 0x800 then [UInt8.ofNat (0xC0 + n / 64), tail n]
  else if n < 0x10000 then [UInt8.ofNat (0xE0 + n / 4096), tail (n / 64), tail n]
  else [UInt8.ofNat (0xF0 + n / 262144), tail (n / 4096), tail (n / 64), tail n]

def encodeChars (cs : List Char) : List UInt8 := cs.flatMap encodeChar

def encode (s : String) : List UInt8 := encodeChars s.toList

/-- What a first byte announces: its share of the code point, how many bytes follow, and the range
of the next one. -/
structure Lead where
  share : Nat
  following : Nat
  low : Nat
  high : Nat
  deriving DecidableEq

def Lead.of? (b : Nat) : Option Lead :=
  if b < 0x80 then some ⟨b, 0, 0x80, 0xBF⟩
  else if b < 0xC2 then none
  else if b < 0xE0 then some ⟨b - 0xC0, 1, 0x80, 0xBF⟩
  else if b = 0xE0 then some ⟨0, 2, 0xA0, 0xBF⟩
  else if b = 0xED then some ⟨0xD, 2, 0x80, 0x9F⟩
  else if b < 0xF0 then some ⟨b - 0xE0, 2, 0x80, 0xBF⟩
  else if b = 0xF0 then some ⟨0, 3, 0x90, 0xBF⟩
  else if b < 0xF4 then some ⟨b - 0xF0, 3, 0x80, 0xBF⟩
  else if b = 0xF4 then some ⟨4, 3, 0x80, 0x8F⟩
  else none

def follow : Nat → Nat → Nat → Nat → List UInt8 → Option Nat × List UInt8
  | 0, _, _, code, bs => (some code, bs)
  | _ + 1, _, _, _, [] => (none, [])
  | n + 1, low, high, code, b :: bs =>
    if low ≤ b.toNat ∧ b.toNat ≤ high then follow n 0x80 0xBF (code * 64 + (b.toNat - 0x80)) bs
    else (none, b :: bs)

theorem follow_length_le (n low high code : Nat) (bs : List UInt8) :
    (follow n low high code bs).2.length ≤ bs.length := by
  induction n generalizing low high code bs with
  | zero => simp [follow]
  | succ n ih =>
    cases bs with
    | nil => simp [follow]
    | cons b bs =>
      simp only [follow]
      split
      · exact Nat.le_succ_of_le (ih ..)
      · simp

/-- The characters of a byte sequence in order, with `none` for each piece that is not one. -/
def scan : List UInt8 → List (Option Char)
  | [] => []
  | b :: bs =>
    match Lead.of? b.toNat with
    | none => none :: scan bs
    | some lead =>
      let found := follow lead.following lead.low lead.high lead.share bs
      found.1.map Char.ofNat :: scan found.2
termination_by bs => bs.length
decreasing_by
  · simp
  · exact Nat.lt_succ_of_le (follow_length_le ..)

def gather : List (Option Char) → Option (List Char)
  | [] => some []
  | none :: _ => none
  | some c :: rest => (gather rest).map (c :: ·)

def decodeChars? (bs : List UInt8) : Option (List Char) := gather (scan bs)

def decode? (bs : List UInt8) : Option String := (decodeChars? bs).map String.ofList

def replacement : Char := Char.ofNat 0xFFFD

def decodeLossy (bs : List UInt8) : String :=
  String.ofList ((scan bs).map (·.getD replacement))

end AccessWindow.Text.Utf8
