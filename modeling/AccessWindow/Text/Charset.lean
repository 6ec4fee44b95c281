import AccessWindow.Text.Utf8

namespace AccessWindow.Text.Charset

def units (high : UInt8 → UInt8 → Nat) : List UInt8 → List (Option Nat)
  | a :: b :: rest => some (high a b) :: units high rest
  | [_] => [none]
  | [] => []

def decodeUnits : List (Option Nat) → List Char
  | [] => []
  | none :: rest => Utf8.replacement :: decodeUnits rest
  | some u :: rest =>
    if u < 0xD800 ∨ 0xDFFF < u then Char.ofNat u :: decodeUnits rest
    else if 0xDC00 ≤ u then Utf8.replacement :: decodeUnits rest
    else
      match rest with
      | some v :: more =>
        if 0xDC00 ≤ v ∧ v ≤ 0xDFFF then
          Char.ofNat (0x10000 + (u - 0xD800) * 0x400 + (v - 0xDC00)) :: decodeUnits more
        else Utf8.replacement :: decodeUnits (some v :: more)
      | none :: more => Utf8.replacement :: decodeUnits more
      | [] => [Utf8.replacement]

def decode : List UInt8 → String
  | 0xEF :: 0xBB :: 0xBF :: rest => Utf8.decodeLossy rest
  | 0xFF :: 0xFE :: rest =>
    String.ofList (decodeUnits (units (fun a b => b.toNat * 256 + a.toNat) rest))
  | 0xFE :: 0xFF :: rest =>
    String.ofList (decodeUnits (units (fun a b => a.toNat * 256 + b.toNat) rest))
  | bs => Utf8.decodeLossy bs

end AccessWindow.Text.Charset
