import AccessWindow.Net.Address
import AccessWindow.Unicode.Category
import AccessWindow.Url.Punycode
import AccessWindow.Url.Basic

namespace AccessWindow.Url.Host

def isForbidden (c : Char) : Bool :=
  isControl c || [' ', '%', '#', '/', ':', '<', '>', '?', '@', '[', '\\', ']', '^', '|'].contains c

def isMisplaced (c : Char) : Bool :=
  [Char.ofNat 0, '\t', '\n', '\r', ' ', '#', '/', ':', '<', '>', '?', '@', '[', '\\', ']', '^', '|']
    |>.contains c

def isIgnored (c : Char) : Bool := [0xAD, 0x200B, 0x2060, 0xFEFF].contains c.toNat

def unnamed : Unicode.Intervals :=
  ["C", "Z"].foldl (fun s name => s.union (Unicode.Category.members name)) []

def marks : Unicode.Intervals := Unicode.Category.members "M"

def isSpelled (ns : List Nat) : Bool :=
  ns.all (fun n => n < 0x80 || !(unnamed.contains n))
    && !(ns.head?.any fun n => 0x80 ≤ n && marks.contains n)

/-- A part of a name in its written form; the part after `xn--` describes characters beyond
ASCII. -/
def isLabel (cs : List Char) : Bool :=
  match cs with
  | 'x' :: 'n' :: '-' :: '-' :: code =>
    match Punycode.decode? code with
    | some ns => ns.any (0x80 ≤ ·) && isSpelled ns
    | none => false
  | _ => isSpelled (cs.map Char.toNat)

def name? (bs : List UInt8) : Option (List Char) :=
  match Text.Utf8.decodeChars? bs with
  | none => none
  | some cs =>
    let cs := (cs.filter (!isIgnored ·)).map Char.toLower
    if cs.any isForbidden then none
    else if (Text.pieces '.' cs).all isLabel then some cs
    else none

def number? (cs : List Char) : Option Nat :=
  let read (radix : Nat) (cs : List Char) : Option Nat :=
    let (ds, rest) := Net.Address.digits radix cs
    if rest = [] then some (Net.Address.value radix ds) else none
  match cs with
  | [] => none
  | '0' :: x :: rest =>
    if x = 'x' ∨ x = 'X' then read 16 rest else read 8 (x :: rest)
  | cs => read 10 cs

def parts (cs : List Char) : List (List Char) :=
  match (Text.pieces '.' cs).reverse with
  | [] :: rest => rest.reverse
  | ps => ps.reverse

def endsInNumber (cs : List Char) : Bool :=
  match (parts cs).getLast? with
  | none => false
  | some part => (part ≠ [] && part.all Char.isDigit) || (number? part).isSome

/-- Up to four numbers; the last one fills the bytes that are left. -/
def four? (cs : List Char) : Option Net.Address := do
  let ns ← (parts cs).mapM number?
  match ns.reverse with
  | [] => none
  | last :: front =>
    if 4 < ns.length ∨ front.any (255 < ·) ∨ Nat.pow 256 (4 - front.length) ≤ last then none
    else
      let all := (List.range front.length).foldl
        (fun total i => total + (front.reverse.getD i 0) * Nat.pow 256 (3 - i)) last
      some (.four (all / 16777216) (all / 65536 % 256) (all / 256 % 256) (all % 256))

def six? (cs : List Char) : Option Net.Address :=
  match cs.getLast?, Net.Address.six? cs.dropLast with
  | some ']', some (groups, []) => some (.six groups)
  | _, _ => none

def readSix (cs : List Char) : Except Flaw String :=
  match six? cs with
  | some a => .ok ("[" ++ a.text ++ "]")
  | none => .error .badSix

def readKnown (cs : List Char) : Except Flaw String :=
  match cs with
  | [] => .error .emptyHost
  | '[' :: rest => readSix rest
  | cs =>
    match name? (Text.Percent.decode cs) with
    | none => .error .badName
    | some [] => .error .emptyHost
    | some name =>
      if endsInNumber name then
        match four? name with
        | some a => .ok a.text
        | none => .error .badFour
      else .ok (String.ofList name)

def readOther (cs : List Char) : Except Flaw String :=
  match cs with
  | '[' :: rest => readSix rest
  | cs =>
    if cs.any isMisplaced then .error .badCharacter
    else .ok (String.ofList (Text.Percent.encode isPlain cs))

end AccessWindow.Url.Host
