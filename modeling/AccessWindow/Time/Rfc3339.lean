import AccessWindow.Text.Blank
import AccessWindow.Time.Instant

/-! Instants as text, in the form of RFC 3339. Written instants are in UTC. Two readers: the lenient
one takes signed years, short fields, blanks between the parts and `UTC` as an offset, the strict
one only the standard form. -/

namespace AccessWindow.Time.Rfc3339

inductive Complaint
  | tooShort
  | misplaced
  | outOfRange
  | trailing
  | nowhere
  deriving DecidableEq

def Complaint.text : Complaint → String
  | .tooShort => "premature end of input"
  | .misplaced => "input contains invalid characters"
  | .outOfRange => "input is out of range"
  | .trailing => "trailing input"
  | .nowhere => "no possible date and time matching input"

abbrev Scan := StateT (List Char) (Except Complaint)

namespace Scan

def blanks : Scan Unit := modify (·.dropWhile Text.isBlank)

def isDigit (c : Char) : Bool := '0' ≤ c && c ≤ '9'

def digitValue (c : Char) : Nat := c.toNat - 48

def natOf (cs : List Char) : Nat := cs.foldl (fun n c => n * 10 + digitValue c) 0

def char (allowed : List Char) : Scan Char := fun
  | [] => .error .tooShort
  | c :: rest => if allowed.contains c then .ok (c, rest) else .error .misplaced

def byteLength (cs : List Char) : Nat := cs.foldl (fun n c => n + c.utf8Size) 0

def number (least : Nat) (most : Option Nat) : Scan Nat := fun cs =>
  let digits := (most.elim cs cs.take).takeWhile isDigit
  if byteLength cs < least then .error .tooShort
  else if digits.length < least then .error .misplaced
  else if 9223372036854775808 ≤ natOf digits then .error .outOfRange
  else .ok (natOf digits, cs.drop digits.length)

def field (low high least most : Nat) : Scan Nat := do
  let n ← number least (some most)
  if low ≤ n ∧ n ≤ high then return n else throw .outOfRange

def fraction : Scan Nat := fun
  | '.' :: rest =>
    match number 1 (some 9) rest with
    | .error e => .error e
    | .ok (n, after) =>
      .ok (n * Nat.pow 10 (9 - (rest.length - after.length)), after.dropWhile isDigit)
  | cs => .ok (0, cs)

def digitPair : Scan (Char × Char) := fun cs =>
  match cs with
  | a :: b :: rest => .ok ((a, b), rest)
  | cs => .error (if byteLength cs < 2 then .tooShort else .misplaced)

def hours : Scan Nat := do
  let (a, b) ← digitPair
  if isDigit a ∧ isDigit b then return natOf [a, b] else throw .misplaced

def minutes : Scan Nat := do
  let (a, b) ← digitPair
  if isDigit a ∧ isDigit b then
    if a ≤ '5' then return natOf [a, b] else throw .outOfRange
  else throw .misplaced

def offset (separator : Scan Unit) : Scan Int := do
  let sign ← char ['Z', 'z', '+', '-', Char.ofNat 0x2212]
  if sign = 'Z' ∨ sign = 'z' then return 0
  let h ← hours
  separator
  let m ← minutes
  let span : Int := h * 3600 + m * 60
  return if sign = '+' then span else -span

end Scan

structure Parts where
  year : Int
  month : Nat
  day : Nat
  hour : Nat
  minute : Nat
  second : Nat
  nanos : Nat
  offset : Int
  deriving DecidableEq

def Parts.instant (p : Parts) : Except Complaint Instant :=
  let date : Date := ⟨p.year, p.month, p.day⟩
  let day := date.dayNumber
  if ¬ date.real ∨ day < firstDay ∨ lastDay < day then .error .outOfRange
  else if 86400 ≤ p.offset.natAbs then .error .outOfRange
  else
    let (second, nanos) :=
      if p.second = 60 then (59, p.nanos + nanosPerSecond) else (p.second, p.nanos)
    let clock : Int := p.hour * 3600 + p.minute * 60 + second
    match Instant.ofParts? (day * 86400 + clock - p.offset) nanos with
    | some t => .ok t
    | none => .error .nowhere

def looseField (low high most : Nat) : Scan Nat := do
  Scan.blanks
  Scan.field low high 1 most

def looseChar (c : Char) : Scan Unit := do
  Scan.blanks
  let _ ← Scan.char [c]

/-- A year without a sign has at most four digits. -/
def looseYear : Scan Int := do
  Scan.blanks
  let sign := (← get).head?
  let year : Int ←
    if sign = some '-' ∨ sign = some '+' then do
      modify (·.drop 1)
      let n ← Scan.number 1 none
      pure (if sign = some '-' then -(n : Int) else n)
    else do
      let n ← Scan.number 1 (some 4)
      pure (n : Int)
  if -2147483648 ≤ year ∧ year ≤ 2147483647 then return year else throw .outOfRange

def looseOffset : Scan Int := do
  Scan.blanks
  let cs ← get
  if (cs.take 3).map Char.toLower = ['u', 't', 'c'] then do
    set (cs.drop 3)
    return 0
  else Scan.offset (modify (·.dropWhile fun c => c = ':' || Text.isBlank c))

def looseParts : Scan Parts := do
  let year ← looseYear
  looseChar '-'
  let month ← looseField 1 12 2
  looseChar '-'
  let day ← looseField 1 31 2
  let _ ← Scan.char ['t', 'T', ' ']
  let hour ← looseField 0 23 2
  looseChar ':'
  let minute ← looseField 0 59 2
  looseChar ':'
  let second ← looseField 0 60 2
  let nanos ← Scan.fraction
  let offset ← looseOffset
  return ⟨year, month, day, hour, minute, second, nanos, offset⟩

def read (s : String) : Except Complaint Instant := do
  let (parts, rest) ← looseParts.run s.toList
  if rest.all Text.isBlank then parts.instant else throw .trailing

def strictParts : Scan Parts := do
  let year ← Scan.field 0 9999 4 4
  let _ ← Scan.char ['-']
  let month ← Scan.field 1 12 2 2
  let _ ← Scan.char ['-']
  let day ← Scan.field 1 31 2 2
  let _ ← Scan.char ['t', 'T', ' ']
  let hour ← Scan.field 0 23 2 2
  let _ ← Scan.char [':']
  let minute ← Scan.field 0 59 2 2
  let _ ← Scan.char [':']
  let second ← Scan.field 0 60 2 2
  let nanos ← Scan.fraction
  let offset ← Scan.offset (do let _ ← Scan.char [':'])
  return ⟨year, month, day, hour, minute, second, nanos, offset⟩

def readStrict? (s : String) : Option Instant :=
  match strictParts.run s.toList with
  | .ok (parts, []) => if parts.offset.natAbs ≤ 86340 then parts.instant.toOption else none
  | _ => none

def padded (width n : Nat) : String :=
  let ds := Nat.toDigits 10 n
  String.ofList (List.replicate (width - ds.length) '0' ++ ds)

/-- Years outside 0 to 9999 carry a sign. -/
def yearText (year : Int) : String :=
  if 0 ≤ year ∧ year ≤ 9999 then padded 4 year.toNat
  else (if year < 0 then "-" else "+") ++ padded 4 year.natAbs

def secondsText (t : Instant) : String :=
  let date := Date.ofDayNumber (t.seconds / 86400)
  let clock := (t.seconds % 86400).toNat
  let second := clock % 60 + (if t.isLeap then 1 else 0)
  yearText date.year ++ "-" ++ padded 2 date.month ++ "-" ++ padded 2 date.day ++ "T"
    ++ padded 2 (clock / 3600) ++ ":" ++ padded 2 (clock / 60 % 60) ++ ":" ++ padded 2 second

def fractionText (nanos : Nat) : String :=
  let n := nanos % nanosPerSecond
  if n = 0 then ""
  else if n % 1000000 = 0 then "." ++ padded 3 (n / 1000000)
  else if n % 1000 = 0 then "." ++ padded 6 (n / 1000)
  else "." ++ padded 9 n

def text (t : Instant) : String := secondsText t ++ fractionText t.nanos ++ "Z"

def offsetText (t : Instant) : String := secondsText t ++ fractionText t.nanos ++ "+00:00"

def millisText (t : Instant) : String :=
  secondsText t ++ "." ++ padded 3 (t.nanos % nanosPerSecond / 1000000) ++ "+0000"

end AccessWindow.Time.Rfc3339
