import AccessWindow.Pattern.Class
import AccessWindow.Text.Blank

namespace AccessWindow.Pattern

open Unicode

/-- The flags that are set at some point of a pattern. With `extended`, blanks and comments count
for nothing; without `unicode`, only ASCII characters belong to classes. -/
structure Flags where
  ignoreCase : Bool := false
  multiLine : Bool := false
  dotAll : Bool := false
  unicode : Bool := true
  anyLineEnd : Bool := false
  extended : Bool := false
  deriving DecidableEq

namespace Flags

def skipComments : Bool → List Char → List Char
  | _, [] => []
  | true, c :: cs => skipComments (c ≠ '\n') cs
  | false, c :: cs =>
    if Text.isBlank c then skipComments false cs
    else if c = '#' then skipComments true cs
    else c :: cs

def skip (f : Flags) (cs : List Char) : List Char :=
  if f.extended then skipComments false cs else cs

def advance (f : Flags) (cs : List Char) : List Char := f.skip (cs.drop 1)

def peek? (f : Flags) (cs : List Char) : Option Char :=
  let rest := cs.drop 1
  if f.extended then
    let seen :=
      match rest.dropWhile Text.isBlank with
      | '#' :: more => more.dropWhile Text.isBlank
      | other => other
    (seen.head?).or rest.head?
  else rest.head?

def letters : List Char := ['i', 'm', 's', 'U', 'u', 'R', 'x']

def set (f : Flags) (value : Bool) (letter : Char) : Flags :=
  if letter = 'i' then { f with ignoreCase := value }
  else if letter = 'm' then { f with multiLine := value }
  else if letter = 's' then { f with dotAll := value }
  else if letter = 'u' then { f with unicode := value }
  else if letter = 'R' then { f with anyLineEnd := value }
  else if letter = 'x' then { f with extended := value }
  else f

def apply (f : Flags) (value : Bool) : List Char → Flags
  | [] => f
  | c :: cs => if c = '-' then f.apply false cs else (f.set value c).apply value cs

def read? (seen : List Char) : List Char → Option (List Char × Char × List Char)
  | [] => none
  | c :: cs =>
    if c = ':' ∨ c = ')' then
      if seen.head? = some '-' then none else some (seen.reverse, c, cs)
    else if (c = '-' ∨ letters.contains c) ∧ ¬ seen.contains c then read? (c :: seen) cs
    else none

end Flags

def foldAndNegate? (f : Flags) (negated : Bool) (s : Intervals) : Option Intervals :=
  let s := if f.ignoreCase then fold f.unicode s else s
  if negated then (if f.unicode then some s.complement else none) else some s

inductive Escaped
  | char (value : Char) (asByte : Bool)
  | members (set : Intervals)
  | condition (k : Condition)

namespace Escaped

def isHex (c : Char) : Bool := ('0' ≤ c && c ≤ '9') || ('a' ≤ c && c ≤ 'f') || ('A' ≤ c && c ≤ 'F')

def charOfHex? (cs : List Char) : Option Char :=
  let n := Intervals.hexNat (cs.map Char.toLower)
  if cs = [] ∨ 0x10FFFF < n ∨ (0xD800 ≤ n ∧ n ≤ 0xDFFF) then none else some (Char.ofNat n)

def hexInBraces (f : Flags) : Nat → List Char → Option (List Char × List Char)
  | 0, _ => none
  | fuel + 1, cs =>
    match f.advance cs with
    | [] => none
    | '\x7d' :: rest => some ([], f.skip rest)
    | c :: rest =>
      if isHex c then (hexInBraces f fuel (c :: rest)).map fun (ds, after) => (c :: ds, after)
      else none

def hexDigits (f : Flags) : Nat → List Char → Option (List Char × List Char)
  | 0, cs => some ([], cs)
  | _ + 1, [] => none
  | n + 1, c :: cs =>
    if isHex c then (hexDigits f n (f.skip cs)).map fun (ds, after) => (c :: ds, after) else none

def hex? (f : Flags) (width : Nat) (cs : List Char) : Option (Escaped × List Char) :=
  match f.skip cs with
  | '\x7b' :: rest => do
    let (ds, after) ← hexInBraces f (rest.length + 2) ('\x7b' :: rest)
    return (.char (← charOfHex? ds) false, after)
  | digits => do
    let (ds, after) ← hexDigits f width digits
    let c ← charOfHex? ds
    let asByte := decide (width = 2)
    if asByte ∧ f.unicode = false ∧ 0x80 ≤ c.toNat then none
    return (.char c asByte, after)

def nameInBraces (f : Flags) : Nat → List Char → Option (List Char × List Char)
  | 0, _ => none
  | fuel + 1, cs =>
    match f.advance cs with
    | [] => none
    | '\x7d' :: rest => some ([], rest)
    | c :: rest => (nameInBraces f fuel (c :: rest)).map fun (ds, after) => (c :: ds, after)

def property? (f : Flags) (negated : Bool) (cs : List Char) : Option (Escaped × List Char) := do
  if f.unicode = false then none
  match f.skip cs with
  | [] => none
  | '\x7b' :: rest =>
    let (name, after) ← nameInBraces f (rest.length + 2) ('\x7b' :: rest)
    return (.members (← foldAndNegate? f negated (← Pattern.property? name)), after)
  | c :: rest =>
    if c = '\\' then none
    let s ← propertyNamed? (plainName [c])
    return (.members (← foldAndNegate? f negated s), f.skip rest)

def boundaryNamed? (unicode : Bool) (name : String) : Option Condition :=
  if name = "start" then some (.wordStart unicode)
  else if name = "end" then some (.wordEnd unicode)
  else if name = "start-half" then some (.noWordBefore unicode)
  else if name = "end-half" then some (.noWordAfter unicode)
  else none

def isBoundaryLetter (c : Char) : Bool := ('A' ≤ c && c ≤ 'Z') || ('a' ≤ c && c ≤ 'z') || c = '-'

def boundaryLetters (f : Flags) : Nat → List Char → List Char × List Char
  | 0, cs => ([], cs)
  | fuel + 1, cs =>
    match cs with
    | c :: rest =>
      if isBoundaryLetter c then
        let (name, after) := boundaryLetters f fuel (f.skip rest)
        (c :: name, after)
      else ([], c :: rest)
    | [] => ([], [])

/-- A word boundary, of which one side may be named in braces; braces that hold something else count
how often the boundary is repeated. -/
def boundary? (f : Flags) (cs : List Char) : Option (Escaped × List Char) :=
  match cs with
  | '\x7b' :: rest =>
    match f.skip rest with
    | [] => none
    | inside =>
      match boundaryLetters f (inside.length + 1) inside with
      | ([], _) => some (.condition (.wordBoundary f.unicode), cs)
      | (name, '\x7d' :: after) => do
        return (.condition (← boundaryNamed? f.unicode (String.ofList name)), after)
      | _ => none
  | _ => some (.condition (.wordBoundary f.unicode), cs)

def isAsciiLetterOrDigit (c : Char) : Bool :=
  ('0' ≤ c && c ≤ '9') || ('a' ≤ c && c ≤ 'z') || ('A' ≤ c && c ≤ 'Z')

def control? (c : Char) : Option Char :=
  List.lookup c [
    ('a', Char.ofNat 7), ('f', Char.ofNat 12), ('t', '\t'), ('n', '\n'), ('r', '\r'),
    ('v', Char.ofNat 11)]

def read? (f : Flags) : List Char → Option (Escaped × List Char)
  | [] => none
  | c :: rest =>
    if c = 'x' then hex? f 2 rest
    else if c = 'u' then hex? f 4 rest
    else if c = 'U' then hex? f 8 rest
    else if c = 'p' then property? f false rest
    else if c = 'P' then property? f true rest
    else if ['d', 's', 'w'].contains c then some (.members (letterClass f.unicode c), rest)
    else if ['D', 'S', 'W'].contains c then
      if f.unicode then some (.members (letterClass true c.toLower).complement, rest) else none
    else if c.toNat < 0x80 ∧ ¬ isAsciiLetterOrDigit c ∧ c ≠ '<' ∧ c ≠ '>' then
      some (.char c false, rest)
    else if let some k := control? c then some (.char k false, rest)
    else if c = 'A' then some (.condition .start, rest)
    else if c = 'z' then some (.condition .finish, rest)
    else if c = 'b' then boundary? f rest
    else if c = 'B' then some (.condition (.noWordBoundary f.unicode), rest)
    else if c = '<' then some (.condition (.wordStart f.unicode), rest)
    else if c = '>' then some (.condition (.wordEnd f.unicode), rest)
    else none

end Escaped

namespace Bracket

structure Union where
  members : Intervals := []
  items : Nat := 0
  depth : Nat := 0

namespace Union

def add (u : Union) (s : Intervals) (depth : Nat) : Union :=
  ⟨u.members ++ s, u.items + 1, max u.depth depth⟩

def nesting (u : Union) : Nat := if u.items ≤ 1 then u.depth else u.depth + 1

end Union

inductive Operator
  | intersection
  | difference
  | symmetricDifference

def Operator.apply : Operator → Intervals → Intervals → Intervals
  | intersection, s, t => s.inter t
  | difference, s, t => s.diff t
  | symmetricDifference, s, t => s.symmDiff t

inductive Frame
  | bracket (negated : Bool) (outer : Union)
  | operator (op : Operator) (left : Intervals) (depth : Nat)

def complete (f : Flags) (frames : List Frame) (u : Union) : Intervals × Nat × List Frame :=
  match frames with
  | .operator op left depth :: rest =>
    let side (s : Intervals) : Intervals := if f.ignoreCase then fold f.unicode s else s
    (op.apply (side left.normal) (side u.members.normal), max depth u.nesting + 1, rest)
  | frames => (u.members.normal, u.nesting, frames)

def leadingMinus (f : Flags) : Nat → Union → List Char → Union × List Char
  | 0, u, cs => (u, cs)
  | fuel + 1, u, cs =>
    match cs with
    | '-' :: rest => leadingMinus f fuel (u.add [(0x2D, 0x2D)] 0) (f.skip rest)
    | cs => (u, cs)

def open? (f : Flags) (cs : List Char) : Option (Bool × Union × List Char) :=
  let cs := f.skip cs
  let (negated, cs) : Bool × List Char :=
    match cs with
    | '^' :: rest => (true, f.skip rest)
    | cs => (false, cs)
  match leadingMinus f (cs.length + 1) {} cs with
  | (_, []) => none
  | (u, ']' :: rest) =>
    if u.items = 0 then
      match f.skip rest with
      | [] => none
      | more => some (negated, u.add [(0x5D, 0x5D)] 0, more)
    else some (negated, u, ']' :: rest)
  | (u, cs) => some (negated, u, cs)

def posix? (cs : List Char) : Option (Bool × Intervals × List Char) :=
  match cs with
  | '[' :: ':' :: rest =>
    let (negated, rest) : Bool × List Char :=
      match rest with
      | '^' :: more => (true, more)
      | more => (false, more)
    match rest.dropWhile (· ≠ ':') with
    | ':' :: ']' :: after =>
      let name := String.ofList (rest.takeWhile (· ≠ ':'))
      (posixClasses.lookup name).map fun s => (negated, s, after)
    | _ => none
  | _ => none

def item? (f : Flags) : List Char → Option (Escaped × List Char)
  | '\\' :: rest => Escaped.read? f rest
  | c :: rest => some (.char c false, rest)
  | [] => none

def codePoint? (f : Flags) : Escaped → Option Nat
  | .char c _ => if f.unicode ∨ c.toNat < 0x80 then some c.toNat else none
  | _ => none

def members? (f : Flags) : Escaped → Option Intervals
  | .members s => some s
  | e => (codePoint? f e).map fun n => [(n, n)]

def range? (f : Flags) (cs : List Char) : Option (Intervals × List Char) := do
  let (first, rest) ← item? f cs
  match f.skip rest with
  | [] => none
  | c :: more =>
    let next := f.peek? (c :: more)
    if c ≠ '-' ∨ next = some ']' ∨ next = some '-' then return (← members? f first, c :: more)
    let afterSign := f.skip more
    if afterSign = [] then none
    let (last, after) ← item? f afterSign
    let low ← codePoint? f first
    let high ← codePoint? f last
    if low ≤ high then return ([(low, high)], after) else none

def rest? (f : Flags) : Nat → List Frame → Union → List Char → Option (Intervals × Nat × List Char)
  | 0, _, _, _ => none
  | fuel + 1, frames, u, cs =>
    let operator (op : Operator) (after : List Char) : Option (Intervals × Nat × List Char) :=
      let (left, depth, frames) := complete f frames u
      rest? f fuel (.operator op left depth :: frames) {} after
    match f.skip cs with
    | [] => none
    | '[' :: rest =>
      match posix? ('[' :: rest) with
      | some (negated, s, after) => do
        rest? f fuel frames (u.add (← foldAndNegate? f negated s) 0) after
      | none => do
        let (negated, inner, after) ← open? f rest
        rest? f fuel (.bracket negated u :: frames) inner after
    | ']' :: rest =>
      match complete f frames u with
      | (s, depth, .bracket negated outer :: frames) => do
        let s ← foldAndNegate? f negated s
        if frames.isEmpty then return (s, depth + 1, rest)
        else rest? f fuel frames (outer.add s (depth + 1)) rest
      | _ => none
    | '&' :: '&' :: rest => operator .intersection rest
    | '-' :: '-' :: rest => operator .difference rest
    | '~' :: '~' :: rest => operator .symmetricDifference rest
    | cs => do
      let (s, after) ← range? f cs
      rest? f fuel frames (u.add s 0) after

def read? (f : Flags) (cs : List Char) : Option (Intervals × Nat × List Char) := do
  let (negated, u, after) ← open? f cs
  rest? f (after.length + 1) [.bracket negated {}] u after

end Bracket

def decimalDigits (f : Flags) : Nat → List Char → List Char × List Char
  | 0, cs => ([], cs)
  | fuel + 1, cs =>
    match cs with
    | c :: rest =>
      if '0' ≤ c ∧ c ≤ '9' then
        let (ds, after) := decimalDigits f fuel (f.skip rest)
        (c :: ds, after)
      else ([], c :: rest)
    | [] => ([], [])

def decimal? (f : Flags) (cs : List Char) : Option (Nat × List Char) :=
  let cs := cs.dropWhile Text.isBlank
  let (ds, rest) := decimalDigits f (cs.length + 1) cs
  let n := ds.foldl (fun n c => n * 10 + (c.toNat - 48)) 0
  if ds = [] ∨ 4294967296 ≤ n then none else some (n, f.skip (rest.dropWhile Text.isBlank))

def counts? (f : Flags) (cs : List Char) : Option (Nat × Option Nat × List Char) := do
  let cs := f.skip cs
  if cs = [] then none
  let (least, rest) ← decimal? f cs
  match rest with
  | '\x7d' :: after => return (least, some least, after)
  | ',' :: more =>
    match f.skip more with
    | '\x7d' :: after => return (least, none, after)
    | [] => none
    | more =>
      let (most, rest) ← decimal? f more
      match rest with
      | '\x7d' :: after => if least ≤ most then return (least, some most, after) else none
      | _ => none
  | _ => none

inductive Part
  | flags
  | piece (p : Pattern) (depth : Nat)

namespace Part

def pattern : Part → Pattern
  | flags => .empty
  | piece p _ => p

def depth : Part → Nat
  | flags => 0
  | piece _ d => d

def sequence : List Part → Pattern × Nat
  | [] => (.empty, 0)
  | [part] => (part.pattern, part.depth)
  | last :: before =>
    (before.foldl (fun p part => .seq part.pattern p) last.pattern,
      (last :: before).foldl (fun d part => max d part.depth) 0 + 1)

end Part

structure Group where
  flags : Flags := {}
  parts : List Part := []
  branches : List (Pattern × Nat) := []

def Group.finish (g : Group) : Pattern × Nat :=
  let last := Part.sequence g.parts
  match g.branches with
  | [] => last
  | branches =>
    (branches.foldl (fun p b => .either b.1 p) last.1,
      branches.foldl (fun d b => max d b.2) last.2 + 1)

structure Reader where
  group : Group := {}
  outer : List Group := []
  names : List (List Char) := []

namespace Reader

def push (r : Reader) (p : Pattern) (depth : Nat) : Reader :=
  { r with group := { r.group with parts := .piece p depth :: r.group.parts } }

def enter (r : Reader) (flags : Flags) : Reader :=
  { r with group := { flags }, outer := r.group :: r.outer }

def setFlags (r : Reader) (flags : Flags) : Reader :=
  { r with group := { r.group with flags, parts := .flags :: r.group.parts } }

def isNameChar (first : Bool) (c : Char) : Bool :=
  let n := c.toNat
  c = '_' || Property.alphabetic.contains n ||
    (!first && (c = '.' || c = '[' || c = ']' || (Category.members "N").contains n))

def name? (cs : List Char) : Option (List Char × List Char) :=
  let name := cs.takeWhile (· ≠ '>')
  match name, cs.dropWhile (· ≠ '>') with
  | c :: more, '>' :: after =>
    if isNameChar true c ∧ more.all (isNameChar false) then some (c :: more, after) else none
  | _, _ => none

def enterNamed? (r : Reader) (cs : List Char) : Option (Reader × List Char) := do
  let (name, after) ← name? cs
  if r.names.contains name then none
  return ({ r with names := name :: r.names }.enter r.group.flags, after)

def group? (r : Reader) (cs : List Char) : Option (Reader × List Char) :=
  let flags := r.group.flags
  match flags.skip cs with
  | '?' :: '=' :: _ => none
  | '?' :: '!' :: _ => none
  | '?' :: '<' :: '=' :: _ => none
  | '?' :: '<' :: '!' :: _ => none
  | '?' :: 'P' :: '<' :: rest => r.enterNamed? rest
  | '?' :: '<' :: rest => r.enterNamed? rest
  | '?' :: rest => do
    let (letters, last, after) ← Flags.read? [] rest
    let inside := flags.apply true letters
    if last = ':' then return (r.enter inside, after)
    else if letters = [] then none
    else return (r.setFlags inside, after)
  | rest => some (r.enter flags, rest)

def leave? (r : Reader) : Option Reader :=
  match r.outer with
  | [] => none
  | outer :: more =>
    let (p, depth) := r.group.finish
    some ({ r with group := outer, outer := more }.push p (depth + 1))

def branch (r : Reader) : Reader :=
  let g := r.group
  { r with group := { g with parts := [], branches := Part.sequence g.parts :: g.branches } }

def repeat? (r : Reader) (least : Nat) (most : Option Nat) : Option Reader :=
  match r.group.parts with
  | .piece p depth :: before =>
    let part := Part.piece (.repeated p least most) (depth + 1)
    some { r with group := { r.group with parts := part :: before } }
  | _ => none

def dropMark : List Char → List Char
  | '?' :: rest => rest
  | rest => rest

def literal (f : Flags) (c : Char) : Pattern :=
  let alone : Intervals := [(c.toNat, c.toNat)]
  .one (if f.ignoreCase ∧ (f.unicode ∨ c.toNat < 0x80) then fold f.unicode alone else alone)

def anyChar? (f : Flags) : Option Pattern :=
  if f.unicode = false then none
  else if f.dotAll then some (.one Intervals.all)
  else if f.anyLineEnd then some (.one (Intervals.complement [(0xA, 0xA), (0xD, 0xD)]))
  else some (.one (Intervals.complement [(0xA, 0xA)]))

def escaped (f : Flags) : Escaped → Pattern
  | .char c _ => literal f c
  | .members s => .one s
  | .condition k => .at k

def atLineStart (f : Flags) : Condition :=
  if f.multiLine then (if f.anyLineEnd then .anyLineStart else .lineStart) else .start

def atLineEnd (f : Flags) : Condition :=
  if f.multiLine then (if f.anyLineEnd then .anyLineEnd else .lineEnd) else .finish

def step? (r : Reader) (c : Char) (rest : List Char) : Option (Reader × List Char) :=
  let f := r.group.flags
  if c = '(' then r.group? rest
  else if c = ')' then r.leave?.map fun r => (r, rest)
  else if c = '|' then some (r.branch, rest)
  else if c = '[' then do
    let (s, depth, after) ← Bracket.read? f rest
    return (r.push (.one s) depth, after)
  else if c = '?' then (r.repeat? 0 (some 1)).map fun r => (r, dropMark rest)
  else if c = '*' then (r.repeat? 0 none).map fun r => (r, dropMark rest)
  else if c = '+' then (r.repeat? 1 none).map fun r => (r, dropMark rest)
  else if c = '\x7b' then do
    let (least, most, after) ← counts? f rest
    return (← r.repeat? least most, dropMark (f.skip after))
  else if c = '\\' then do
    let (e, after) ← Escaped.read? f rest
    return (r.push (escaped f e) 0, after)
  else if c = '.' then do return (r.push (← anyChar? f) 0, rest)
  else if c = '^' then some (r.push (.at (atLineStart f)) 0, rest)
  else if c = '$' then some (r.push (.at (atLineEnd f)) 0, rest)
  else some (r.push (literal f c) 0, rest)

def deepest : Nat := 250

def run? : Nat → Reader → List Char → Option Pattern
  | 0, _, _ => none
  | fuel + 1, r, cs =>
    match r.group.flags.skip cs with
    | [] =>
      let (p, depth) := r.group.finish
      if r.outer.isEmpty ∧ depth ≤ deepest then some p else none
    | c :: rest => do
      let (r, after) ← r.step? c rest
      run? fuel r after

end Reader

def ofText? (s : String) : Option Pattern := Reader.run? (s.length + 1) {} s.toList

end AccessWindow.Pattern
