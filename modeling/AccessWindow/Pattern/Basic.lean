import AccessWindow.Unicode.Property

/-! Patterns for text, and where in a text they match. A match is followed as a set of positions:
each pattern takes the positions at which it may start to those at which it may end. -/

namespace AccessWindow

structure Pattern.Place where
  index : Nat
  before : Option Char
  after : List Char
  deriving DecidableEq

namespace Pattern.Place

def start (text : List Char) : Place := ⟨0, none, text⟩

def allFrom (index : Nat) (before : Option Char) : List Char → List Place
  | [] => [⟨index, before, []⟩]
  | c :: cs => ⟨index, before, c :: cs⟩ :: allFrom (index + 1) (some c) cs

def next? (p : Place) : Option (Char × Place) :=
  match p.after with
  | [] => none
  | c :: cs => some (c, ⟨p.index + 1, some c, cs⟩)

def merge : List Place → List Place → List Place
  | [], qs => qs
  | ps, [] => ps
  | p :: ps, q :: qs =>
    if p.index < q.index then p :: merge ps (q :: qs)
    else if q.index < p.index then q :: merge (p :: ps) qs
    else p :: merge ps qs
termination_by ps qs => ps.length + qs.length

end Pattern.Place

inductive Pattern.Condition
  | start
  | finish
  | lineStart
  | lineEnd
  | anyLineStart
  | anyLineEnd
  | wordBoundary (unicode : Bool)
  | noWordBoundary (unicode : Bool)
  | wordStart (unicode : Bool)
  | wordEnd (unicode : Bool)
  | noWordBefore (unicode : Bool)
  | noWordAfter (unicode : Bool)
  deriving DecidableEq

/-- A repetition without a greatest count has no end. -/
inductive Pattern
  | empty
  | one (members : Unicode.Intervals)
  | at (condition : Pattern.Condition)
  | seq (first second : Pattern)
  | either (left right : Pattern)
  | repeated (body : Pattern) (least : Nat) (most : Option Nat)
  deriving DecidableEq

namespace Pattern

def asciiWord : Unicode.Intervals := [(0x30, 0x39), (0x41, 0x5A), (0x5F, 0x5F), (0x61, 0x7A)]

def isWord (unicode : Bool) (c : Option Char) : Bool :=
  match c with
  | none => false
  | some c => if unicode then Unicode.Property.word.contains c.toNat else asciiWord.contains c.toNat

namespace Condition

/-- Lines end at a line feed; where any line end counts, also at a carriage return, and the two in
this order are one line end. -/
def holds (k : Condition) (p : Place) : Bool :=
  let after := p.after.head?
  match k with
  | start => p.before = none
  | finish => after = none
  | lineStart => p.before = none || p.before = some '\n'
  | lineEnd => after = none || after = some '\n'
  | anyLineStart =>
    p.before = none || p.before = some '\n' || (p.before = some '\r' && after ≠ some '\n')
  | anyLineEnd => after = none || after = some '\r' || (after = some '\n' && p.before ≠ some '\r')
  | wordBoundary u => isWord u p.before != isWord u after
  | noWordBoundary u => isWord u p.before == isWord u after
  | wordStart u => !isWord u p.before && isWord u after
  | wordEnd u => isWord u p.before && !isWord u after
  | noWordBefore u => !isWord u p.before
  | noWordAfter u => !isWord u after

end Condition

def iterate (step : List Place → List Place) : Nat → List Place → List Place
  | 0, ps => ps
  | n + 1, ps =>
    let qs := step ps
    if qs = ps then ps else iterate step n qs

def within (step : List Place → List Place) : Nat → List Place → List Place
  | 0, ps => ps
  | n + 1, ps =>
    let qs := Place.merge ps (step ps)
    if qs = ps then ps else within step n qs

def reach : Pattern → List Place → List Place
  | empty, ps => ps
  | one members, ps =>
    ps.filterMap fun p =>
      p.next?.bind fun (c, q) => if members.contains c.toNat then some q else none
  | .at k, ps => ps.filter k.holds
  | seq first second, ps => second.reach (first.reach ps)
  | either left right, ps => Place.merge (left.reach ps) (right.reach ps)
  | repeated body least most, ps =>
    let begun := iterate body.reach least ps
    let room := (ps.head?.map fun p => p.after.length + 1).getD 0
    within body.reach (most.elim room fun m => min room (m - least)) begun

def matchesIn (p : Pattern) (text : String) : Bool :=
  !(p.reach (Place.allFrom 0 none text.toList)).isEmpty

end Pattern

end AccessWindow
