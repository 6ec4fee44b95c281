namespace AccessWindow.Number

namespace Unsigned

inductive Complaint
  | empty
  | digit
  | large
  deriving DecidableEq

def Complaint.text : Complaint → String
  | .empty => "cannot parse integer from empty string"
  | .digit => "invalid digit found in string"
  | .large => "number too large to fit in target type"

def isDigit (c : Char) : Bool := '0' ≤ c && c ≤ '9'

def accumulate (limit : Nat) : Nat → List Char → Except Complaint Nat
  | n, [] => .ok n
  | n, c :: cs =>
    if isDigit c = false then .error .digit
    else
      let next := n * 10 + (c.toNat - 48)
      if next < limit then accumulate limit next cs else .error .large

def read (limit : Nat) (s : String) : Except Complaint Nat :=
  match s.toList with
  | [] => .error .empty
  | ['+'] => .error .digit
  | '+' :: cs => accumulate limit 0 cs
  | cs => accumulate limit 0 cs

end Unsigned

end AccessWindow.Number
