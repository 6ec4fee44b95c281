import AccessWindow.Json.Printer

namespace AccessWindow.Json

mutual

def numberless : Json → Bool
  | .number _ => false
  | .array items => numberlessItems items
  | .object members => numberlessMembers members
  | _ => true

def numberlessItems : List Json → Bool
  | [] => true
  | item :: items => numberless item && numberlessItems items

def numberlessMembers : List (String × Json) → Bool
  | [] => true
  | (_, value) :: members => numberless value && numberlessMembers members

end

theorem numberlessItems_iff {js : List Json} : numberlessItems js ↔ ∀ j ∈ js, numberless j := by
  induction js with
  | nil => simp [numberlessItems]
  | cons j js ih => simp [numberlessItems, ih]

theorem numberlessMembers_iff {members : List (String × Json)} :
    numberlessMembers members ↔ ∀ e ∈ members, numberless e.2 := by
  induction members with
  | nil => simp [numberlessMembers]
  | cons member members ih => simp [numberlessMembers, ih]

def Blank (cs : List Char) : Prop := ∀ c ∈ cs, c = ' ' ∨ c = '\n'

structure Style where
  gap : (level : Nat) → List Char
  colon : List Char
  gap_blank : ∀ level, Blank (gap level)
  colon_blank : Blank colon

def Style.bare : Style := ⟨fun _ => [], [], nofun, nofun⟩

def Style.indented : Style where
  gap := newline
  colon := [' ']
  gap_blank level := by simp [Blank, newline]
  colon_blank := by simp [Blank]

variable (style : Style) (level : Nat)

mutual

def print (level : Nat) : Json → List Char
  | .array (item :: items) =>
    '[' :: (style.gap (level + 1) ++ (print (level + 1) item ++ printItems level items))
  | .object ((key, value) :: members) =>
    '\x7b' :: (style.gap (level + 1) ++ (quoted key ++ ':' :: (style.colon ++
      (print (level + 1) value ++ printMembers level members))))
  | other => scalar other

def printItems (level : Nat) : List Json → List Char
  | [] => style.gap level ++ [']']
  | item :: items =>
    ',' :: (style.gap (level + 1) ++ (print (level + 1) item ++ printItems level items))

def printMembers (level : Nat) : List (String × Json) → List Char
  | [] => style.gap level ++ ['\x7d']
  | (key, value) :: members =>
    ',' :: (style.gap (level + 1) ++ (quoted key ++ ':' :: (style.colon ++
      (print (level + 1) value ++ printMembers level members))))

end

def printFrom (item : Json) (items : List Json) : List Char :=
  print style (level + 1) item ++ printItems style level items

def printMembersFrom (key : String) (value : Json) (members : List (String × Json)) : List Char :=
  quoted key ++ ':' :: (style.colon ++
    (print style (level + 1) value ++ printMembers style level members))

variable {style level} {key : String} {item value : Json} {items : List Json}
  {members : List (String × Json)}

theorem print_array : print style level (.array (item :: items)) =
    '[' :: (style.gap (level + 1) ++ printFrom style level item items) := rfl

theorem printItems_cons : printItems style level (item :: items) =
    ',' :: (style.gap (level + 1) ++ printFrom style level item items) := rfl

theorem print_object : print style level (.object ((key, value) :: members)) =
    '\x7b' :: (style.gap (level + 1) ++ printMembersFrom style level key value members) := rfl

theorem printMembers_cons : printMembers style level ((key, value) :: members) =
    ',' :: (style.gap (level + 1) ++ printMembersFrom style level key value members) := rfl

mutual

theorem compact_eq (level : Nat) : ∀ j, compact j = print .bare level j
  | .array (item :: items) => by
    rw [compact, print, compact_eq (level + 1) item, compactItems_eq level items]
    rfl
  | .object ((key, value) :: members) => by
    rw [compact, print, compact_eq (level + 1) value, compactMembers_eq level members]
    rfl
  | .null | .bool _ | .number _ | .string _ | .array [] | .object [] => rfl

theorem compactItems_eq (level : Nat) : ∀ items, compactItems items = printItems .bare level items
  | [] => rfl
  | item :: items => by
    rw [compactItems, printItems, compact_eq (level + 1) item, compactItems_eq level items]
    rfl

theorem compactMembers_eq (level : Nat) :
    ∀ members, compactMembers members = printMembers .bare level members
  | [] => rfl
  | (key, value) :: members => by
    rw [compactMembers, printMembers, compact_eq (level + 1) value,
      compactMembers_eq level members]
    rfl

end

mutual

theorem pretty_eq (level : Nat) : ∀ j, pretty level j = print .indented level j
  | .array (item :: items) => by
    rw [pretty, print, pretty_eq (level + 1) item, prettyItems_eq level items]
    rfl
  | .object ((key, value) :: members) => by
    rw [pretty, print, pretty_eq (level + 1) value, prettyMembers_eq level members]
    rfl
  | .null | .bool _ | .number _ | .string _ | .array [] | .object [] => rfl

theorem prettyItems_eq (level : Nat) :
    ∀ items, prettyItems level items = printItems .indented level items
  | [] => rfl
  | item :: items => by
    rw [prettyItems, printItems, pretty_eq (level + 1) item, prettyItems_eq level items]
    rfl

theorem prettyMembers_eq (level : Nat) :
    ∀ members, prettyMembers level members = printMembers .indented level members
  | [] => rfl
  | (key, value) :: members => by
    rw [prettyMembers, printMembers, pretty_eq (level + 1) value, prettyMembers_eq level members]
    rfl

end

end AccessWindow.Json
