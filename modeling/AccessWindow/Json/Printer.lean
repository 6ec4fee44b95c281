import AccessWindow.Json.Value

namespace AccessWindow.Json

def hexDigit (n : Nat) : Char := "0123456789abcdef".toList.getD (n % 16) '0'

def escape (c : Char) : List Char :=
  if c = '"' then ['\\', '"']
  else if c = '\\' then ['\\', '\\']
  else if c = '\n' then ['\\', 'n']
  else if c = '\r' then ['\\', 'r']
  else if c = '\t' then ['\\', 't']
  else if c.toNat = 8 then ['\\', 'b']
  else if c.toNat = 12 then ['\\', 'f']
  else if c.toNat < 32 then ['\\', 'u', '0', '0', hexDigit (c.toNat / 16), hexDigit c.toNat]
  else [c]

def quoted (s : String) : List Char := '"' :: (s.toList.flatMap escape ++ ['"'])

def scalar : Json → List Char
  | .null => ['n', 'u', 'l', 'l']
  | .bool true => ['t', 'r', 'u', 'e']
  | .bool false => ['f', 'a', 'l', 's', 'e']
  | .number n => n.text.toList
  | .string s => quoted s
  | .array _ => ['[', ']']
  | .object _ => ['\x7b', '\x7d']

mutual

def compact : Json → List Char
  | .array (item :: items) => '[' :: (compact item ++ compactItems items)
  | .object ((key, value) :: members) =>
    '\x7b' :: (quoted key ++ ':' :: (compact value ++ compactMembers members))
  | other => scalar other

def compactItems : List Json → List Char
  | [] => [']']
  | item :: items => ',' :: (compact item ++ compactItems items)

def compactMembers : List (String × Json) → List Char
  | [] => ['\x7d']
  | (key, value) :: members =>
    ',' :: (quoted key ++ ':' :: (compact value ++ compactMembers members))

end

def newline (level : Nat) : List Char := '\n' :: List.replicate (2 * level) ' '

mutual

def pretty (level : Nat) : Json → List Char
  | .array (item :: items) =>
    '[' :: (newline (level + 1) ++ (pretty (level + 1) item ++ prettyItems level items))
  | .object ((key, value) :: members) =>
    '\x7b' :: (newline (level + 1) ++ (quoted key ++ ':' :: ' ' ::
      (pretty (level + 1) value ++ prettyMembers level members)))
  | other => scalar other

def prettyItems (level : Nat) : List Json → List Char
  | [] => newline level ++ [']']
  | item :: items =>
    ',' :: (newline (level + 1) ++ (pretty (level + 1) item ++ prettyItems level items))

def prettyMembers (level : Nat) : List (String × Json) → List Char
  | [] => newline level ++ ['\x7d']
  | (key, value) :: members =>
    ',' :: (newline (level + 1) ++ (quoted key ++ ':' :: ' ' ::
      (pretty (level + 1) value ++ prettyMembers level members)))

end

def compactText (j : Json) : String := String.ofList j.compact

def prettyText (j : Json) : String := String.ofList (j.pretty 0)

end AccessWindow.Json
