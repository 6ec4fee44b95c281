namespace AccessWindow.Http.MediaType

def isToken (c : Char) : Bool :=
  c.isAlphanum || ['!', '#', '$', '%', '&', '-', '.', '^', '_', Char.ofNat 0x60].contains c

def isQuotable (c : Char) : Bool := 31 < c.toNat && c.toNat ≠ 127

mutual

def parameters : List Char → Bool
  | [] => true
  | ' ' :: cs => parameters cs
  | c :: cs => isToken c && parameterName cs

def parameterName : List Char → Bool
  | '=' :: '"' :: c :: cs => isQuotable c && quoted cs
  | '=' :: c :: cs => isToken c && plain cs
  | ['='] => true
  | c :: cs => isToken c && parameterName cs
  | [] => false

def plain : List Char → Bool
  | [] => true
  | ';' :: cs => parameters cs
  | c :: cs => isToken c && plain cs

def quoted : List Char → Bool
  | [] => false
  | '"' :: cs => afterQuote cs
  | c :: cs => isQuotable c && quoted cs

def afterQuote : List Char → Bool
  | [] => true
  | ';' :: cs => parameters cs
  | ' ' :: cs => afterQuote cs
  | _ => false

end

def isJsonSubtype (cs : List Char) : Bool :=
  let isPlus (c : Char) : Bool := c = '+'
  if cs.contains '+' then
    let backwards := cs.reverse
    let suffix := (backwards.takeWhile (!isPlus ·)).reverse
    let name := ((backwards.dropWhile (!isPlus ·)).drop 1).reverse
    name ≠ [] && (suffix = "json".toList || name = "json".toList)
  else cs = "json".toList

def isJson (s : String) : Bool :=
  let cs := s.toList.map Char.toLower
  let top := cs.takeWhile (· ≠ '/')
  let rest := (cs.dropWhile (· ≠ '/')).drop 1
  let subtype := rest.takeWhile (· ≠ ';')
  top = "application".toList && subtype.all (fun c => isToken c || c = '+') && isJsonSubtype subtype
    && parameters ((rest.dropWhile (· ≠ ';')).drop 1)

example : isJson "Application/JSON; charset=utf-8" := by decide +kernel

example : isJson "application/x+json" ∧ ¬ isJson "application/json ;a=b" := by decide +kernel

end AccessWindow.Http.MediaType
