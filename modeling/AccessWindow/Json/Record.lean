import AccessWindow.Json.Codec

/-! Records: a constructor together with its fields, each with its name, its codec and what an
absent one means. A record is read from an object or from an array of its fields in order, and
written as an object. -/

namespace AccessWindow.Json

structure Field (ρ β : Type) where
  name : String
  codec : Codec β
  get : ρ → β
  /-- The value of a field that is left out; without one the field is required. -/
  fallback : Option β := none
  /-- The values that are left out when written. -/
  unwritten : β → Bool := fun _ => false

namespace Field

variable {ρ β : Type}

def required (name : String) (codec : Codec β) (get : ρ → β) : Field ρ β :=
  { name, codec, get }

def defaulted (name : String) (codec : Codec β) (get : ρ → β) (value : β) : Field ρ β :=
  { name, codec, get, fallback := some value }

def sparse (name : String) (codec : Codec β) (get : ρ → β) (value : β) (unwritten : β → Bool) :
    Field ρ β :=
  { name, codec, get, fallback := some value, unwritten }

end Field

/-- The fields that turn a constructor of type `γ` into a record of type `ρ`. -/
inductive Layout (ρ : Type) : Type → Type 1
  | done : Layout ρ ρ
  | field {β γ : Type} (f : Field ρ β) (rest : Layout ρ γ) : Layout ρ (β → γ)

namespace Layout

variable {ρ γ : Type}

def Slots : {γ : Type} → Layout ρ γ → Type
  | _, .done => Unit
  | _, @Layout.field _ β _ _ rest => Option β × rest.Slots

def noSlots : {γ : Type} → (layout : Layout ρ γ) → layout.Slots
  | _, .done => ()
  | _, .field _ rest => (none, rest.noSlots)

def length : {γ : Type} → Layout ρ γ → Nat
  | _, .done => 0
  | _, .field _ rest => rest.length + 1

def names : {γ : Type} → Layout ρ γ → List String
  | _, .done => []
  | _, .field f rest => f.name :: rest.names

def put (route : Route) : {γ : Type} → (layout : Layout ρ γ) → layout.Slots → String → Doc →
    Option (Except Flaw layout.Slots)
  | _, .done, _, _, _ => none
  | _, .field f rest, slots, key, d =>
    if key = f.name then
      some <|
        if slots.1.isSome then .error (.mismatch (.duplicate f.name))
        else (f.codec.read route d).map fun v => (some v, slots.2)
    else (rest.put route slots.2 key d).map fun r => r.map fun others => (slots.1, others)

def fill (route : Route) (layout : Layout ρ γ) (closed : Bool) :
    List (Option String × Doc) → layout.Slots → Except Flaw layout.Slots
  | [], slots => if closed then .ok slots else .error .malformed
  | (none, _) :: _, _ => .error .malformed
  | (some key, d) :: rest, slots =>
    match layout.put route slots key d with
    | some r => do fill route layout closed rest (← r)
    | none => if d.whole then fill route layout closed rest slots else .error .malformed

def build : {γ : Type} → (layout : Layout ρ γ) → γ → layout.Slots → Except Flaw ρ
  | _, .done, r, _ => .ok r
  | _, .field f rest, make, slots =>
    match slots.1.or f.fallback with
    | some v => rest.build (make v) slots.2
    | none => .error (.mismatch (.missing f.name))

def ofItems (route : Route) (expected : String) (closed : Bool) :
    {γ : Type} → (layout : Layout ρ γ) → γ → Nat → List Doc → Except Flaw (ρ × List Doc)
  | _, .done, r, _, items => .ok (r, items)
  | _, .field f rest, make, n, d :: ds => do
    rest.ofItems route expected closed (make (← f.codec.read route d)) (n + 1) ds
  | _, .field f rest, make, n, [] =>
    if closed = false then .error .malformed
    else
      match f.fallback with
      | some v => rest.ofItems route expected closed (make v) (n + 1) []
      | none => .error (.mismatch (.wrongLength n expected))

def members : {γ : Type} → Layout ρ γ → ρ → List (String × Json)
  | _, .done, _ => []
  | _, .field f rest, r =>
    if f.unwritten (f.get r) then rest.members r
    else (f.name, f.codec.write (f.get r)) :: rest.members r

end Layout

structure Record (ρ : Type) where
  title : String
  Maker : Type
  make : Maker
  layout : Layout ρ Maker

namespace Record

variable {ρ : Type}

/-- An array of more items than there are fields is no JSON of that shape in a text, and too long in
a value. -/
def leftover (route : Route) (length : Nat) (closed : Bool) : List Doc → Except Flaw Unit
  | [] => if closed then .ok () else .error .malformed
  | _ :: _ =>
    match route with
    | .text _ => .error .malformed
    | .value => .error (.mismatch (.wrongLength length "fewer elements in array"))

def read (record : Record ρ) (route : Route) (d : Doc) : Except Flaw ρ :=
  match d with
  | .object members closed => do
    let route ← route.deeper
    let slots ← record.layout.fill route closed members record.layout.noSlots
    record.layout.build record.make slots
  | .array items closed => do
    let route ← route.deeper
    let expected := record.title ++ " with " ++ toString record.layout.length ++ " element"
      ++ (if record.layout.length = 1 then "" else "s")
    let (r, rest) ← record.layout.ofItems route expected closed record.make 0 items
    leftover route items.length closed rest
    return r
  | d => .error (d.unexpected record.title)

def codec (record : Record ρ) : Codec ρ where
  read := record.read
  write r := .object (record.layout.members r)

end Record

end AccessWindow.Json
