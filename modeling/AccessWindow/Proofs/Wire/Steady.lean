import AccessWindow.Proofs.Wire.Record

/-! What is read from a document does not depend on whether it stands in a text or is a value that
has been read before. Only what is wrong with it is put in other words. -/

namespace AccessWindow.Json

variable {α β ρ γ : Type} {depth : Nat} {route : Route}

theorem map_eq_ok {first : Except Flaw α} {f : α → β} {b : β} :
    first.map f = .ok b ↔ ∃ a, first = .ok a ∧ f a = b := by
  cases first with
  | error => exact ⟨nofun, nofun⟩
  | ok a =>
    change Except.ok (f a) = .ok b ↔ _
    simp

namespace Codec

variable {c : Codec α}

def Steady (c : Codec α) (depth : Nat) : Prop :=
  ∀ route : Route, route.Holds depth → ∀ d a, c.read route d = .ok a ↔ c.read .value d = .ok a

theorem text_steady : text.Steady depth := fun _ _ _ _ => Iff.rfl

theorem flag_steady : flag.Steady depth := fun _ _ _ _ => Iff.rfl

theorem Steady.map {f : α → β} {g : β → α} (h : c.Steady depth) : (c.map f g).Steady depth := by
  intro route holds d b
  change (c.read route d).map f = _ ↔ (c.read .value d).map f = _
  simp only [map_eq_ok, h route holds]

theorem option_steady (h : c.Steady depth) : (option c).Steady depth := by
  intro route holds d o
  have further : (c.read route d).map some = .ok o ↔ (c.read .value d).map some = .ok o := by
    simp only [map_eq_ok, h route holds]
  cases d with
  | null => exact Iff.rfl
  | _ => exact further

theorem readItems_steady {closed : Bool} (h : c.Steady depth) (holds : route.Holds depth)
    (ds : List Doc) (as : List α) :
    readItems c route closed ds = .ok as ↔ readItems c .value closed ds = .ok as := by
  induction ds generalizing as with
  | nil => exact Iff.rfl
  | cons d ds ih => simp only [readItems, bind_eq_ok, h route holds, ih]

theorem list_steady (h : c.Steady depth) : (list c).Steady (depth + 1) := by
  intro route holds d as
  obtain ⟨inner, hinner, deep⟩ := holds.deeper
  cases d with
  | array ds closed =>
    change (route.deeper >>= fun inner => readItems c inner closed ds) = _ ↔ _
    rw [hinner]
    exact readItems_steady h deep ds as
  | _ => exact Iff.rfl

theorem readEntries_steady {closed : Bool} (h : c.Steady depth) (holds : route.Holds depth)
    (ms : List (Option String × Doc)) (before after : Dict α) :
    readEntries c route closed ms before = .ok after ↔
      readEntries c .value closed ms before = .ok after := by
  induction ms generalizing before with
  | nil => exact Iff.rfl
  | cons m ms ih =>
    obtain ⟨key, d⟩ := m
    cases key with
    | none => exact Iff.rfl
    | some key => simp only [readEntries, bind_eq_ok, h route holds, ih]

theorem dict_steady (h : c.Steady depth) : (dict c).Steady (depth + 1) := by
  intro route holds d after
  obtain ⟨inner, hinner, deep⟩ := holds.deeper
  cases d with
  | object ms closed =>
    change (route.deeper >>= fun inner => readEntries c inner closed ms .empty) = _ ↔ _
    rw [hinner]
    exact readEntries_steady h deep ms .empty after
  | _ => exact Iff.rfl

end Codec

namespace Layout

variable {f : Field ρ β} {rest : Layout ρ γ} {layout : Layout ρ γ}

def Steady (depth : Nat) : {γ : Type} → Layout ρ γ → Prop
  | _, .done => True
  | _, .field f rest => f.codec.Steady depth ∧ rest.Steady depth

@[simp] theorem steady_done : (Layout.done : Layout ρ ρ).Steady depth := trivial

@[simp] theorem steady_field :
    (Layout.field f rest).Steady depth ↔ f.codec.Steady depth ∧ rest.Steady depth := Iff.rfl

section Put

variable {slot slot' : Option β} {others others' : rest.Slots} {key : String} {d : Doc}

theorem put_own_eq_ok :
    put route (.field f rest) (slot, others) f.name d = some (.ok (slot', others')) ↔
      slot = none ∧ (∃ v, f.codec.read route d = .ok v ∧ some v = slot') ∧ others = others' := by
  constructor
  · intro h
    have placed := (if_pos rfl).symm.trans h
    cases slot with
    | some => cases placed
    | none =>
      cases hread : f.codec.read route d with
      | error =>
        rw [hread] at placed
        cases placed
      | ok v =>
        rw [hread] at placed
        cases placed
        exact ⟨rfl, ⟨v, rfl, rfl⟩, rfl⟩
  · rintro ⟨rfl, ⟨v, hread, rfl⟩, rfl⟩
    refine (if_pos rfl).trans ?_
    rw [hread]
    rfl

theorem put_other_eq_ok (h : key ≠ f.name) :
    put route (.field f rest) (slot, others) key d = some (.ok (slot', others')) ↔
      slot = slot' ∧ rest.put route others key d = some (.ok others') := by
  constructor
  · intro hput
    have passed := (if_neg h).symm.trans hput
    cases hrest : rest.put route others key d with
    | none =>
      rw [hrest] at passed
      cases passed
    | some result =>
      rw [hrest] at passed
      cases result with
      | error => cases passed
      | ok others =>
        cases passed
        exact ⟨rfl, rfl⟩
  · rintro ⟨rfl, hrest⟩
    refine (if_neg h).trans ?_
    rw [hrest]
    rfl

end Put

theorem put_eq_none {slots : layout.Slots} {key : String} {d : Doc} :
    layout.put route slots key d = none ↔ key ∉ layout.names := by
  induction layout with
  | done => exact iff_of_true rfl List.not_mem_nil
  | field f rest ih =>
    rw [names, List.mem_cons, not_or]
    by_cases h : key = f.name
    · refine iff_of_false (fun none => ?_) fun absent => absent.1 h
      cases (if_pos h).symm.trans none
    · rw [and_iff_right h, ← @ih slots.2]
      constructor
      · intro none
        have passed := (if_neg h).symm.trans none
        cases hrest : rest.put route slots.2 key d with
        | none => rfl
        | some result =>
          rw [hrest] at passed
          cases passed
      · intro none
        refine (if_neg h).trans ?_
        rw [none]
        rfl

theorem put_steady {slots : layout.Slots} (h : layout.Steady depth) (holds : route.Holds depth)
    (key : String) (d : Doc) (slots' : layout.Slots) :
    layout.put route slots key d = some (.ok slots') ↔
      layout.put .value slots key d = some (.ok slots') := by
  induction layout with
  | done => exact Iff.rfl
  | field f rest ih =>
    obtain ⟨first, later⟩ := h
    obtain ⟨slot, others⟩ := slots
    obtain ⟨slot', others'⟩ := slots'
    by_cases hkey : key = f.name
    · subst hkey
      rw [put_own_eq_ok, put_own_eq_ok]
      simp only [first route holds]
    · rw [put_other_eq_ok hkey, put_other_eq_ok hkey, ih later]

theorem fill_cons_eq_ok {closed : Bool} {key : String} {d : Doc} {ms : List (Option String × Doc)}
    {slots slots' : layout.Slots} :
    layout.fill route closed ((some key, d) :: ms) slots = .ok slots' ↔
      (∃ next, layout.put route slots key d = some (.ok next) ∧
        layout.fill route closed ms next = .ok slots') ∨
      key ∉ layout.names ∧ d.whole ∧ layout.fill route closed ms slots = .ok slots' := by
  rw [← @put_eq_none _ _ route _ slots _ d, fill_cons]
  cases hput : layout.put route slots key d with
  | none => cases d.whole <;> simp
  | some result => simp [bind_eq_ok]

theorem fill_steady {closed : Bool} (h : layout.Steady depth) (holds : route.Holds depth)
    (ms : List (Option String × Doc)) (slots slots' : layout.Slots) :
    layout.fill route closed ms slots = .ok slots' ↔
      layout.fill .value closed ms slots = .ok slots' := by
  induction ms generalizing slots with
  | nil => exact Iff.rfl
  | cons m ms ih =>
    obtain ⟨key, d⟩ := m
    cases key with
    | none => exact Iff.rfl
    | some key => simp only [fill_cons_eq_ok, put_steady h holds, ih]

theorem ofItems_steady {expected : String} {closed : Bool} {make : γ} {n : Nat}
    (h : layout.Steady depth) (holds : route.Holds depth) (ds : List Doc) (left : ρ × List Doc) :
    layout.ofItems route expected closed make n ds = .ok left ↔
      layout.ofItems .value expected closed make n ds = .ok left := by
  induction layout generalizing n ds with
  | done => exact Iff.rfl
  | field f rest ih =>
    obtain ⟨first, others⟩ := h
    cases ds with
    | cons d ds => simp only [ofItems, bind_eq_ok, first route holds, ih others]
    | nil =>
      rw [ofItems, ofItems]
      split
      · exact Iff.rfl
      · split
        · exact ih others []
        · exact Iff.rfl

end Layout

namespace Record

theorem leftover_eq_ok {length : Nat} {closed : Bool} {ds : List Doc} {u : Unit} :
    leftover route length closed ds = .ok u ↔ ds = [] ∧ closed := by
  cases ds with
  | nil => cases closed <;> simp [leftover]
  | cons => cases route <;> simp [leftover]

theorem read_object_eq_ok {record : Record ρ} {inner : Route} {closed : Bool}
    {ms : List (Option String × Doc)} {r : ρ} (h : route.deeper = .ok inner) :
    record.codec.read route (.object ms closed) = .ok r ↔
      ∃ slots, record.layout.fill inner closed ms record.layout.noSlots = .ok slots ∧
        record.layout.build record.make slots = .ok r := by
  change (route.deeper >>= fun inner =>
    record.layout.fill inner closed ms record.layout.noSlots >>= fun slots =>
      record.layout.build record.make slots) = .ok r ↔ _
  rw [h]
  change (record.layout.fill inner closed ms record.layout.noSlots >>= _) = .ok r ↔ _
  exact bind_eq_ok

def shape (record : Record ρ) : String :=
  record.title ++ " with " ++ toString record.layout.length ++ " element"
    ++ (if record.layout.length = 1 then "" else "s")

theorem read_array_eq_ok {record : Record ρ} {inner : Route} {closed : Bool} {ds : List Doc} {r : ρ}
    (h : route.deeper = .ok inner) :
    record.codec.read route (.array ds closed) = .ok r ↔
      record.layout.ofItems inner record.shape closed record.make 0 ds = .ok (r, []) ∧ closed := by
  change (route.deeper >>= fun inner =>
    record.layout.ofItems inner record.shape closed record.make 0 ds >>= fun left =>
      leftover inner ds.length closed left.2 >>= fun _ => .ok left.1) = .ok r ↔ _
  rw [h]
  change (record.layout.ofItems inner record.shape closed record.make 0 ds >>= _) = .ok r ↔ _
  simp only [bind_eq_ok, leftover_eq_ok]
  constructor
  · rintro ⟨⟨_, _⟩, found, -, ⟨rfl, done⟩, ⟨⟩⟩
    exact ⟨found, done⟩
  · rintro ⟨found, done⟩
    exact ⟨_, found, (), ⟨rfl, done⟩, rfl⟩

theorem steady {record : Record ρ} (h : record.layout.Steady depth) :
    record.codec.Steady (depth + 1) := by
  intro route holds d r
  obtain ⟨inner, hinner, deep⟩ := holds.deeper
  cases d with
  | object ms closed =>
    rw [read_object_eq_ok hinner, read_object_eq_ok rfl]
    simp only [Layout.fill_steady h deep]
  | array ds closed =>
    rw [read_array_eq_ok hinner, read_array_eq_ok rfl, Layout.ofItems_steady h deep]
  | _ => exact Iff.rfl

end Record

end AccessWindow.Json
