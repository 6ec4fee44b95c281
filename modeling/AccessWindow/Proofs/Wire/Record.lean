import AccessWindow.Json.Record
import AccessWindow.Proofs.Wire.Codec

namespace AccessWindow.Json

variable {ρ β γ : Type} {depth : Nat} {r s : ρ} {route : Route}

theorem bind_eq_ok {ε α : Type} {first : Except ε α} {next : α → Except ε β} {b : β} :
    first >>= next = .ok b ↔ ∃ a, first = .ok a ∧ next a = .ok b := by
  cases first with
  | error => exact ⟨nofun, nofun⟩
  | ok a =>
    change next a = .ok b ↔ _
    simp

namespace Field

def Returns (f : Field ρ β) (depth : Nat) (r s : ρ) : Prop :=
  if f.unwritten (f.get r) then f.fallback = some (f.get s)
  else f.codec.Returns depth (f.get r) (f.get s)

def Yields (f : Field ρ β) (value : β) : Prop :=
  (∃ route d, f.codec.read route d = .ok value) ∨ f.fallback = some value

variable {name : String} {c : Codec β} {get : ρ → β} {value : β} {unwritten : β → Bool}

@[simp] theorem required_returns :
    (required name c get).Returns depth r s ↔ c.Returns depth (get r) (get s) := by
  simp [Returns, required]

@[simp] theorem defaulted_returns :
    (defaulted name c get value).Returns depth r s ↔ c.Returns depth (get r) (get s) := by
  simp [Returns, defaulted]

theorem sparse_returns (left : unwritten (get r) → value = get s)
    (h : c.Returns depth (get r) (get s)) :
    (sparse name c get value unwritten).Returns depth r s := by
  rw [Returns]
  split
  · next hr => exact congrArg some (left hr)
  · exact h

theorem sparse_option_returns {get : ρ → Option β}
    (h : (Codec.option c).Returns depth (get r) (get r)) (same : get s = get r) :
    (sparse name (.option c) get none Option.isNone).Returns depth r s :=
  sparse_returns (fun hr => by rw [same, Option.isNone_iff_eq_none.1 hr]) (same ▸ h)

end Field

namespace Layout

def Returns (depth : Nat) : {γ : Type} → Layout ρ γ → ρ → ρ → Prop
  | _, .done, _, _ => True
  | _, .field f rest, r, s => f.Returns depth r s ∧ rest.Returns depth r s

def Yields : {γ : Type} → Layout ρ γ → γ → ρ → Prop
  | _, .done, make, r => make = r
  | _, .field f rest, make, r => ∃ value, f.Yields value ∧ rest.Yields (make value) r

def assemble : {γ : Type} → Layout ρ γ → γ → ρ → ρ
  | _, .done, make, _ => make
  | _, .field f rest, make, r => rest.assemble (make (f.get r)) r

def filled : {γ : Type} → (layout : Layout ρ γ) → ρ → ρ → layout.Slots
  | _, .done, _, _ => ()
  | _, .field f rest, r, s =>
    (if f.unwritten (f.get r) then none else some (f.get s), rest.filled r s)

section

variable {f : Field ρ β} {rest layout : Layout ρ γ}

@[simp] theorem returns_done : (Layout.done : Layout ρ ρ).Returns depth r s := trivial

@[simp] theorem returns_field :
    (Layout.field f rest).Returns depth r s ↔ f.Returns depth r s ∧ rest.Returns depth r s :=
  Iff.rfl

theorem name_of_mem_members {e : String × Json} (h : e ∈ layout.members r) :
    e.1 ∈ layout.names := by
  induction layout with
  | done => cases h
  | field f rest ih =>
    rw [members] at h
    split at h
    · exact List.mem_cons_of_mem _ (ih h)
    · cases h with
      | head => exact List.mem_cons_self
      | tail _ h => exact List.mem_cons_of_mem _ (ih h)

theorem plain_members (h : layout.Returns depth r s) : ∀ e ∈ layout.members r, numberless e.2 := by
  induction layout with
  | done => nofun
  | field f rest ih =>
    obtain ⟨first, others⟩ := h
    rw [members]
    rw [Field.Returns] at first
    split
    · exact ih others
    · next written =>
      rw [if_neg written] at first
      exact List.forall_mem_cons.2 ⟨first.plain, ih others⟩

theorem fill_cons {closed : Bool} {key : String} {d : Doc} {ms : List (Option String × Doc)}
    {slots : layout.Slots} :
    fill route layout closed ((some key, d) :: ms) slots =
      match layout.put route slots key d with
      | some result => result >>= fill route layout closed ms
      | none => if d.whole then fill route layout closed ms slots else .error .malformed := rfl

theorem fill_field_of_absent {closed : Bool} {ms : List (Option String × Doc)} {slot : Option β}
    {slots : rest.Slots} (absent : ∀ e ∈ ms, e.1 ≠ some f.name) :
    fill route (.field f rest) closed ms (slot, slots) =
      (fill route rest closed ms slots).map fun others => (slot, others) := by
  induction ms generalizing slots with
  | nil => cases closed <;> rfl
  | cons e ms ih =>
    obtain ⟨hname, others⟩ := List.forall_mem_cons.1 absent
    obtain ⟨key, d⟩ := e
    cases key with
    | none => rfl
    | some key =>
      have hkey : key ≠ f.name := fun h => hname (congrArg some h)
      have hput : put route (.field f rest) (slot, slots) key d =
          (rest.put route slots key d).map fun r => r.map fun others => (slot, others) :=
        if_neg hkey
      refine fill_cons.trans ?_
      rw [hput, fill_cons]
      cases rest.put route slots key d with
      | none =>
        simp only [Option.map_none]
        split
        · exact ih others
        · rfl
      | some result =>
        cases result with
        | error => rfl
        | ok slots => exact ih others

theorem fill_members (distinct : layout.names.Nodup) (h : layout.Returns depth r s)
    (holds : route.Holds depth) :
    layout.fill route true (memberDocs (layout.members r)) layout.noSlots =
      .ok (layout.filled r s) := by
  induction layout with
  | done => rfl
  | field f rest ih =>
    obtain ⟨first, others⟩ := h
    obtain ⟨fresh, distinct⟩ := List.nodup_cons.1 distinct
    have absent : ∀ e ∈ memberDocs (rest.members r), e.1 ≠ some f.name := by
      rw [memberDocs_eq_map]
      refine List.forall_mem_map.2 fun e he hname => fresh ?_
      exact Option.some.inj hname ▸ name_of_mem_members he
    have later : ∀ slot, fill route (.field f rest) true (memberDocs (rest.members r))
        (slot, rest.noSlots) = .ok (slot, rest.filled r s) := fun slot => by
      rw [fill_field_of_absent absent, ih distinct others]
      rfl
    rw [Field.Returns] at first
    rw [members, filled]
    split
    · exact later none
    · next written =>
      rw [if_neg written] at first
      have hput : put route (.field f rest) (none, rest.noSlots) f.name
          (f.codec.write (f.get r)).toDoc = some (.ok (some (f.get s), rest.noSlots)) := by
        refine (if_pos rfl).trans ?_
        rw [first.read route holds]
        rfl
      refine fill_cons.trans ?_
      rw [noSlots, hput]
      exact later _

theorem build_field {f : Field ρ β} {rest : Layout ρ γ} {make : β → γ} {slot : Option β}
    {others : rest.Slots} {value : β} (h : slot.or f.fallback = some value) :
    (field f rest).build make (slot, others) = rest.build (make value) others := by
  simp only [build, h]

theorem build_missing {f : Field ρ β} {rest : Layout ρ γ} {make : β → γ} {slot : Option β}
    {others : rest.Slots} (h : slot.or f.fallback = none) :
    (field f rest).build make (slot, others) = .error (.mismatch (.missing f.name)) := by
  simp only [build, h]

theorem build_filled {make : γ} (h : layout.Returns depth r s) :
    layout.build make (layout.filled r s) = .ok (layout.assemble make s) := by
  induction layout with
  | done => rfl
  | field f rest ih =>
    obtain ⟨first, others⟩ := h
    rw [Field.Returns] at first
    have holds : (if f.unwritten (f.get r) then none else some (f.get s)).or f.fallback =
        some (f.get s) := by
      split at first
      · next left => rw [if_pos left, Option.none_or, first]
      · next written => rw [if_neg written, Option.some_or]
    exact (build_field holds).trans (ih others)

def Held : {γ : Type} → (layout : Layout ρ γ) → layout.Slots → Prop
  | _, .done, _ => True
  | _, .field f rest, slots =>
    (∀ value, slots.1 = some value → ∃ route d, f.codec.read route d = .ok value) ∧
      rest.Held slots.2

theorem held_noSlots : layout.Held layout.noSlots := by
  induction layout with
  | done => trivial
  | field f rest ih => exact ⟨nofun, ih⟩

theorem Held.put {slots slots' : layout.Slots} {key : String} {d : Doc} (h : layout.Held slots)
    (hput : layout.put route slots key d = some (.ok slots')) : layout.Held slots' := by
  induction layout with
  | done => cases hput
  | field f rest ih =>
    obtain ⟨slot, others⟩ := slots
    by_cases hkey : key = f.name
    · have placed := (if_pos hkey).symm.trans hput
      cases slot with
      | some => cases placed
      | none =>
        cases hread : f.codec.read route d with
        | error =>
          rw [hread] at placed
          cases placed
        | ok value =>
          rw [hread] at placed
          cases placed
          refine ⟨?_, h.2⟩
          rintro _ ⟨⟩
          exact ⟨route, d, hread⟩
    · have passed := (if_neg hkey).symm.trans hput
      cases hrest : rest.put route others key d with
      | none =>
        rw [hrest] at passed
        cases passed
      | some result =>
        rw [hrest] at passed
        cases result with
        | error => cases passed
        | ok others' =>
          cases passed
          exact ⟨h.1, ih h.2 hrest⟩

theorem Held.fill {closed : Bool} {ms : List (Option String × Doc)} {slots slots' : layout.Slots}
    (h : layout.Held slots) (hfill : layout.fill route closed ms slots = .ok slots') :
    layout.Held slots' := by
  induction ms generalizing slots with
  | nil =>
    cases closed with
    | true =>
      cases hfill
      exact h
    | false => cases hfill
  | cons e ms ih =>
    obtain ⟨key, d⟩ := e
    cases key with
    | none => cases hfill
    | some key =>
      rw [fill_cons] at hfill
      cases hput : layout.put route slots key d with
      | none =>
        rw [hput] at hfill
        cases hwhole : d.whole with
        | true =>
          simp only [hwhole, if_true] at hfill
          exact ih h hfill
        | false =>
          simp only [hwhole, Bool.false_eq_true, if_false] at hfill
          cases hfill
      | some result =>
        rw [hput] at hfill
        obtain ⟨slots, rfl, later⟩ := bind_eq_ok.1 hfill
        exact ih (h.put hput) later

theorem Held.build {make : γ} {slots : layout.Slots} (h : layout.Held slots)
    (hbuild : layout.build make slots = .ok r) : layout.Yields make r := by
  induction layout with
  | done =>
    cases hbuild
    exact rfl
  | field f rest ih =>
    obtain ⟨slot, others⟩ := slots
    cases hvalue : slot.or f.fallback with
    | none =>
      rw [build_missing hvalue] at hbuild
      cases hbuild
    | some value =>
      rw [build_field hvalue] at hbuild
      refine ⟨value, ?_, ih h.2 hbuild⟩
      cases slot with
      | none => exact .inr hvalue
      | some value' =>
        cases hvalue
        exact .inl (h.1 _ rfl)

theorem yields_of_ofItems {expected : String} {closed : Bool} {make : γ} {n : Nat}
    {items left : List Doc}
    (h : layout.ofItems route expected closed make n items = .ok (r, left)) :
    layout.Yields make r := by
  induction layout generalizing n items with
  | done =>
    cases h
    exact rfl
  | field f rest ih =>
    cases items with
    | nil =>
      rw [ofItems] at h
      cases closed with
      | false => cases h
      | true =>
        cases hf : f.fallback with
        | none =>
          simp only [hf] at h
          cases h
        | some value =>
          simp only [hf] at h
          exact ⟨value, .inr hf, ih h⟩
    | cons d items =>
      change (f.codec.read route d >>= fun value =>
        rest.ofItems route expected closed (make value) (n + 1) items) = _ at h
      obtain ⟨value, hread, later⟩ := bind_eq_ok.1 h
      exact ⟨value, .inl ⟨route, d, hread⟩, ih later⟩

end

end Layout

namespace Record

theorem yields {record : Record ρ} {d : Doc} (h : record.codec.read route d = .ok r) :
    record.layout.Yields record.make r := by
  cases d with
  | object ms closed =>
    obtain ⟨inner, -, h⟩ := bind_eq_ok.1 h
    obtain ⟨slots, hslots, h⟩ := bind_eq_ok.1 h
    exact (Layout.held_noSlots.fill hslots).build h
  | array items closed =>
    obtain ⟨inner, -, h⟩ := bind_eq_ok.1 h
    obtain ⟨⟨r', left⟩, found, h⟩ := bind_eq_ok.1 h
    obtain ⟨_, -, ⟨⟩⟩ := bind_eq_ok.1 h
    exact Layout.yields_of_ofItems found
  | _ => cases h

structure Sound (record : Record ρ) : Prop where
  distinct : record.layout.names.Nodup
  complete : ∀ r, record.layout.assemble record.make r = r

theorem Sound.returns {record : Record ρ} (sound : record.Sound)
    (h : record.layout.Returns depth r s) : record.codec.Returns (depth + 1) r s where
  plain := numberlessMembers_iff.2 (Layout.plain_members h)
  read route holds := by
    obtain ⟨inner, hinner, deep⟩ := holds.deeper
    change (route.deeper >>= fun inner => record.layout.fill inner true
      (memberDocs (record.layout.members r)) record.layout.noSlots >>= fun slots =>
        record.layout.build record.make slots) = _
    rw [hinner]
    change (record.layout.fill inner true _ _ >>= _) = _
    rw [Layout.fill_members sound.distinct h deep]
    exact (Layout.build_filled h).trans (congrArg _ (sound.complete s))

end Record

end AccessWindow.Json
