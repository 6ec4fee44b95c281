import AccessWindow.Proofs.Wire.Steady
import Mathlib.Data.List.Forall2

namespace AccessWindow.Json

variable {ρ β γ : Type} {r : ρ} {ms : List (String × Json)}

theorem lookup_eq_none {key : String} (h : key ∉ ms.map Prod.fst) : ms.lookup key = none :=
  List.lookup_eq_none_iff.2 fun _ hm => bne_iff_ne.2 fun same =>
    h (same ▸ List.mem_map_of_mem hm)

namespace Codec

variable {α : Type} {c : Codec α} {j : Json}

theorem text_decodeValue_eq_ok {s : String} : text.decodeValue j = .ok s ↔ j = .string s := by
  cases j <;> simp [decodeValue, text, toDoc]

theorem exists_text_or_null :
    (∃ o, (option text).decodeValue j = .ok o) ↔ j = .null ∨ ∃ s, j = .string s := by
  cases j <;> simp [decodeValue, option, text, toDoc, Except.map]

theorem readEntries_eq_ok {before : Dict α} :
    (∃ after, readEntries c .value true (memberDocs ms) before = .ok after) ↔
      ∀ m ∈ ms, ∃ a, c.decodeValue m.2 = .ok a := by
  induction ms generalizing before with
  | nil => exact iff_of_true ⟨before, rfl⟩ nofun
  | cons m ms ih =>
    rw [List.forall_mem_cons, memberDocs]
    simp only [readEntries, bind_eq_ok]
    constructor
    · rintro ⟨after, a, hread, later⟩
      exact ⟨⟨a, hread⟩, ih.1 ⟨after, later⟩⟩
    · rintro ⟨⟨a, hread⟩, later⟩
      obtain ⟨after, later⟩ := ih.2 later
      exact ⟨after, a, hread, later⟩

theorem exists_dict_decodeValue : (∃ d, (dict c).decodeValue j = .ok d) ↔
    ∃ ms, j = .object ms ∧ ∀ m ∈ ms, ∃ a, c.decodeValue m.2 = .ok a := by
  cases j with
  | object ms =>
    refine readEntries_eq_ok.trans ⟨fun h => ⟨ms, rfl, h⟩, ?_⟩
    rintro ⟨_, ⟨⟩, h⟩
    exact h
  | _ => exact ⟨nofun, nofun⟩

theorem list_decodeValue_eq_ok {js : List Json} {as : List α} :
    (list c).decodeValue (.array js) = .ok as ↔
      List.Forall₂ (fun j a => c.decodeValue j = .ok a) js as := by
  change readItems c .value true (toDocs js) = .ok as ↔ _
  induction js generalizing as with
  | nil =>
    rw [List.forall₂_nil_left_iff]
    constructor
    · rintro ⟨⟩
      exact rfl
    · rintro rfl
      exact rfl
  | cons j js ih =>
    rw [toDocs, List.forall₂_cons_left_iff]
    simp only [readItems, bind_eq_ok, ih]
    constructor
    · rintro ⟨a, hread, as, later, ⟨⟩⟩
      exact ⟨a, as, hread, later, rfl⟩
    · rintro ⟨a, as, hread, later, rfl⟩
      exact ⟨a, hread, as, later, rfl⟩

end Codec

namespace Field

def Takes (f : Field ρ β) (value : β) : Option Json → Prop
  | some j => f.codec.decodeValue j = .ok value
  | none => f.fallback = some value

def Leaves (f : Field ρ β) (slot : Option β) : Option Json → Prop
  | some j => ∃ v, f.codec.decodeValue j = .ok v ∧ some v = slot
  | none => slot = none

theorem takes_iff {f : Field ρ β} {value : β} {member : Option Json} :
    f.Takes value member ↔ ∃ slot, f.Leaves slot member ∧ slot.or f.fallback = some value := by
  cases member with
  | none => simp [Takes, Leaves]
  | some j =>
    constructor
    · exact fun h => ⟨_, ⟨value, h, rfl⟩, rfl⟩
    · rintro ⟨_, ⟨v, h, rfl⟩, same⟩
      exact Option.some.inj same ▸ h

variable {name : String} {c : Codec β} {get : ρ → β} {value fallback : β} {unwritten : β → Bool}
  {member : Option Json}

@[simp] theorem required_name : (required name c get).name = name := rfl

@[simp] theorem defaulted_name : (defaulted name c get fallback).name = name := rfl

@[simp] theorem sparse_name : (sparse name c get fallback unwritten).name = name := rfl

@[simp] theorem required_takes :
    (required name c get).Takes value member ↔
      ∃ j, member = some j ∧ c.decodeValue j = .ok value := by
  cases member <;> simp [Takes, required]

theorem exists_takes {f : Field ρ β} (h : f.fallback = some fallback) :
    (∃ value, f.Takes value member) ↔
      ∀ j, member = some j → ∃ value, f.codec.decodeValue j = .ok value := by
  cases member <;> simp [Takes, h]

@[simp] theorem exists_defaulted_takes :
    (∃ value, (defaulted name c get fallback).Takes value member) ↔
      ∀ j, member = some j → ∃ value, c.decodeValue j = .ok value := exists_takes rfl

@[simp] theorem exists_sparse_takes :
    (∃ value, (sparse name c get fallback unwritten).Takes value member) ↔
      ∀ j, member = some j → ∃ value, c.decodeValue j = .ok value := exists_takes rfl

end Field

namespace Layout

def Takes (ms : List (String × Json)) : {γ : Type} → Layout ρ γ → γ → ρ → Prop
  | _, .done, make, r => make = r
  | _, .field f rest, make, r =>
    ∃ value, f.Takes value (ms.lookup f.name) ∧ rest.Takes ms (make value) r

variable {f : Field ρ β} {rest layout : Layout ρ γ}

@[simp] theorem takes_done {make : ρ} : (Layout.done : Layout ρ ρ).Takes ms make r ↔ make = r :=
  Iff.rfl

@[simp] theorem takes_field {make : β → γ} : (Layout.field f rest).Takes ms make r ↔
    ∃ value, f.Takes value (ms.lookup f.name) ∧ rest.Takes ms (make value) r := Iff.rfl

def Readable (ms : List (String × Json)) : {γ : Type} → Layout ρ γ → Prop
  | _, .done => True
  | _, .field f rest => (∃ value, f.Takes value (ms.lookup f.name)) ∧ rest.Readable ms

@[simp] theorem readable_done : (Layout.done : Layout ρ ρ).Readable ms := trivial

@[simp] theorem readable_field : (Layout.field f rest).Readable ms ↔
    (∃ value, f.Takes value (ms.lookup f.name)) ∧ rest.Readable ms := Iff.rfl

theorem exists_takes_iff {make : γ} : (∃ r, layout.Takes ms make r) ↔ layout.Readable ms := by
  induction layout with
  | done => exact iff_of_true ⟨make, rfl⟩ trivial
  | field f rest ih =>
    rw [readable_field]
    constructor
    · rintro ⟨r, value, takes, later⟩
      exact ⟨⟨value, takes⟩, ih.1 ⟨r, later⟩⟩
    · rintro ⟨⟨value, takes⟩, later⟩
      obtain ⟨r, later⟩ := ih.2 later
      exact ⟨r, value, takes, later⟩

theorem fill_unknown {route : Route} {closed : Bool} {key : String} {j : Json}
    {docs : List (Option String × Doc)} {slots : layout.Slots} (h : key ∉ layout.names) :
    layout.fill route closed ((some key, j.toDoc) :: docs) slots =
      layout.fill route closed docs slots := by
  rw [fill_cons, put_eq_none.2 h, whole_toDoc]
  rfl

theorem fill_field_eq_ok {slot : Option β} {others others' : rest.Slots}
    (keys : (ms.map Prod.fst).Nodup) (fresh : f.name ∉ rest.names) :
    fill .value (.field f rest) true (memberDocs ms) (none, others) = .ok (slot, others') ↔
      f.Leaves slot (ms.lookup f.name) ∧
        fill .value rest true (memberDocs ms) others = .ok others' := by
  induction ms generalizing others with
  | nil =>
    constructor
    · rintro ⟨⟩
      exact ⟨rfl, rfl⟩
    · rintro ⟨rfl, h⟩
      cases h
      rfl
  | cons m ms ih =>
    obtain ⟨key, j⟩ := m
    obtain ⟨alone, keys⟩ := List.nodup_cons.1 keys
    rw [memberDocs, lookup_cons]
    by_cases hkey : key = f.name
    · subst hkey
      have absent : ∀ e ∈ memberDocs ms, e.1 ≠ some f.name := by
        rw [memberDocs_eq_map]
        exact List.forall_mem_map.2 fun e he same =>
          alone (List.mem_map.2 ⟨e, he, Option.some.inj same⟩)
      have later (v : β) : fill .value (.field f rest) true (memberDocs ms) (some v, others) =
          .ok (slot, others') ↔
            some v = slot ∧ fill .value rest true (memberDocs ms) others = .ok others' := by
        rw [fill_field_of_absent absent]
        refine map_eq_ok.trans ⟨?_, ?_⟩
        · rintro ⟨others, h, ⟨⟩⟩
          exact ⟨rfl, h⟩
        · rintro ⟨rfl, h⟩
          exact ⟨_, h, rfl⟩
      rw [if_pos rfl, fill_unknown fresh]
      refine fill_cons_eq_ok.trans ?_
      constructor
      · rintro (⟨⟨slot, others⟩, hput, hfill⟩ | ⟨unknown, -⟩)
        · obtain ⟨-, ⟨v, hread, rfl⟩, rfl⟩ := put_own_eq_ok.1 hput
          obtain ⟨rfl, hrest⟩ := (later v).1 hfill
          exact ⟨⟨v, hread, rfl⟩, hrest⟩
        · exact absurd List.mem_cons_self unknown
      · rintro ⟨⟨v, hread, rfl⟩, hrest⟩
        exact .inl ⟨(some v, others), put_own_eq_ok.2 ⟨rfl, ⟨v, hread, rfl⟩, rfl⟩,
          (later v).2 ⟨rfl, hrest⟩⟩
    · rw [if_neg (Ne.symm hkey)]
      refine fill_cons_eq_ok.trans ?_
      constructor
      · rintro (⟨⟨slot, next⟩, hput, hfill⟩ | ⟨unknown, -, hfill⟩)
        · obtain ⟨rfl, placed⟩ := (put_other_eq_ok hkey).1 hput
          obtain ⟨leaves, hrest⟩ := (ih keys).1 hfill
          exact ⟨leaves, fill_cons_eq_ok.2 (.inl ⟨next, placed, hrest⟩)⟩
        · obtain ⟨leaves, hrest⟩ := (ih keys).1 hfill
          have unknown : key ∉ rest.names := fun h => unknown (List.mem_cons_of_mem _ h)
          exact ⟨leaves, (fill_unknown unknown).trans hrest⟩
      · rintro ⟨leaves, hrest⟩
        obtain ⟨next, hput, hrest⟩ | ⟨unknown, whole, hrest⟩ := fill_cons_eq_ok.1 hrest
        · exact .inl ⟨(none, next), (put_other_eq_ok hkey).2 ⟨rfl, hput⟩,
            (ih keys).2 ⟨leaves, hrest⟩⟩
        · refine .inr ⟨fun h => ?_, whole, (ih keys).2 ⟨leaves, hrest⟩⟩
          exact (List.mem_cons.1 h).elim hkey unknown

theorem build_field_eq_ok {make : β → γ} {slot : Option β} {others : rest.Slots} :
    (field f rest).build make (slot, others) = .ok r ↔
      ∃ value, slot.or f.fallback = some value ∧ rest.build (make value) others = .ok r := by
  cases hvalue : slot.or f.fallback with
  | none => exact iff_of_false (fun h => by rw [build_missing hvalue] at h; cases h) nofun
  | some value =>
    rw [build_field hvalue]
    simp

theorem takes_eq_ok {make : γ} (keys : (ms.map Prod.fst).Nodup) (distinct : layout.names.Nodup) :
    (∃ slots, layout.fill .value true (memberDocs ms) layout.noSlots = .ok slots ∧
      layout.build make slots = .ok r) ↔ layout.Takes ms make r := by
  induction layout with
  | done =>
    have passed : fill .value (Layout.done : Layout ρ ρ) true (memberDocs ms) () = .ok () := by
      clear keys
      induction ms with
      | nil => rfl
      | cons m ms ih => exact (fill_unknown List.not_mem_nil).trans ih
    rw [takes_done]
    constructor
    · rintro ⟨_, -, ⟨⟩⟩
      exact rfl
    · rintro rfl
      exact ⟨(), passed, rfl⟩
  | field f rest ih =>
    obtain ⟨fresh, distinct⟩ := List.nodup_cons.1 distinct
    rw [takes_field]
    constructor
    · rintro ⟨⟨slot, others⟩, hfill, hbuild⟩
      obtain ⟨leaves, hrest⟩ := (fill_field_eq_ok keys fresh).1 hfill
      obtain ⟨value, held, hbuild⟩ := build_field_eq_ok.1 hbuild
      exact ⟨value, Field.takes_iff.2 ⟨slot, leaves, held⟩, (ih distinct).1 ⟨others, hrest, hbuild⟩⟩
    · rintro ⟨value, takes, later⟩
      obtain ⟨slot, leaves, held⟩ := Field.takes_iff.1 takes
      obtain ⟨others, hrest, hbuild⟩ := (ih distinct).2 later
      exact ⟨(slot, others), (fill_field_eq_ok keys fresh).2 ⟨leaves, hrest⟩,
        build_field_eq_ok.2 ⟨value, held, hbuild⟩⟩

end Layout

theorem Record.decodeValue_eq_ok {record : Record ρ} (keys : (ms.map Prod.fst).Nodup)
    (distinct : record.layout.names.Nodup) :
    record.codec.decodeValue (.object ms) = .ok r ↔ record.layout.Takes ms record.make r :=
  (read_object_eq_ok rfl).trans (Layout.takes_eq_ok keys distinct)

theorem Record.exists_decodeValue_iff {record : Record ρ} (keys : (ms.map Prod.fst).Nodup)
    (distinct : record.layout.names.Nodup) :
    (∃ r, record.codec.decodeValue (.object ms) = .ok r) ↔ record.layout.Readable ms := by
  simp only [record.decodeValue_eq_ok keys distinct]
  exact Layout.exists_takes_iff

end AccessWindow.Json
