import AccessWindow.Json.Choice
import AccessWindow.Proofs.Lookup
import AccessWindow.Proofs.Wire.Document

namespace AccessWindow.Json

def Route.Holds (depth : Nat) : Route → Prop
  | .text levels => depth ≤ levels
  | .value => True

theorem Route.Holds.deeper {depth : Nat} {route : Route} (h : route.Holds (depth + 1)) :
    ∃ inner, route.deeper = .ok inner ∧ inner.Holds depth := by
  cases route with
  | value => exact ⟨.value, rfl, trivial⟩
  | text levels =>
    cases levels with
    | zero => exact absurd h (Nat.not_succ_le_zero _)
    | succ levels => exact ⟨.text levels, rfl, Nat.le_of_succ_le_succ h⟩

theorem toDocs_eq_map (js : List Json) : toDocs js = js.map toDoc := by
  induction js with
  | nil => rfl
  | cons j js ih => rw [toDocs, ih, List.map_cons]

theorem memberDocs_eq_map (members : List (String × Json)) :
    memberDocs members = members.map fun e => (some e.1, e.2.toDoc) := by
  induction members with
  | nil => rfl
  | cons member members ih => rw [memberDocs, ih, List.map_cons]

namespace Codec

variable {α β : Type}

structure Returns (c : Codec α) (depth : Nat) (a b : α) : Prop where
  plain : numberless (c.write a)
  read : ∀ route : Route, route.Holds depth → c.read route (c.write a).toDoc = .ok b

variable {c : Codec α} {depth : Nat} {a b : α}

theorem Returns.decode_compactText (h : c.Returns depth a b) (shallow : depth ≤ Route.deepest) :
    c.decodeText (Text.Utf8.encode (compactText (c.write a))) = .ok b :=
  (decodeText_compactText h.plain).trans (h.read _ shallow)

theorem Returns.decode_prettyText (h : c.Returns depth a b) (shallow : depth ≤ Route.deepest) :
    c.decodeText (Text.Utf8.encode (prettyText (c.write a))) = .ok b :=
  (decodeText_prettyText h.plain).trans (h.read _ shallow)

theorem exists_of_decodeText {bs : List UInt8} (h : c.decodeText bs = .ok a) :
    ∃ route d, c.read route d = .ok a := by
  refine ⟨.text Route.deepest, (Doc.read bs).1, ?_⟩
  change (c.read (.text Route.deepest) (Doc.read bs).1).bind (fun a =>
    if Doc.skipSpace (Doc.read bs).2 = [] then .ok a else .error .malformed) = _ at h
  cases hread : c.read (.text Route.deepest) (Doc.read bs).1 with
  | error =>
    rw [hread] at h
    cases h
  | ok b =>
    rw [hread] at h
    change (if _ then _ else _) = _ at h
    split at h
    · exact h
    · cases h

theorem exists_of_map {f : α → β} {g : β → α} {route : Route} {d : Doc} {x : β}
    (h : (c.map f g).read route d = .ok x) : ∃ a, f a = x := by
  change (c.read route d).map f = _ at h
  cases hread : c.read route d with
  | error =>
    rw [hread] at h
    cases h
  | ok a =>
    rw [hread] at h
    exact ⟨a, Except.ok.inj h⟩

theorem text_returns (s : String) : text.Returns depth s s := ⟨rfl, fun _ _ => rfl⟩

theorem flag_returns (b : Bool) : flag.Returns depth b b := ⟨rfl, fun _ _ => rfl⟩

theorem Returns.map {f : α → β} {g : β → α} {x : β} (h : c.Returns depth (g x) b) :
    (c.map f g).Returns depth x (f b) where
  plain := h.plain
  read route holds := congrArg (Except.map f) (h.read route holds)

theorem option_returns {o : Option α}
    (h : ∀ a, o = some a → c.write a ≠ .null ∧ c.Returns depth a a) :
    (option c).Returns depth o o := by
  cases o with
  | none => exact ⟨rfl, fun _ _ => rfl⟩
  | some a =>
    obtain ⟨shown, returns⟩ := h a rfl
    refine ⟨returns.plain, fun route holds => ?_⟩
    have read := congrArg (Except.map some) (returns.read route holds)
    simp only [option]
    cases hj : c.write a with
    | null => exact absurd hj shown
    | _ => rwa [hj] at read

theorem readItems_returns {route : Route} {as : List α} (h : ∀ a ∈ as, c.Returns depth a a)
    (holds : route.Holds depth) :
    readItems c route true (as.map fun a => (c.write a).toDoc) = .ok as := by
  induction as with
  | nil => rfl
  | cons a as ih =>
    obtain ⟨first, others⟩ := List.forall_mem_cons.1 h
    rw [List.map_cons, readItems, first.read route holds, ih others]
    rfl

theorem list_returns {as : List α} (h : ∀ a ∈ as, c.Returns depth a a) :
    (list c).Returns (depth + 1) as as where
  plain := by
    change numberlessItems (as.map c.write)
    exact numberlessItems_iff.2 (List.forall_mem_map.2 fun a ha => (h a ha).plain)
  read route holds := by
    obtain ⟨inner, hinner, deep⟩ := holds.deeper
    change (route.deeper >>= fun inner => readItems c inner true (toDocs (as.map c.write))) = _
    rw [hinner, toDocs_eq_map, List.map_map]
    exact readItems_returns h deep

theorem readEntries_returns {route : Route} {entries : List (String × α)} {d : Dict α}
    (h : ∀ e ∈ entries, c.Returns depth e.2 e.2) (holds : route.Holds depth) :
    readEntries c route true (entries.map fun e => (some e.1, (c.write e.2).toDoc)) d =
      .ok (entries.foldl (fun d e => d.insert e.1 e.2) d) := by
  induction entries generalizing d with
  | nil => rfl
  | cons e entries ih =>
    obtain ⟨first, others⟩ := List.forall_mem_cons.1 h
    rw [List.map_cons, readEntries, first.read route holds]
    exact ih others

theorem dict_returns {d : Dict α} (h : ∀ e ∈ d.entries, c.Returns depth e.2 e.2) :
    (dict c).Returns (depth + 1) d d where
  plain := by
    change numberlessMembers (d.entries.map fun e => (e.1, c.write e.2))
    exact numberlessMembers_iff.2 (List.forall_mem_map.2 fun e he => (h e he).plain)
  read route holds := by
    obtain ⟨inner, hinner, deep⟩ := holds.deeper
    change (route.deeper >>= fun inner => readEntries c inner true
      (memberDocs (d.entries.map fun e => (e.1, c.write e.2))) .empty) = _
    rw [hinner, memberDocs_eq_map, List.map_map]
    exact (readEntries_returns h deep).trans (congrArg Except.ok (Dict.ofList_entries d))

theorem choice_returns {options : List (String × α)} {name : α → String}
    (h : options.lookup (name a) = Option.some a) : (choice options name).Returns depth a a where
  plain := rfl
  read route _ := by
    have read : named options (name a) = .ok a := by rw [named, h]
    cases route <;> exact read

end Codec

end AccessWindow.Json
