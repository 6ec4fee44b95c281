import AccessWindow.Proofs.Supply
import AccessWindow.Proofs.Url.Grants
import AccessWindow.Proofs.Verdict
import AccessWindow.Proofs.Wire.Members
import AccessWindow.Proofs.Wire.Request

namespace AccessWindow

open Json

namespace Http.Response

variable {α : Type} {context : String} {c : Codec α} {r : Response} {v : Json} {a : α}

def Brings (r : Response) (v : Json) : Prop :=
  r.isSuccess ∧ ∃ bs rest, r.body = some bs ∧ Doc.read bs = (v.toDoc, rest) ∧
    Doc.skipSpace rest = []

theorem result_eq_ok {depth : Nat} (steady : c.Steady depth) (shallow : depth ≤ Route.deepest)
    (h : r.Brings v) : r.result context c = .ok a ↔ c.decodeValue v = .ok a := by
  obtain ⟨success, bs, rest, body, doc, blank⟩ := h
  have decoded : c.decodeText bs = c.read (.text Route.deepest) v.toDoc := by
    rw [Codec.decodeText, doc]
    cases hread : c.read (.text Route.deepest) v.toDoc with
    | error => simp [hread, bind, Except.bind]
    | ok a => simp [hread, blank, bind, Except.bind, pure, Except.pure]
  have served : r.succeed context = .ok () := by rw [succeed, if_pos success]
  have found : r.decode context c = .ok a ↔ c.decodeText bs = .ok a := by
    rw [decode, body, Option.map_some]
    cases c.decodeText bs <;> simp
  rw [Codec.decodeValue, ← steady (.text Route.deepest) shallow, ← decoded, ← found, result, served]
  rfl

end Http.Response

section Steady

variable {depth : Nat}

theorem Instant.steady : Instant.codec.Steady depth := fun _ _ _ _ => Iff.rfl

theorem Request.Spec.steady : Request.Spec.record.codec.Steady (depth + 2) := by
  have texts : (Codec.list .text).Steady (depth + 1) := Codec.list_steady Codec.text_steady
  have entries : (Codec.dict .text).Steady (depth + 1) := Codec.dict_steady Codec.text_steady
  refine Record.steady ?_
  simp [Request.Spec.record, Field.required, Field.defaulted, Codec.text_steady, texts, entries,
    Instant.steady]

theorem Request.Status.steady : Request.Status.record.codec.Steady (depth + 1) := by
  have phase : Phase.codec.Steady depth := Codec.text_steady.map
  have ticket : TicketLink.codec.Steady depth := Codec.text_steady.map
  have time : (Codec.option Instant.codec).Steady depth := Codec.option_steady Instant.steady
  refine Record.steady ?_
  simp [Request.Status.record, Field.defaulted, Field.sparse, Codec.text_steady, phase, ticket,
    time]

namespace Cluster

theorem OwnerLink.steady : OwnerLink.record.codec.Steady (depth + 1) := by
  refine Record.steady ?_
  simp [OwnerLink.record, Field.required, Field.defaulted, Codec.text_steady, Codec.flag_steady]

theorem Metadata.steady : Metadata.record.codec.Steady (depth + 3) := by
  have mark : (Codec.option .text).Steady (depth + 2) := Codec.option_steady Codec.text_steady
  have notes : (Codec.dict .text).Steady (depth + 2) := Codec.dict_steady Codec.text_steady
  have owners : (Codec.list OwnerLink.record.codec).Steady (depth + 2) :=
    Codec.list_steady OwnerLink.steady
  refine Record.steady ?_
  simp [Metadata.record, Field.required, Field.sparse, Codec.text_steady, mark, notes, owners]

theorem RequestObject.steady : RequestObject.record.codec.Steady (depth + 4) := by
  refine Record.steady ?_
  simp [RequestObject.record, Field.required, Field.defaulted, Codec.text_steady, Metadata.steady,
    Request.Spec.steady, Request.Status.steady]

theorem items_steady {α : Type} {c : Codec α} (h : c.Steady depth) :
    (items c).codec.Steady (depth + 2) := by
  have listed : (Codec.list c).Steady (depth + 1) := Codec.list_steady h
  refine Record.steady ?_
  simp [items, Field.defaulted, listed]

end Cluster

end Steady

namespace Hook

/-- An object that the hook can read, with a name in its metadata. -/
structure Presented where
  members : List (String × Json)
  metadata : List (String × Json)
  name : String
  submitted : Submitted
  keys : (members.map Prod.fst).Nodup
  inner : (metadata.map Prod.fst).Nodup
  held : members.lookup "metadata" = some (.object metadata)
  named : metadata.lookup "name" = some (.string name)
  read : Submitted.record.codec.decodeValue (.object members) = .ok submitted

namespace Presented

open Cluster

variable {p : Presented}

/-- What the hook does not look at is of the shape that the worker expects. -/
structure Legible (p : Presented) : Prop where
  titles : ∀ key ∈ ["apiVersion", "kind"], ∀ j, p.members.lookup key = some j → ∃ s, j = .string s
  marks : ∀ key ∈ ["namespace", "uid", "resourceVersion"], ∀ j,
    p.metadata.lookup key = some j → j = .null ∨ ∃ s, j = .string s
  annotations : ∀ j, p.metadata.lookup "annotations" = some j →
    ∃ notes, j = .object notes ∧ ∀ note ∈ notes, ∃ s, note.2 = .string s
  owners : ∀ j, p.metadata.lookup "ownerReferences" = some j →
    ∃ owners, (Codec.list OwnerLink.record.codec).decodeValue j = .ok owners
  status : ∀ j, p.members.lookup "status" = some j →
    ∃ status, Request.Status.record.codec.decodeValue j = .ok status

theorem spec_read (p : Presented) : ∃ j, p.members.lookup "spec" = some j ∧
    Request.Spec.record.codec.decodeValue j = .ok p.submitted.spec := by
  obtain ⟨name, -, spec, hspec, made⟩ :=
    (Submitted.record.decodeValue_eq_ok p.keys (by decide)).1 p.read
  have same : spec = p.submitted.spec := congrArg Submitted.spec made
  exact same ▸ Field.required_takes.1 hspec

theorem metadata_readable : Metadata.record.layout.Readable p.metadata ↔
    (∀ key ∈ ["namespace", "uid", "resourceVersion"], ∀ j,
        p.metadata.lookup key = some j → j = .null ∨ ∃ s, j = .string s) ∧
      (∀ j, p.metadata.lookup "annotations" = some j →
        ∃ notes, j = .object notes ∧ ∀ note ∈ notes, ∃ s, note.2 = .string s) ∧
      ∀ j, p.metadata.lookup "ownerReferences" = some j →
        ∃ owners, (Codec.list OwnerLink.record.codec).decodeValue j = .ok owners := by
  simp [Metadata.record, Codec.text_decodeValue_eq_ok, Codec.exists_text_or_null,
    Codec.exists_dict_decodeValue, p.named, and_assoc]

theorem legible_iff :
    (∃ o, RequestObject.record.codec.decodeValue (.object p.members) = .ok o) ↔ p.Legible := by
  have metadata : (∃ m j, p.members.lookup "metadata" = some j ∧
      Metadata.record.codec.decodeValue j = .ok m) ↔
        Metadata.record.layout.Readable p.metadata := by
    rw [← Record.exists_decodeValue_iff p.inner (by decide), p.held]
    simp
  have spec : ∃ s j, p.members.lookup "spec" = some j ∧
      Request.Spec.record.codec.decodeValue j = .ok s := ⟨_, p.spec_read⟩
  rw [Record.exists_decodeValue_iff p.keys (by decide)]
  simp only [RequestObject.record, Layout.readable_field, Layout.readable_done, and_true,
    Field.exists_defaulted_takes, Field.defaulted_name, Field.required_takes, Field.required_name,
    metadata, spec, true_and, metadata_readable, Codec.text_decodeValue_eq_ok]
  constructor
  · rintro ⟨version, kind, ⟨marks, annotations, owners⟩, status⟩
    exact ⟨by simpa using ⟨version, kind⟩, marks, annotations, owners, status⟩
  · intro h
    have titles := h.titles
    exact ⟨titles "apiVersion" (by simp), titles "kind" (by simp),
      ⟨h.marks, h.annotations, h.owners⟩, h.status⟩

theorem spec_eq {o : RequestObject}
    (h : RequestObject.record.codec.decodeValue (.object p.members) = .ok o) :
    o.spec = p.submitted.spec := by
  obtain ⟨version, -, kind, -, metadata, -, spec, hspec, status, -, rfl⟩ :=
    (RequestObject.record.decodeValue_eq_ok p.keys (by decide)).1 h
  obtain ⟨j, hj, hread⟩ := Field.required_takes.1 hspec
  obtain ⟨j', hj', hread'⟩ := p.spec_read
  obtain rfl := Option.some.inj (hj.symm.trans hj')
  exact Except.ok.inj (hread.symm.trans hread')

end Presented

end Hook

namespace Cluster

open Http Hook

variable {c : Cluster} {r : Response} {v : Json}

theorem interpret_requestNamed {name : String} {e : Exchange Request} {q : Request}
    (h : c.requestNamed name = .ok e) (brings : r.Brings v) :
    e.interpret r = .ok q ↔
      ∃ o, RequestObject.record.codec.decodeValue v = .ok o ∧ o.request = q := by
  obtain ⟨url, -, h⟩ := bind_eq_ok.1 h
  rw [interpret_of_exchange h]
  refine bind_eq_ok.trans ?_
  simp only [Response.result_eq_ok (@RequestObject.steady 0) (by decide) brings]
  constructor
  · rintro ⟨o, hread, ⟨⟩⟩
    exact ⟨o, hread, rfl⟩
  · rintro ⟨o, hread, rfl⟩
    exact ⟨o, hread, rfl⟩

theorem interpret_allRequests {e : Exchange (List Request)} {qs : List Request}
    (h : c.allRequests = .ok e) (brings : r.Brings v) :
    e.interpret r = .ok qs ↔
      ∃ os, (items RequestObject.record.codec).codec.decodeValue v = .ok os ∧
        os.map RequestObject.request = qs := by
  obtain ⟨url, -, h⟩ := bind_eq_ok.1 h
  rw [interpret_of_exchange h]
  refine bind_eq_ok.trans ?_
  simp only [Response.result_eq_ok (items_steady (@RequestObject.steady 0)) (by decide) brings]
  constructor
  · rintro ⟨os, hread, ⟨⟩⟩
    exact ⟨os, hread, rfl⟩
  · rintro ⟨os, hread, rfl⟩
    exact ⟨os, hread, rfl⟩

theorem items_decodeValue_eq_ok {α : Type} {codec : Codec α} {members : List (String × Json)}
    {js : List Json} {as : List α} (keys : (members.map Prod.fst).Nodup)
    (listed : members.lookup "items" = some (.array js)) :
    (items codec).codec.decodeValue (.object members) = .ok as ↔
      List.Forall₂ (fun j a => codec.decodeValue j = .ok a) js as := by
  have distinct : (items codec).layout.names.Nodup :=
    List.nodup_cons.2 ⟨List.not_mem_nil, List.nodup_nil⟩
  rw [Record.decodeValue_eq_ok keys distinct, ← Codec.list_decodeValue_eq_ok]
  change (∃ held, Field.Takes _ held (members.lookup "items") ∧ held = as) ↔ _
  rw [listed]
  exact exists_eq_right

theorem exists_forall₂ {α β : Type} {R : α → β → Prop} {as : List α} :
    (∃ bs, List.Forall₂ R as bs) ↔ ∀ a ∈ as, ∃ b, R a b := by
  induction as with
  | nil => exact iff_of_true ⟨[], .nil⟩ nofun
  | cons a as ih =>
    rw [List.forall_mem_cons, ← ih]
    constructor
    · rintro ⟨_, _ | ⟨first, later⟩⟩
      exact ⟨⟨_, first⟩, _, later⟩
    · rintro ⟨⟨b, first⟩, bs, later⟩
      exact ⟨b :: bs, .cons first later⟩

theorem specs_eq {ps : List Presented} {os : List RequestObject} (h : List.Forall₂
    (fun p o => RequestObject.record.codec.decodeValue (.object p.members) = .ok o) ps os) :
    (os.map RequestObject.request).map (·.spec) = ps.map (·.submitted.spec) := by
  induction h with
  | nil => rfl
  | cons first later ih =>
    rw [List.map_cons, List.map_cons, List.map_cons, ih]
    exact congrArg (· :: _) (Presented.spec_eq first)

/-- The worker reads an object that the hook can read if and only if what the hook does not look at
is as it should be, and a listing of them if and only if that is so of each. From what it can read,
it reads the requests that the hook did. -/
theorem presented_read_iff (c : Cluster) :
    (∀ (p : Presented) (name : String) e r,
      c.requestNamed name = .ok e → r.Brings (.object p.members) →
      ((∃ q, e.interpret r = .ok q) ↔ p.Legible) ∧
        ∀ q, e.interpret r = .ok q → q.spec = p.submitted.spec) ∧
    ∀ (ps : List Presented) e r members, c.allRequests = .ok e → r.Brings (.object members) →
      (members.map Prod.fst).Nodup →
      members.lookup "items" = some (.array (ps.map fun p => .object p.members)) →
      ((∃ qs, e.interpret r = .ok qs) ↔ ∀ p ∈ ps, p.Legible) ∧
        ∀ qs, e.interpret r = .ok qs → qs.map (·.spec) = ps.map (·.submitted.spec) := by
  constructor
  · intro p name e r he brings
    simp only [interpret_requestNamed he brings, ← p.legible_iff]
    refine ⟨⟨fun ⟨_, o, hread, _⟩ => ⟨o, hread⟩, fun ⟨o, hread⟩ => ⟨_, o, hread, rfl⟩⟩, ?_⟩
    rintro _ ⟨o, hread, rfl⟩
    exact p.spec_eq hread
  · intro ps e r members he brings keys listed
    simp only [interpret_allRequests he brings, items_decodeValue_eq_ok keys listed,
      List.forall₂_map_left_iff, ← Presented.legible_iff, ← exists_forall₂]
    refine ⟨⟨fun ⟨_, os, hread, _⟩ => ⟨os, hread⟩, fun ⟨os, hread⟩ => ⟨_, os, hread, rfl⟩⟩, ?_⟩
    rintro _ ⟨os, hread, rfl⟩
    exact specs_eq hread

namespace Sample

def object (further : List (String × Json)) : List (String × Json) :=
  [("metadata", .object [("name", .string "jit-1")]),
    ("spec", Request.Spec.record.codec.write Hook.Sample.spec)] ++ further

theorem read_object {further : List (String × Json)}
    (keys : ((object further).map Prod.fst).Nodup) :
    Submitted.record.codec.decodeValue (.object (object further)) =
      .ok ⟨some "jit-1", Hook.Sample.spec⟩ := by
  have spec : Request.Spec.record.codec.decodeValue
      (Request.Spec.record.codec.write Hook.Sample.spec) = .ok Hook.Sample.spec :=
    (@Request.Spec.returns 0 Hook.Sample.spec).read .value trivial
  exact (Submitted.record.decodeValue_eq_ok keys (by decide)).2
    ⟨some "jit-1", rfl, Hook.Sample.spec, Field.required_takes.2 ⟨_, rfl, spec⟩, rfl⟩

def plain : Presented where
  members := object []
  metadata := [("name", .string "jit-1")]
  name := "jit-1"
  submitted := ⟨some "jit-1", Hook.Sample.spec⟩
  keys := by decide
  inner := by decide
  held := rfl
  named := rfl
  read := read_object (by decide)

def marred : Presented where
  members := object [("status", .null)]
  metadata := [("name", .string "jit-1")]
  name := "jit-1"
  submitted := ⟨some "jit-1", Hook.Sample.spec⟩
  keys := by decide
  inner := by decide
  held := rfl
  named := rfl
  read := read_object (by decide)

theorem plain_legible : plain.Legible := by
  have titles : ∀ key ∈ ["apiVersion", "kind"], key ∉ plain.members.map Prod.fst := by decide
  have marks : ∀ key ∈ ["namespace", "uid", "resourceVersion"],
      key ∉ plain.metadata.map Prod.fst := by decide
  have absurd {ms : List (String × Json)} {key : String} {j : Json} {goal : Prop}
      (absent : key ∉ ms.map Prod.fst) (found : ms.lookup key = some j) : goal := by
    rw [lookup_eq_none absent] at found
    cases found
  exact ⟨fun key hkey _ found => absurd (titles key hkey) found,
    fun key hkey _ found => absurd (marks key hkey) found, fun _ found => absurd (by decide) found,
    fun _ found => absurd (by decide) found, fun _ found => absurd (by decide) found⟩

theorem marred_illegible : ¬marred.Legible := by
  intro h
  obtain ⟨status, hread⟩ := h.status .null rfl
  cases hread

def reply (v : Json) : Response := ⟨200, some (Text.Utf8.encode (compactText v))⟩

theorem reply_brings (h : numberless v) : (reply v).Brings v := by
  refine ⟨rfl, _, [], rfl, ?_, rfl⟩
  rw [Text.Utf8.encode, compactText, String.toList_ofList, compact_eq 0]
  exact Doc.read_print h

def listing (ps : List Presented) : List (String × Json) :=
  [("items", .array (ps.map fun p => .object p.members))]

theorem plain_is_read :
    (∃ e q, cluster.requestNamed "jit-1" = .ok e ∧
      e.interpret (reply (.object plain.members)) = .ok q ∧ q.spec = Hook.Sample.spec) ∧
    ∃ e qs, cluster.allRequests = .ok e ∧
      e.interpret (reply (.object (listing [plain, plain]))) = .ok qs ∧
      qs.map (·.spec) = [Hook.Sample.spec, Hook.Sample.spec] := by
  obtain ⟨single, several⟩ := presented_read_iff cluster
  constructor
  · obtain ⟨legible, spec⟩ := single plain "jit-1" _ _ rfl (reply_brings (by decide +kernel))
    obtain ⟨q, hread⟩ := legible.2 plain_legible
    exact ⟨_, q, rfl, hread, spec q hread⟩
  · obtain ⟨legible, specs⟩ := several [plain, plain] _ _ (listing [plain, plain]) rfl
      (reply_brings (by decide +kernel)) (by decide) rfl
    obtain ⟨qs, hread⟩ := legible.2 (by simpa using plain_legible)
    exact ⟨_, qs, rfl, hread, specs qs hread⟩

/-- One object that the hook lets in can make the worker fail to read all that are listed with
it. -/
theorem allowed_object_can_spoil_listing :
    (Hook.verdict ⟨true, false⟩ ⟨"r-1", "CREATE", none, some (.object marred.members)⟩).under
        Hook.Sample.answers = .ok .allowed ∧
      ∃ e, cluster.allRequests = .ok e ∧
        ∀ qs, e.interpret (reply (.object (listing [plain, marred]))) ≠ .ok qs := by
  constructor
  · obtain ⟨v, hv, rules⟩ := Hook.verdict_rules Hook.Sample.answers ⟨true, false⟩
      ⟨"r-1", "CREATE", none, some (.object marred.members)⟩
    cases rules with
    | allowed => exact hv
    | denied unwelcome =>
      exact absurd (.admissible rfl marred.read rfl Hook.Sample.spec_admissible) unwelcome
  · obtain ⟨e, he⟩ : ∃ e, cluster.allRequests = .ok e := ⟨_, rfl⟩
    refine ⟨e, he, fun qs hread => marred_illegible (Presented.legible_iff.1 ?_)⟩
    have brings := @reply_brings (.object (listing [plain, marred])) (by decide +kernel)
    obtain ⟨os, hos, -⟩ := (interpret_allRequests he brings).1 hread
    obtain - | ⟨-, later⟩ := (items_decodeValue_eq_ok (by decide) rfl).1 hos
    obtain - | ⟨first, -⟩ := later
    exact ⟨_, first⟩

end Sample

end Cluster

end AccessWindow
