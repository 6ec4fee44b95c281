import AccessWindow.Cluster.Wire
import AccessWindow.Proofs.Wire.Record
import AccessWindow.Proofs.Wire.Timestamp

namespace AccessWindow

open Json

variable {depth : Nat}

theorem Instant.returns (t : Instant) : Instant.codec.Returns depth t t where
  plain := rfl
  read _ _ := by simp only [Instant.codec, toDoc, Time.Rfc3339.read_text]

theorem Phase.returns (p : Phase) : Phase.codec.Returns depth p (.ofText p.text) :=
  (Codec.text_returns p.text).map

theorem TicketLink.returns (l : TicketLink) : TicketLink.codec.Returns depth l (.ofText l.text) :=
  (Codec.text_returns l.text).map

theorem Phase.text_ofText (s : String) : (Phase.ofText s).text = s := by
  rw [ofText]
  split
  · exact Eq.symm ‹_›
  split
  · exact Eq.symm ‹_›
  split
  · exact Eq.symm ‹_›
  split
  · exact Eq.symm ‹_›
  · rfl

theorem TicketLink.text_ofText (s : String) : (TicketLink.ofText s).text = Text.trim s := by
  simp only [ofText]
  split
  · exact Eq.symm ‹_›
  split
  · exact Eq.symm ‹_›
  · rfl

theorem TicketLink.ofText_trim (s : String) :
    TicketLink.ofText (Text.trim s) = TicketLink.ofText s := by
  simp only [ofText, Text.trim_trim]

theorem TicketLink.ofText_eq_issue {key : String} :
    TicketLink.ofText key = .issue key ↔
      key ≠ "" ∧ Text.Trimmed key.toList ∧ key ≠ "Skipped" := by
  rw [← Text.trim_eq_self]
  constructor
  · intro h
    have trimmed : Text.trim key = key := by rw [← text_ofText, h, text]
    simp only [ofText, trimmed] at h
    split at h
    · cases h
    split at h
    · cases h
    · exact ⟨‹_›, trimmed, ‹_›⟩
  · rintro ⟨filled, trimmed, unskipped⟩
    simp only [ofText, trimmed]
    rw [if_neg filled, if_neg unskipped]

namespace Request

theorem Spec.record_sound : Spec.record.Sound := ⟨by decide, fun _ => rfl⟩

theorem Spec.returns (s : Spec) : Spec.record.codec.Returns (depth + 2) s s := by
  refine Spec.record_sound.returns ?_
  have texts (ss : List String) : (Codec.list .text).Returns (depth + 1) ss ss :=
    Codec.list_returns fun s _ => Codec.text_returns s
  have entries (d : Dict String) : (Codec.dict .text).Returns (depth + 1) d d :=
    Codec.dict_returns fun e _ => Codec.text_returns e.2
  simp [Spec.record, Codec.text_returns, Instant.returns, texts, entries]

def Status.kept (s : Status) : Status :=
  { s with phase := .ofText s.phase.text, ticket := .ofText s.ticket.text }

@[simp] theorem Status.kept_phase (s : Status) : s.kept.phase = .ofText s.phase.text := by
  rw [kept]

@[simp] theorem Status.kept_ticket (s : Status) : s.kept.ticket = .ofText s.ticket.text := by
  rw [kept]

theorem Status.record_sound : Status.record.Sound := ⟨by decide, fun _ => rfl⟩

theorem Status.returns (s : Status) : Status.record.codec.Returns (depth + 1) s s.kept := by
  refine Status.record_sound.returns ?_
  have message : Codec.text.Returns depth s.message s.kept.message := Codec.text_returns _
  have window (name : String) (get : Status → Option Instant) (h : get s.kept = get s) :
      (Field.sparse name (.option Instant.codec) get none Option.isNone).Returns depth s s.kept :=
    Field.sparse_option_returns (Codec.option_returns fun t _ => ⟨nofun, Instant.returns t⟩) h
  have start := window "startTime" Status.start rfl
  have finish := window "endTime" Status.finish rfl
  simp [Status.record, Phase.returns, TicketLink.returns, message, start, finish]

theorem Status.kept_of_read {route : Route} {d : Doc} {s : Status}
    (h : Status.record.codec.read route d = .ok s) : s.kept = s := by
  obtain ⟨phase, hphase, message, -, ticket, hticket, start, -, finish, -, rfl⟩ := Record.yields h
  obtain ⟨p, rfl⟩ : ∃ p, Phase.ofText p = phase := by
    obtain ⟨_, _, hread⟩ | hfallback := hphase
    · exact Codec.exists_of_map hread
    · exact ⟨"", Option.some.inj hfallback⟩
  obtain ⟨t, rfl⟩ : ∃ t, TicketLink.ofText t = ticket := by
    obtain ⟨_, _, hread⟩ | hfallback := hticket
    · exact Codec.exists_of_map hread
    · exact ⟨"", Option.some.inj hfallback⟩
  change Status.kept ⟨.ofText p, message, .ofText t, start, finish⟩ = _
  simp only [Status.kept, Phase.text_ofText, TicketLink.text_ofText, TicketLink.ofText_trim]
  rfl

/-- Some text is read as this request. -/
def Readable (r : Request) : Prop :=
  ∃ bs o, Cluster.RequestObject.record.codec.decodeText bs = .ok o ∧ o.request = r

end Request

namespace Cluster

theorem OwnerLink.record_sound : OwnerLink.record.Sound := ⟨by decide, fun _ => rfl⟩

theorem OwnerLink.returns (o : OwnerLink) : OwnerLink.record.codec.Returns (depth + 1) o o := by
  refine OwnerLink.record_sound.returns ?_
  simp [OwnerLink.record, Codec.text_returns, Codec.flag_returns]

theorem Metadata.record_sound : Metadata.record.Sound := ⟨by decide, fun _ => rfl⟩

theorem Metadata.returns (m : Metadata) : Metadata.record.codec.Returns (depth + 3) m m := by
  refine Metadata.record_sound.returns ?_
  have texts (name : String) (get : Metadata → Option String) :
      (Field.sparse name (.option .text) get none Option.isNone).Returns (depth + 2) m m :=
    Field.sparse_option_returns (Codec.option_returns fun s _ => ⟨nofun, Codec.text_returns s⟩) rfl
  have annotations : (Field.sparse "annotations" (.dict .text) Metadata.annotations .empty
      Dict.isEmpty).Returns (depth + 2) m m :=
    Field.sparse_returns (fun h => Dict.eq_of_entries (List.isEmpty_iff.1 h).symm)
      (Codec.dict_returns fun e _ => Codec.text_returns e.2)
  have owners : (Field.sparse "ownerReferences" (.list OwnerLink.record.codec) Metadata.owners []
      List.isEmpty).Returns (depth + 2) m m :=
    Field.sparse_returns (fun h => (List.isEmpty_iff.1 h).symm)
      (Codec.list_returns fun o _ => o.returns)
  simp [Metadata.record, Codec.text_returns, texts, annotations, owners]

namespace RequestObject

theorem record_sound : record.Sound := ⟨by decide, fun _ => rfl⟩

theorem returns (o : RequestObject) :
    record.codec.Returns 4 o { o with status := o.status.kept } := by
  refine record_sound.returns ?_
  simp [record, Codec.text_returns, o.metadata.returns, o.spec.returns, o.status.returns]

theorem request_ofRequest (r : Request) (scope : String) : (ofRequest r scope).request = r := by
  have uid : (if r.uid = "" then none else some r.uid).getD "" = r.uid := by
    split
    · exact Eq.symm ‹_›
    · rfl
  simp only [request, ofRequest, uid]

theorem read_sent (r : Request) (scope : String) :
    record.codec.decodeText
        (Text.Utf8.encode (compactText (record.codec.write (ofRequest r scope)))) =
      .ok { ofRequest r scope with status := r.status.kept } :=
  (returns (ofRequest r scope)).decode_compactText (by decide)

theorem status_kept {bs : List UInt8} {o : RequestObject}
    (h : record.codec.decodeText bs = .ok o) : o.status.kept = o.status := by
  obtain ⟨route, d, hread⟩ := Codec.exists_of_decodeText h
  obtain ⟨_, -, _, -, _, -, _, -, status, hstatus, rfl⟩ := Record.yields hread
  change status.kept = status
  obtain ⟨_, _, hread⟩ | hfallback := hstatus
  · exact Request.Status.kept_of_read hread
  · cases hfallback
    decide

end RequestObject

end Cluster

theorem Request.readable_iff {r : Request} : r.Readable ↔ r.status.kept = r.status := by
  constructor
  · rintro ⟨bs, o, h, rfl⟩
    exact Cluster.RequestObject.status_kept h
  · intro h
    refine ⟨_, _, Cluster.RequestObject.read_sent r "", ?_⟩
    rw [h]
    exact Cluster.RequestObject.request_ofRequest r ""

/-- A request that is sent is read again. It comes back as it was if it can have been read before;
and a ticket comes back if its key is not empty, not the word for a ticket that was left out, and
has no blanks around it. -/
theorem request_comes_back (r : Request) (scope : String) :
    ∃ o, Cluster.RequestObject.record.codec.decodeText (Text.Utf8.encode (compactText
          (Cluster.RequestObject.record.codec.write (.ofRequest r scope)))) = .ok o ∧
      (r.Readable → o.request = r) ∧
      ∀ key, r.status.ticket = .issue key →
        (o.request.status.ticket = .issue key ↔
          key ≠ "" ∧ Text.Trimmed key.toList ∧ key ≠ "Skipped") := by
  have back : ({ Cluster.RequestObject.ofRequest r scope with status := r.status.kept } :
      Cluster.RequestObject).request = { r with status := r.status.kept } := by
    rw [← Cluster.RequestObject.request_ofRequest { r with status := r.status.kept } scope]
    rfl
  refine ⟨_, Cluster.RequestObject.read_sent r scope, ?_, ?_⟩
  · intro readable
    rw [back, Request.readable_iff.1 readable]
  · intro key hkey
    simp only [back, Request.Status.kept_ticket, hkey]
    exact TicketLink.ofText_eq_issue

end AccessWindow
