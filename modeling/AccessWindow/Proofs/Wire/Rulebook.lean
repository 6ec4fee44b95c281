import AccessWindow.Files.Cache
import AccessWindow.Proofs.Wire.Record

namespace AccessWindow

open Json

variable {depth : Nat}

theorem FieldForm.returns (form : FieldForm) : FieldForm.codec.Returns depth form form :=
  Codec.choice_returns (by cases form <;> decide)

theorem FieldTarget.record_sound : FieldTarget.record.Sound := ⟨by decide, fun _ => rfl⟩

theorem FieldTarget.returns (t : FieldTarget) :
    FieldTarget.record.codec.Returns (depth + 1) t t := by
  refine FieldTarget.record_sound.returns ?_
  simp [FieldTarget.record, FieldForm.returns, Codec.text_returns]

theorem FixedFields.record_sound : FixedFields.record.Sound := ⟨by decide, fun _ => rfl⟩

theorem FixedFields.returns (fields : FixedFields) :
    FixedFields.record.codec.Returns (depth + 2) fields fields := by
  refine FixedFields.record_sound.returns ?_
  simp [FixedFields.record, FieldTarget.returns]

theorem Site.record_sound : Site.record.Sound := ⟨by decide, fun _ => rfl⟩

theorem Site.returns (site : Site) : Site.record.codec.Returns (depth + 1) site site := by
  refine Site.record_sound.returns ?_
  simp [Site.record, Codec.text_returns]

namespace Rulebook

theorem record_sound : record.Sound := ⟨by decide, fun _ => rfl⟩

theorem returns (book : Rulebook) : record.codec.Returns 3 book book := by
  refine record_sound.returns ?_
  have texts (ss : List String) : (Codec.list .text).Returns 2 ss ss :=
    Codec.list_returns fun s _ => Codec.text_returns s
  have targets (d : Dict FieldTarget) :
      (Codec.dict FieldTarget.record.codec).Returns 2 d d :=
    Codec.dict_returns fun e _ => FieldTarget.returns e.2
  have pattern : (Field.sparse "namespaceAllowedRegex" (.option .text) namespacePattern none
      Option.isNone).Returns 2 book book :=
    Field.sparse_option_returns (Codec.option_returns fun s _ => ⟨nofun, Codec.text_returns s⟩) rfl
  simp [record, Codec.text_returns, Codec.flag_returns, FixedFields.returns, Site.returns, texts,
    targets, pattern]

/-- What the cache keeps of a rulebook, or any other copy in the written form, is that rulebook. -/
theorem ofBytes_toText (book : Rulebook) : ofBytes (Text.Utf8.encode book.toText) = .ok book := by
  rw [ofBytes, toText, book.returns.decode_prettyText (by decide)]

end Rulebook

end AccessWindow
