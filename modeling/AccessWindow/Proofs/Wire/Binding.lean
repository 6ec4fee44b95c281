import AccessWindow.Proofs.Wire.Expiry
import AccessWindow.Proofs.Wire.Request

namespace AccessWindow

open Json

variable {depth : Nat}

namespace Cluster

theorem Subject.record_sound : Subject.record.Sound := ⟨by decide, fun _ => rfl⟩

theorem Subject.returns (s : Subject) : Subject.record.codec.Returns (depth + 1) s s := by
  refine Subject.record_sound.returns ?_
  have group : (Field.sparse "apiGroup" (.option .text) Subject.group none
      Option.isNone).Returns depth s s :=
    Field.sparse_option_returns (Codec.option_returns fun s _ => ⟨nofun, Codec.text_returns s⟩) rfl
  simp [Subject.record, Codec.text_returns, group]

theorem RoleLink.record_sound : RoleLink.record.Sound := ⟨by decide, fun _ => rfl⟩

theorem RoleLink.returns (r : RoleLink) : RoleLink.record.codec.Returns (depth + 1) r r := by
  refine RoleLink.record_sound.returns ?_
  simp [RoleLink.record, Codec.text_returns]

namespace Binding

theorem record_sound : record.Sound := ⟨by decide, fun _ => rfl⟩

theorem returns (b : Binding) : record.codec.Returns 4 b b := by
  refine record_sound.returns ?_
  have subjects : (Codec.list Subject.record.codec).Returns 3 b.subjects b.subjects :=
    Codec.list_returns fun s _ => s.returns
  simp [record, Codec.text_returns, b.metadata.returns, b.role.returns, subjects]

theorem names_ofGrant (g : Grant) : (ofGrant g).subjects.map Subject.name = g.subjects := by
  simp [ofGrant, Function.comp_def]

theorem owner?_ofGrant (g : Grant) : (ofGrant g).owner? = g.owner := by
  rw [owner?, ofGrant]
  cases g.owner <;> rfl

theorem annotation_ofGrant (g : Grant) : (ofGrant g).metadata.annotations.get? expiryKey =
    g.expires.map Time.Rfc3339.offsetText := by
  rw [ofGrant, Dict.get?_ofList]
  cases g.expires with
  | none => rfl
  | some t => simp

theorem expiry?_ofGrant (g : Grant) : (ofGrant g).expiry? =
    g.expires.filter fun t => 0 ≤ t.year ∧ t.year ≤ 9999 := by
  rw [expiry?, annotation_ofGrant]
  cases g.expires with
  | none => rfl
  | some t => simp [Time.Rfc3339.readStrict?_offsetText, Option.filter]

theorem grant_ofGrant (g : Grant) (scope : String) : (ofGrant g).grant scope =
    { g with expires := g.expires.filter fun t => 0 ≤ t.year ∧ t.year ≤ 9999 } := by
  rw [grant, names_ofGrant, owner?_ofGrant, expiry?_ofGrant]
  rfl

end Binding

end Cluster

/-- A grant that is sent is read again as it was, whatever namespace it is looked for in, except
that an expiry comes back just in the years 0 to 9999. So it belongs to the same request. -/
theorem grant_comes_back (g : Grant) (scope : String) :
    ∃ b, Cluster.Binding.record.codec.decodeText (Text.Utf8.encode (compactText
          (Cluster.Binding.record.codec.write (.ofGrant g)))) = .ok b ∧
      b.grant scope = { g with expires := g.expires.filter fun t => 0 ≤ t.year ∧ t.year ≤ 9999 } ∧
      ∀ request, (b.grant scope).belongsTo request = g.belongsTo request := by
  have back := Cluster.Binding.grant_ofGrant g scope
  refine ⟨.ofGrant g, ?_, back, fun request => ?_⟩
  · exact (Cluster.Binding.returns (.ofGrant g)).decode_compactText (by decide)
  · rw [back]
    rfl

end AccessWindow
