import AccessWindow.Proofs.Conduct.Conclusion

namespace AccessWindow.Lifecycle

open Program

variable {name : String} {lastKnown : List String} {past : List Turn} {r held : Request}
  {e : Edition} {u : Request.Update}

def Written (name : String) (u : Request.Update) (past : List Turn) :
    Request × Except Fault Unit → Prop
  | (stored, .ok ()) => Stored name u past stored
  | (_, .error _) => Upset past

theorem stored_write {stored : Request} (h : Attending name past r e held)
    (cont : Continues past u) (hn : stored.name = (held.record u).name) :
    Stored name u (past ++ [⟨.call (.putStatus (held.record u)), .ok stored⟩]) stored :=
  ⟨by simp [Turn.record?], hn.trans h.named, cont.append continues_write, held, heard_last⟩

theorem writeStatus_abides {retry : Retry} {left : Nat} (h : Attending name past r e held)
    (dec : Decides past r e u) (cont : Continues past u) :
    (writeStatus retry u left held).Abides (Permitted name lastKnown)
      (Adds Operation.isEntry past fun written said => Written name u (past ++ said) written)
      past := by
  induction left generalizing past held with
  | zero =>
    rw [writeStatus]
    apply adds_bind (adds_perform (.write h.found h.latest h.named dec cont) rfl)
    rintro answer said - ⟨rfl, faithful⟩
    cases answer with
    | error f => cases f <;> exact adds_ok (upset_last rfl)
    | ok stored => exact adds_ok (stored_write h cont faithful)
  | succ left ih =>
    rw [writeStatus]
    obtain rfl := h.named
    apply adds_bind (adds_perform (.write h.found h.latest rfl dec cont) rfl)
    rintro answer said - ⟨rfl, faithful⟩
    cases answer with
    | error f =>
      cases f with
      | conflict message =>
        apply adds_bind (adds_perform (.pause rfl) rfl)
        rintro ⟨⟩ said - ⟨rfl, -⟩
        apply adds_bind (adds_perform (.reread rfl) rfl)
        rintro answer said - ⟨rfl, faithful⟩
        cases answer with
        | error f => exact adds_ok ⟨⟨.call (.requestNamed held.name), .error f⟩, by simp, rfl⟩
        | ok newer =>
          simp only [List.append_assoc]
          have hp := List.prefix_append past
          refine (ih ⟨h.found.mono (hp _), ?_, faithful⟩ (dec.mono (hp _))
            (cont.append (continues_write.append (continues_of_silent ?_)))).adds ?_
          · simp [Turn.record?]
          · simp [Silent]
          · intro written said _ hw
            simpa using hw
      | _ => exact adds_ok (upset_last rfl)
    | ok stored => exact adds_ok (stored_write h cont faithful)

namespace Keeper

variable {keeper : Keeper} {reason : Event.Reason} {message : String} {ticket : TicketLink}

theorem record_abides (h : Attending name past r e held) (dec : Decides past r e u)
    (cont : Continues past u) :
    (keeper.record held u).Abides (Permitted name lastKnown)
      (Adds Operation.isEntry past fun stored said => Stored name u (past ++ said) stored)
      past := by
  apply adds_bind (writeStatus_abides h dec cont)
  intro written said only hw
  obtain ⟨stored, result⟩ := written
  cases result with
  | error f => exact adds_error hw
  | ok => exact adds_ok (by simpa [Written] using hw)

theorem announce_abides (h : Attending name past r e held) :
    (keeper.announce held reason message).Abides (Permitted name lastKnown)
      (Adds Operation.isAside past fun _ _ => True) past := by
  rw [announce]
  split
  · apply adds_bind (adds_ask (.announce h.found h.named) rfl)
    intros
    exact adds_ok trivial
  · exact adds_ok trivial

theorem reject_abides (h : Attending name past r e held)
    (dec : Decides past r e ⟨.rejected, message, ticket⟩)
    (cont : Continues past ⟨.rejected, message, ticket⟩) :
    (keeper.reject held reason message ticket).Abides (Permitted name lastKnown)
      (Adds Operation.sparesGrants past fun outcome said => outcome = .done ∧
        ∃ stored, Stored name ⟨.rejected, message, ticket⟩ (past ++ said) stored) past := by
  apply adds_bind ((announce_abides h).widen fun _ => sparesGrants_of_isAside)
  rintro _ said - ⟨only, -⟩
  replace dec := dec.mono (List.prefix_append past said)
  replace cont := cont.append (continues_of_silent only.silent)
  apply adds_bind ((record_abides (h.append_aside only) dec cont).widen fun _ =>
    sparesGrants_of_isEntry)
  rintro stored said' - ⟨-, hs⟩
  exact adds_ok ⟨rfl, stored, by simpa using hs⟩

end Keeper

end AccessWindow.Lifecycle
