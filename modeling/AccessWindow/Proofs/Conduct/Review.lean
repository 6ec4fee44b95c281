import AccessWindow.Proofs.Conduct.Closing
import AccessWindow.Proofs.Conduct.Recording

namespace AccessWindow.Lifecycle

open Program

variable {name key : String} {lastKnown : List String} {past said : List Turn} {r held : Request}
  {e : Edition} {keeper : Keeper}

theorem windowViolation?_eq_none {spec : Request.Spec} :
    Policy.windowViolation? spec = none ↔ spec.start < spec.finish := by
  simp [Policy.windowViolation?, Request.Spec.endsAfterStart]

theorem scopeViolation?_abides {withLabels : Bool} (h : Attending name past r e held)
    (review : Reviewable r e) :
    (Validator.scopeViolation? held.spec e withLabels).Abides (Permitted name lastKnown)
      (Adds Operation.isAside past fun violation _ => violation = none →
        Policy.patternViolation? held.spec e = none) past := by
  rw [Validator.scopeViolation?]
  split
  · exact adds_ok (by simp)
  · next hpattern =>
    split
    · exact adds_ok fun _ => hpattern
    · apply adds_bind (adds_call (.scopes h.found h.latest review) rfl fun _ => rfl)
      intros
      exact adds_ok fun _ => hpattern

theorem Keeper.refuse_abides {reason : Event.Reason} {message : String} {ticket : TicketLink}
    (h : Attending name past r e held) (hph : r.status.phase = .fresh)
    (dec : Decides past r e ⟨.rejected, message, ticket⟩)
    (cont : Continues past ⟨.rejected, message, ticket⟩) :
    (keeper.reject held reason message ticket).Abides (Permitted name lastKnown)
      (Ends (Concludes name lastKnown)) past := by
  apply (reject_abides h dec cont).ends
  rintro outcome said _ ⟨rfl, stored, hs⟩
  have hp := List.prefix_append past said
  exact .refused (h.found.mono hp) hph (dec.mono hp) rfl hs

structure InReview (name : String) (past : List Turn) (r : Request) (e : Edition)
    (held : Request) (key : String) : Prop extends Attending name past r e held where
  review : Reviewable r e
  hand : InHand past r key
  begun : ∃ message, Continues past ⟨.fresh, message, .issue key⟩

namespace InReview

theorem append (h : InReview name past r e held key)
    (hr : latest Turn.record? said = none) (silent : Silent said) :
    InReview name (past ++ said) r e held key where
  toAttending := h.toAttending.append hr
  review := h.review
  hand := h.hand.mono (List.prefix_append past said)
  begun := by
    obtain ⟨message, hc⟩ := h.begun
    exact ⟨message, hc.append (continues_of_silent silent)⟩

theorem append_aside (h : InReview name past r e held key) (only : Only Operation.isAside said) :
    InReview name (past ++ said) r e held key :=
  h.append (latest_eq_none fun x hx => record?_eq_none_of_isAside (only x hx)) only.silent

theorem continues (h : InReview name past r e held key) {phase : Phase} {message : String} :
    Continues past ⟨phase, message, .issue key⟩ := by
  obtain ⟨_, hc⟩ := h.begun
  exact hc.opened rfl

theorem reject_abides {reason : Event.Reason} {message : String}
    (h : InReview name past r e held key) :
    (keeper.reject held reason message (.issue key)).Abides (Permitted name lastKnown)
      (Ends (Concludes name lastKnown)) past :=
  Keeper.refuse_abides h.toAttending h.review.fresh (.refused h.review h.hand) h.continues

end InReview

def Asked (name : String) (lastKnown : List String) (r : Request) (e : Edition) :
    Option (Request × String) → List Turn → Prop
  | none, past => Concludes name lastKnown .done past
  | some (held, key), past => InReview name past r e held key

namespace Keeper

theorem requestApproval_abides (review : Reviewable r e) (hu : r.status.ticket = .unassigned)
    (hn : r.name = name)
    (hpast : past = [⟨.call (.requestNamed name), .ok r⟩, ⟨.edition, some e⟩]) :
    (keeper.requestApproval r e).Abides (Permitted name lastKnown)
      (Ends (Asked name lastKnown r e)) past := by
  have h : Attending name past r e r := hpast ▸ attending_of_begun hn
  have silent : Silent past := by simp [hpast, Silent]
  refine abides_bind.2 (abides_bind.2 (abides_ask.2 ⟨.identify hpast review hu, ?_⟩))
  intro answer _
  have only : Only Operation.isAside [⟨.call (.accountOf r.spec.reporter), answer⟩] :=
    only_singleton.2 rfl
  replace h := h.append_aside only
  replace silent := silent.append only.silent
  cases answer with
  | error f =>
    cases f with
    | notFound message =>
      apply adds_ends (reject_abides h (.unknown review hu heard_last)
        (continues_of_silent silent))
      rintro outcome said _ ⟨rfl, stored, hs⟩
      exact .refused (h.found.mono (List.prefix_append _ said)) review.fresh
        (.unknown review hu heard_last.append) rfl hs
    | _ => exact upset_last rfl
  | ok account =>
    refine abides_bind.2 (abides_call.2 ⟨.raise (by simp [hpast]) review hu, fun answer _ => ?_⟩)
    have only : Only Operation.isAside
        [⟨.call (.raiseTicket (.ofRequest r.spec account e)), answer⟩] := only_singleton.2 rfl
    cases answer with
    | error => exact upset_last rfl
    | ok key =>
      replace h := h.append_aside only
      apply adds_ends (record_abides h (.opened review hu heard_last)
        (continues_of_silent (silent.append only.silent)))
      intro stored said _ hs
      exact ⟨⟨h.found.mono (List.prefix_append _ said), hs.latest, hs.named⟩, review,
        .opened hu heard_last.append, _, hs.continues⟩

theorem awaitWindow_abides (h : InReview name past r e held key)
    (role : e.allowsRole held.spec.role) (window : held.spec.start < held.spec.finish)
    (pattern : Policy.patternViolation? held.spec e = none) :
    (keeper.awaitWindow held key e).Abides (Permitted name lastKnown)
      (Ends (Concludes name lastKnown)) past := by
  refine abides_bind.2 (abides_now.2 ⟨.watch h.found, fun t => ?_⟩)
  simp only [andThen]
  replace h : InReview name (past ++ [⟨.clock, t⟩]) r e held key :=
    h.append rfl (by simp [Silent])
  cases hu : held.spec.start.until? t with
  | none => exact h.reject_abides
  | some delay =>
    have passed : Passed (past ++ [⟨.clock, t⟩]) e held :=
      ⟨role, window, pattern, t, delay, by simp, hu⟩
    have aside : Operation.isAside (.call (.commentOn key
      (Ticket.preApprovedNote held.spec e.rulebook.comment))) := rfl
    apply adds_ends (adds_call (.welcome h.found h.latest h.review h.hand passed) aside
      fun _ => rfl)
    intro _ noted only _
    replace h := h.append_aside only
    apply adds_ends (announce_abides h.toAttending)
    intro _ told only _
    replace h := h.append_aside only
    replace passed := (passed.mono (List.prefix_append _ noted)).mono (List.prefix_append _ told)
    obtain ⟨x, hx, hxr⟩ := exists_of_latest h.latest
    apply adds_ends (record_abides h.toAttending (.accepted h.review h.hand hx hxr passed)
      h.continues)
    intro stored said _ hs
    have hp := List.prefix_append (past ++ [⟨.clock, t⟩] ++ noted ++ told) said
    exact .accepted (h.found.mono hp) h.review (h.hand.mono hp) (hp.subset hx) hxr
      (passed.mono hp) (by simp) hu hs

theorem judge_abides (h : InReview name past r e held key) :
    (keeper.judge held key e).Abides (Permitted name lastKnown) (Ends (Concludes name lastKnown))
      past := by
  rw [judge]
  split
  · exact h.reject_abides
  · next hrole =>
    split
    · exact h.reject_abides
    · next hwindow =>
      have window := windowViolation?_eq_none.1 (Option.eq_none_iff_forall_ne_some.2 hwindow)
      apply adds_ends (scopeViolation?_abides h.toAttending h.review)
      intro violation said only pattern
      replace h := h.append_aside only
      cases violation with
      | some v => exact h.reject_abides
      | none => exact awaitWindow_abides h (by simpa using hrole) window (pattern rfl)

theorem review_abides (hph : r.status.phase = .fresh) (hn : r.name = name)
    (hpast : past = [⟨.call (.requestNamed name), .ok r⟩, ⟨.edition, some e⟩]) :
    (keeper.review r e).Abides (Permitted name lastKnown) (Ends (Concludes name lastKnown))
      past := by
  have h : Attending name past r e r := hpast ▸ attending_of_begun hn
  have silent : Silent past := by simp [hpast, Silent]
  rw [review]
  split
  · next hskip => exact clearRejected_abides h (.inr ⟨hph, hskip⟩)
  · next hskip =>
    split
    · next field hfield =>
      exact refuse_abides h hph (.missing hph hskip hfield) (continues_of_silent silent)
    · next hfield =>
      have review : Reviewable r e :=
        ⟨hph, hskip, Option.eq_none_iff_forall_ne_some.2 hfield⟩
      cases hk : r.status.ticket.key? with
      | some key =>
        exact judge_abides ⟨h, review, .kept (TicketLink.key?_eq_some.1 hk), "",
          continues_of_silent silent⟩
      | none =>
        have hu : r.status.ticket = .unassigned := by
          cases ht : r.status.ticket with
          | unassigned => rfl
          | skipped => exact absurd ht hskip
          | issue key => simp [ht, TicketLink.key?] at hk
        apply ends_bind (requestApproval_abides review hu hn hpast)
        intro asked past' _ h
        cases asked with
        | none => exact h
        | some held => exact judge_abides h

end Keeper

end AccessWindow.Lifecycle
