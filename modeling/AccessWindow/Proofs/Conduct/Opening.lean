import AccessWindow.Proofs.Conduct.Closing
import AccessWindow.Proofs.Conduct.Recording

namespace AccessWindow.Lifecycle

open Program

variable {name : String} {lastKnown : List String} {past said : List Turn} {r : Request}
  {e : Edition}

theorem createAll_abides {grants : List Grant} (found : Found name past r e) (hn : r.name = name)
    (hp : r.status.phase = .preApproved)
    (why : (∃ key, Approved past r e key) ∨ Holding past r) (silent : Silent past)
    (sub : ∀ g ∈ grants, g ∈ Grant.ofRequest r) :
    (createAll grants).Abides (Permitted name lastKnown)
      (Adds Operation.isGrant past fun _ said => ∀ g ∈ grants, Made said g) past := by
  induction grants generalizing past with
  | nil => exact adds_ok (by simp)
  | cons g grants ih =>
    have ⟨hg, hrest⟩ := List.forall_mem_cons.1 sub
    apply adds_bind (adds_ask (.grant found hn hp why silent hg) rfl)
    intro answer said only heq
    subst heq
    have hpre : past <+: past ++ [⟨.call (.addGrant g), answer⟩] := List.prefix_append past _
    have rest := ih (found.mono hpre) (why.imp (fun ⟨key, hk⟩ => ⟨key, hk.mono hpre⟩) (·.mono hpre))
      (silent.append (only.silent_of_grants)) hrest
    have made (h : Made [⟨.call (.addGrant g), answer⟩] g) :
        (createAll grants).Abides (Permitted name lastKnown)
          (Adds Operation.isGrant (past ++ [⟨.call (.addGrant g), answer⟩]) fun _ said =>
            ∀ g' ∈ g :: grants, Made ([⟨.call (.addGrant g), answer⟩] ++ said) g')
          (past ++ [⟨.call (.addGrant g), answer⟩]) := by
      apply rest.adds
      intro _ said _ hm
      refine List.forall_mem_cons.2 ⟨?_, fun g' hg' => ?_⟩
      · exact h.mono (List.prefix_append _ said)
      · exact (hm g' hg').prepend
    cases answer with
    | error f =>
      cases f with
      | alreadyExists message => exact made (.inr ⟨message, by simp [Heard]⟩)
      | _ => exact adds_error (upset_last rfl)
    | ok => exact made (.inl (by simp [Heard]))

theorem anyGrant_abides {scopes : List String} (found : Found name past r e)
    (hp : r.status.phase = .preApproved) (sub : ∀ scope ∈ scopes, scope ∈ r.spec.namespaces) :
    (anyGrant r.name scopes).Abides (Permitted name lastKnown)
      (Adds Operation.isAside past fun any said =>
        (any = true → Holding said r) ∧ (any = false → Lacking r.name scopes said)) past := by
  induction scopes generalizing past with
  | nil => exact adds_ok (by simp [Lacking])
  | cons scope scopes ih =>
    have ⟨hs, hrest⟩ := List.forall_mem_cons.1 sub
    apply adds_bind (adds_call (.look found hp hs) rfl fun _ => rfl)
    intro grants said only heq
    subst heq
    split
    · next hany =>
      refine adds_ok ⟨fun _ => ⟨scope, hs, grants, by simp [Heard], ?_⟩, nofun⟩
      simpa using hany
    · next hany =>
      apply (ih (found.mono (List.prefix_append past _)) hrest).adds
      intro any said _ hh
      refine ⟨fun ha => ?_, fun ha => List.forall_mem_cons.2 ⟨?_, fun scope' hs' => ?_⟩⟩
      · obtain ⟨scope', hs', grants', heard, hg⟩ := hh.1 ha
        exact ⟨scope', hs', grants', heard.prepend, hg⟩
      · exact ⟨grants, by simp [Heard], by simpa using hany⟩
      · obtain ⟨grants', heard, hg⟩ := hh.2 ha scope' hs'
        exact ⟨grants', heard.prepend, hg⟩

theorem ticketApproved_abides {key : String} {t : Instant} (found : Found name past r e)
    (hp : r.status.phase = .preApproved) (hk : r.status.ticket = .issue key)
    (ht : latest Turn.reading? past = some t) (hu : r.opens.until? t = none) :
    (ticketApproved key e).Abides (Permitted name lastKnown)
      (Adds Operation.isAside past fun approved said => approved = true →
        Heard said (.stateOfTicket key) (.ok e.rulebook.approvedStatus)) past := by
  apply adds_bind (adds_ask (.check found hp hk ht hu) rfl)
  intro answer said _ heq
  subst heq
  cases answer with
  | error f =>
    cases f with
    | notFound message => exact adds_ok (by simp)
    | _ => exact adds_error (upset_last rfl)
  | ok status =>
    apply adds_ok
    intro hs
    rw [decide_eq_true_eq] at hs
    simp [Heard, hs]

theorem finishTicket_abides {key : String} (found : Found name past r e)
    (hp : r.status.phase = .preApproved) (ha : Approved past r e key) (hprov : Provided past r) :
    (finishTicket key e).Abides (Permitted name lastKnown)
      (Adds Operation.isAside past fun _ said => Completed said e key) past := by
  apply adds_bind (adds_ask (.note found hp ha hprov) rfl)
  intro note said _ heq
  subst heq
  have hpre : past <+: past ++ [⟨.call (.commentOn key Ticket.doneNote), note⟩] :=
    List.prefix_append past _
  cases note with
  | error f =>
    cases f with
    | notFound message => exact adds_ok (.inr ⟨message, by simp [Heard]⟩)
    | _ => exact adds_error (upset_last rfl)
  | ok =>
    apply adds_bind (adds_ask (.complete (found.mono hpre) hp (ha.mono hpre) (hprov.mono hpre)
      heard_last) rfl)
    intro answer said _ heq
    subst heq
    cases answer with
    | error f =>
      cases f with
      | notFound message =>
        exact adds_ok (.inl ⟨by simp [Heard], .inr ⟨message, by simp [Heard]⟩⟩)
      | _ => exact adds_error (upset_last rfl)
    | ok => exact adds_ok (.inl ⟨by simp [Heard], .inl (by simp [Heard])⟩)

structure InOpening (name : String) (past : List Turn) (r : Request) (e : Edition) : Prop
    extends Attending name past r e r where
  phase : r.status.phase = .preApproved
  silent : Silent past

theorem InOpening.append (h : InOpening name past r e)
    (hr : latest Turn.record? said = none) (silent : Silent said) :
    InOpening name (past ++ said) r e where
  toAttending := h.toAttending.append hr
  phase := h.phase
  silent := h.silent.append silent

theorem InOpening.append_aside (h : InOpening name past r e) (only : Only Operation.isAside said) :
    InOpening name (past ++ said) r e :=
  h.append (latest_eq_none fun x hx => record?_eq_none_of_isAside (only x hx)) only.silent

namespace Keeper

variable {keeper : Keeper}

theorem giveAccess_abides (h : InOpening name past r e)
    (why : (∃ key, Approved past r e key) ∨ Holding past r) :
    (keeper.giveAccess r).Abides (Permitted name lastKnown)
      (Ends fun _ past' => InOpening name past' r e ∧ Provided past' r) past := by
  refine abides_bind.2 (abides_attempt.2 ?_)
  apply (createAll_abides h.found h.named h.phase why h.silent fun _ hg => hg).imp
  intro result past' hp added
  obtain ⟨said, rfl, only, ends⟩ := added
  have hr : latest Turn.record? said = none :=
    latest_eq_none fun x hx => record?_eq_none_of_isGrant (only x hx)
  cases result with
  | error f =>
    apply Abides.bind (announce_abides (h.toAttending.append hr))
    · intro _ past' hp' _
      exact Upset.mono ends hp'
    · intro _ past' hp' _
      exact Upset.mono ends hp'
  | ok => exact ⟨h.append hr only.silent_of_grants, fun g hmem => (ends g hmem).prepend⟩

theorem recordAccess_abides (h : InOpening name past r e)
    (dec : Decides past r e ⟨.succeeded, Ticket.grantedMessage, r.status.ticket⟩) :
    (keeper.recordAccess r).Abides (Permitted name lastKnown) (Ends (Concludes name lastKnown))
      past := by
  apply adds_ends (record_abides h.toAttending dec (continues_of_silent h.silent))
  intro stored said _ hs
  obtain ⟨held, heard⟩ := hs.written
  exact expire_abides ⟨h.found.mono (List.prefix_append past said), hs.latest, hs.named⟩
    (.granted h.phase rfl heard)

theorem unapproved_abides (h : InOpening name past r e)
    (spares : Only Operation.sparesGrants past) :
    (do
      if ← holdsGrant r then
        keeper.giveAccess r
        keeper.recordAccess r
      else
        keeper.reject r .ticketNotApproved "Jira ticket has not been approved"
          r.status.ticket).Abides (Permitted name lastKnown) (Ends (Concludes name lastKnown))
      past := by
  apply adds_ends (anyGrant_abides h.found h.phase fun _ hs => hs)
  rintro any said only ⟨holding, lacking⟩
  replace h := h.append_aside only
  split
  · next hany =>
    have holding : Holding (past ++ said) r := by
      obtain ⟨scope, hs, grants, heard, hg⟩ := holding hany
      exact ⟨scope, hs, grants, heard.prepend, hg⟩
    apply ends_bind (giveAccess_abides h (.inr holding))
    rintro _ past' hp ⟨h, provided⟩
    exact recordAccess_abides h (.resumed h.phase (holding.mono hp) provided)
  · next hany =>
    apply (reject_abides h.toAttending (.unapproved h.phase) (continues_of_silent h.silent)).ends
    rintro outcome said' only' ⟨rfl, stored, hs⟩
    refine .unapproved (h.found.mono (List.prefix_append _ said')) h.phase ?_ ?_ hs
    · intro scope hs
      obtain ⟨grants, heard, hg⟩ := lacking (by simpa using hany) scope hs
      exact ⟨grants, heard.prepend.append, h.named ▸ hg⟩
    · exact only_append.2
        ⟨only_append.2 ⟨spares, fun x hx => sparesGrants_of_isAside (only x hx)⟩, only'⟩

theorem approved_abides {key : String} (h : InOpening name past r e)
    (ha : Approved past r e key) :
    (do
      keeper.giveAccess r
      finishTicket key e
      keeper.recordAccess r).Abides (Permitted name lastKnown) (Ends (Concludes name lastKnown))
      past := by
  apply ends_bind (giveAccess_abides h (.inl ⟨key, ha⟩))
  rintro _ past₁ hp₁ ⟨h, provided⟩
  replace ha := ha.mono hp₁
  apply adds_ends (finishTicket_abides h.found h.phase ha provided)
  intro _ said only completed
  have hp₂ := List.prefix_append past₁ said
  exact recordAccess_abides (h.append_aside only)
    (.granted h.phase (ha.mono hp₂) (provided.mono hp₂) completed.prepend)

theorem openWindow_abides (h : InOpening name past r e)
    (spares : Only Operation.sparesGrants past) :
    (keeper.openWindow r e).Abides (Permitted name lastKnown) (Ends (Concludes name lastKnown))
      past := by
  refine abides_bind.2 (abides_now.2 ⟨.watch h.found, fun t => ?_⟩)
  simp only [andThen]
  cases hu : r.opens.until? t with
  | some delay =>
    exact .early (h.found.mono (List.prefix_append past _)) h.phase spares hu
  | none =>
    replace h : InOpening name (past ++ [⟨.clock, t⟩]) r e := h.append rfl (by simp [Silent])
    replace spares : Only Operation.sparesGrants (past ++ [⟨.clock, t⟩]) :=
      only_append.2 ⟨spares, only_singleton.2 rfl⟩
    have ht : latest Turn.reading? (past ++ [⟨.clock, t⟩]) = some t := by
      simp [Turn.reading?]
    cases hk : r.status.ticket.key? with
    | none => exact unapproved_abides h spares
    | some key =>
      have hkey := TicketLink.key?_eq_some.1 hk
      apply adds_ends (ticketApproved_abides h.found h.phase hkey ht hu)
      intro approved said only heard
      replace h := h.append_aside only
      dsimp only
      split
      · next happ =>
        have hs : [⟨.clock, t⟩, ⟨.call (.stateOfTicket key), .ok e.rulebook.approvedStatus⟩].Sublist
            (past ++ [⟨.clock, t⟩] ++ said) :=
          (List.sublist_append_right past [⟨.clock, t⟩]).append
            (List.singleton_sublist.2 (heard happ))
        exact approved_abides h ⟨hkey, t, hu, hs⟩
      · exact unapproved_abides h
          (only_append.2 ⟨spares, fun x hx => sparesGrants_of_isAside (only x hx)⟩)

end Keeper

end AccessWindow.Lifecycle
