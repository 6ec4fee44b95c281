import AccessWindow.Proofs.Conduct.Conclusion

namespace AccessWindow.Lifecycle

open Program

variable {name : String} {lastKnown all : List String} {past : List Turn} {r : Request}
  {e : Edition}

theorem deleteAll_abides {scope : String} {grants rest : List Grant}
    (clears : Clears name lastKnown past all) (hs : scope ∈ all)
    (listed : Heard past (.grantsWithin scope) (.ok grants))
    (sub : ∀ g ∈ rest, g ∈ grants ∧ g.belongsTo name) :
    (deleteAll scope rest).Abides (Permitted name lastKnown)
      (Adds Operation.isAside past fun _ said => ∀ g ∈ rest, Deleted said scope g.name) past := by
  induction rest generalizing past with
  | nil => exact adds_ok (by simp)
  | cons g rest ih =>
    have ⟨hg, hrest⟩ := List.forall_mem_cons.1 sub
    apply adds_bind (adds_ask (.revoke clears hs listed hg.1 hg.2) rfl)
    intro answer said only heq
    subst heq
    have ih := ih (clears.append only) listed.append hrest
    cases answer with
    | error f =>
      cases f with
      | notFound message =>
        apply ih.adds
        intro n said _ hd
        refine List.forall_mem_cons.2 ⟨?_, fun g' hg' => ?_⟩
        · exact .inr ⟨message, by simp [Heard]⟩
        · exact (hd g' hg').prepend
      | _ => exact adds_error (upset_last rfl)
    | ok =>
      apply adds_bind ih
      intro n said _ hd
      refine adds_ok (List.forall_mem_cons.2 ⟨?_, fun g' hg' => ?_⟩)
      · exact .inl (by simp [Heard])
      · exact (hd g' hg').append.prepend

theorem revokeIn_abides {scopes : List String} (clears : Clears name lastKnown past all)
    (sub : ∀ scope ∈ scopes, scope ∈ all) :
    (revokeIn name scopes).Abides (Permitted name lastKnown)
      (Adds Operation.isAside past fun _ said => Swept name scopes said) past := by
  induction scopes generalizing past with
  | nil => exact adds_ok (by simp [Swept])
  | cons scope scopes ih =>
    have ⟨hs, hrest⟩ := List.forall_mem_cons.1 sub
    apply adds_bind (adds_call (.list clears hs) rfl fun _ => rfl)
    intro grants first only heq
    subst heq
    apply adds_bind (deleteAll_abides (clears.append only) hs heard_last (by simp))
    intro n said only' hdel
    apply adds_bind (ih ((clears.append only).append only') hrest)
    intro m said' _ swept
    refine adds_ok (List.forall_mem_cons.2 ⟨?_, fun scope' hs' => ?_⟩)
    · refine ⟨grants, [], said ++ said', by simp, fun g hg ho => ?_⟩
      exact (hdel g (by simp [hg, ho])).append
    · obtain ⟨grants', before, after, rfl, hd⟩ := swept scope' hs'
      exact ⟨grants', [⟨.call (.grantsWithin scope), .ok grants⟩] ++ said ++ before, after,
        by simp, hd⟩

theorem removeRequest_abides (h : Permitted name lastKnown past (.call (.removeRequest name)))
    (hn : r.name = name) :
    (removeRequest r).Abides (Permitted name lastKnown) (Ends (Concludes name lastKnown)) past := by
  subst hn
  refine abides_bind.2 (abides_ask.2 ⟨h, fun answer _ => ?_⟩)
  cases answer with
  | error f =>
    cases f with
    | notFound message => exact .removed h (.inr ⟨message, rfl⟩)
    | _ => exact upset_last rfl
  | ok => exact .removed h (.inl rfl)

theorem declineTicket_abides {key : String} (found : Found name past r e) (hd : Discarded r)
    (hk : r.status.ticket = .issue key) (cleared : Cleared name r.spec.namespaces past) :
    (declineTicket r key e).Abides (Permitted name lastKnown)
      (Adds Operation.isAside past fun _ said => Moved said key e.rulebook.rejectTransition)
      past := by
  apply adds_bind (adds_ask (.decline found hd hk cleared) rfl)
  intro answer said _ heq
  subst heq
  cases answer with
  | error f =>
    cases f with
    | notFound message => exact adds_ok (.inr ⟨message, by simp [Heard]⟩)
    | _ => exact adds_error (upset_last rfl)
  | ok =>
    have found := found.mono (List.prefix_append past
      [⟨.call (.transition key e.rulebook.rejectTransition), .ok ()⟩])
    apply adds_bind (adds_ask (.explain found hd hk heard_last) rfl)
    intro note said _ heq
    subst heq
    exact adds_ok (.inl (by simp [Heard]))

theorem clearRejected_abides (h : Attending name past r e r) (hd : Discarded r) :
    (clearRejected r e).Abides (Permitted name lastKnown) (Ends (Concludes name lastKnown))
      past := by
  obtain ⟨found, hl, rfl⟩ := h
  have clears : Clears r.name lastKnown past r.spec.namespaces := .due (.discarded found hl hd)
  apply adds_ends (revokeIn_abides clears fun _ h => h)
  intro n said only swept
  have found' := found.mono (List.prefix_append past said)
  have cleared : Cleared r.name r.spec.namespaces (past ++ said) := ⟨past, said, rfl, only, swept⟩
  cases hk : r.status.ticket.key? with
  | none =>
    refine removeRequest_abides (.discard found' hd cleared ?_) rfl
    simp [← TicketLink.key?_eq_some, hk]
  | some key =>
    rw [TicketLink.key?_eq_some] at hk
    apply adds_ends (declineTicket_abides found' hd hk cleared)
    intro _ said' only' moved
    refine removeRequest_abides
      (.discard (found'.mono (List.prefix_append _ said')) hd (cleared.append only') ?_) rfl
    intro key' hk'
    obtain rfl : key = key' := by simpa [hk] using hk'
    exact moved.prepend

theorem expire_abides {held : Request} (h : Attending name past r e held)
    (lapsing : Lapsing past r held) :
    (expire held).Abides (Permitted name lastKnown) (Ends (Concludes name lastKnown)) past := by
  refine abides_bind.2 (abides_now.2 ⟨.watch h.found, fun t => ?_⟩)
  simp only [andThen]
  replace h : Attending name (past ++ [⟨.clock, t⟩]) r e held := h.append rfl
  obtain ⟨found, hl, rfl⟩ := h
  cases hu : held.closes.until? t with
  | some delay => exact .lapsing found hl lapsing hu
  | none =>
    replace lapsing := lapsing.mono (List.prefix_append past [⟨.clock, t⟩])
    have ht : latest Turn.reading? (past ++ [⟨.clock, t⟩]) = some t := by
      simp [Turn.reading?]
    have clears : Clears held.name lastKnown (past ++ [⟨.clock, t⟩]) held.spec.namespaces :=
      .due (.expired found hl lapsing ht hu)
    apply adds_ends (revokeIn_abides clears fun _ h => h)
    intro n said only swept
    have hp := List.prefix_append (past ++ [⟨.clock, t⟩]) said
    have cleared : Cleared held.name held.spec.namespaces (past ++ [⟨.clock, t⟩] ++ said) :=
      ⟨_, said, rfl, only, swept⟩
    exact removeRequest_abides (.expire (found.mono hp) (only.latest_record.trans hl)
      (lapsing.mono hp) (only.latest_reading.trans ht) hu cleared) rfl

end AccessWindow.Lifecycle
