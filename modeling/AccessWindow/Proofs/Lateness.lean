import AccessWindow.Proofs.Removal

namespace AccessWindow

open Lifecycle

variable {others : Scene → Scene → Prop} {s s' : Scene} {m : Moment} {before after : List Moment}
  {name : String} {r : Request} {e : Edition} {g : Grant} {v : Visit name} {t : Instant}

/-- Grants of the owner are only left in the namespaces if the store has said that they are gone. -/
def Visit.Retracts (v : Visit name) (scopes : List String) (s : Scene) : Prop :=
  ∀ scope ∈ scopes, ∀ key g, s.grants scope key = some g → g.belongsTo name →
    ∃ m ∈ v.moments, m.Misleads scope key

theorem Course.clock_le_last {past : List Turn} (h : Course others s v.moments s')
    (onward : ∀ {a b}, others a b → a.clock ≤ b.clock)
    (hlast : v.moments.map Moment.said = past ++ [⟨.clock, t⟩]) (hm : m ∈ v.moments)
    (hop : m.op ≠ .clock) : m.before.clock ≤ t := by
  obtain ⟨ms, m', hms, -, hsaid⟩ := Moment.exists_last hlast
  rw [hms] at h hm
  cases List.mem_append.1 hm with
  | inl hm =>
    obtain ⟨a, b, rfl⟩ := List.append_of_mem hm
    rw [List.append_assoc, List.cons_append] at h
    exact m'.read hsaid ▸ h.clock_le_later onward
  | inr hm =>
    obtain rfl := List.mem_singleton.1 hm
    exact absurd (congrArg Sigma.fst hsaid) hop

/-- A grant carries the end of the window on record. When the visit that creates it ends without a
fault, the grant was created before the window of the record then in hand was over, or the grants in
the namespaces of that record have been taken back. -/
theorem late_grant_taken_back (h : Course others s v.moments s')
    (onward : ∀ {a b}, others a b → a.clock ≤ b.clock)
    (spares : ∀ {a b}, others a b → a.SparesGrants name b)
    (hm : m ∈ v.moments) (hop : m.op = .call (.addGrant g)) :
    ∃ r e, Found name (v.moments.map Moment.said) r e ∧ g ∈ Grant.ofRequest r ∧
      g.expires = some r.closes ∧
      ∀ outcome, v.result = some (.ok outcome) →
        ∃ held, latest Turn.record? (v.moments.map Moment.said) = some held ∧
          (m.before.clock < held.closes ∨ v.Retracts held.spec.namespaces s') := by
  obtain ⟨before, after, hv⟩ := List.append_of_mem hm
  obtain ⟨r, e, found, hp, -, hg⟩ := v.found_of_grant hv hop
  replace found := v.found_whole hv found
  refine ⟨r, e, found, hg, Grant.expires_of_mem hg, fun outcome ended => ?_⟩
  cases (v.concludes ended).of_preApproved found hp with
  | early spares => exact absurd hop (v.no_grant_of_only spares m hm g)
  | unapproved _ spares => exact absurd hop (v.no_grant_of_only spares m hm g)
  | @lapsing _ held t _ _ hl _ hlast hu =>
    -- the end was still to come when the clock was read, after the grant had been created
    refine ⟨held, hl, .inl ?_⟩
    calc
      m.before.clock ≤ t := h.clock_le_last onward hlast hm (by simp [hop])
      _ < held.closes := Instant.lt_of_until?_eq_some hu
  | @elapsed held _ hl _ cleared =>
    refine ⟨held, hl, .inr ?_⟩
    intro scope hscope key g hg ho
    exact h.swept spares cleared hscope hg ho

namespace Sample

def overdue : Scene := scene awaiting spec.finish

def overdueProvided : Scene := overdue.putGrant grant

def overdueRecorded : Scene := overdueProvided.putRequest granted

theorem overdue_lists (g : Grant) : g ∈ [grant] ↔ overdueRecorded.grants "team-a" g.name = some g :=
  lists_single (s := overdue) (fun _ => rfl) g

def overdueRevoked : Scene := overdueRecorded.dropGrant "team-a" "jit-1-jit"

def late : Visit "jit-1" where
  keeper := keeper
  lastKnown := []
  moments := [
    ⟨overdue, .call (.requestNamed "jit-1"), .ok (request awaiting), overdue, rfl, rfl⟩,
    ⟨overdue, .edition, some edition, overdue, rfl, rfl⟩,
    ⟨overdue, .clock, spec.finish, overdue, rfl, rfl⟩,
    ⟨overdue, .call (.stateOfTicket "IAM-1"), .ok "Approved", overdue, rfl⟩,
    ⟨overdue, .call (.addGrant grant), .ok (), overdueProvided, rfl, rfl⟩,
    ⟨overdueProvided, .call (.commentOn "IAM-1" Ticket.doneNote), .ok (), overdueProvided, rfl⟩,
    ⟨overdueProvided, .call (.transition "IAM-1" "41"), .ok (), overdueProvided, rfl⟩,
    ⟨overdueProvided, .call (.putStatus ((request awaiting).record
      ⟨.succeeded, Ticket.grantedMessage, .issue "IAM-1"⟩)), .ok granted, overdueRecorded,
      request awaiting, some "2", rfl, rfl, rfl⟩,
    ⟨overdueRecorded, .clock, spec.finish, overdueRecorded, rfl, rfl⟩,
    ⟨overdueRecorded, .call (.grantsWithin "team-a"), .ok [grant], overdueRecorded, overdue_lists,
      rfl⟩,
    ⟨overdueRecorded, .call (.removeGrant "team-a" "jit-1-jit"), .ok (), overdueRevoked, rfl, rfl⟩,
    ⟨overdueRevoked, .call (.removeRequest "jit-1"), .ok (), overdueRevoked.dropRequest "jit-1",
      rfl, rfl⟩]
  result := some (.ok .done)
  talk := Program.dialogue_of_replay (by decide +kernel)

theorem late_course : Course Eq overdue late.moments (overdueRevoked.dropRequest "jit-1") :=
  .next rfl <| .next rfl <| .next rfl <| .next rfl <| .next rfl <| .next rfl <| .next rfl <|
    .next rfl <| .next rfl <| .next rfl <| .next rfl <| .next rfl <| .last rfl

theorem late_retracted :
    ∃ r e, Found "jit-1" (late.moments.map Moment.said) r e ∧ grant ∈ Grant.ofRequest r ∧
      grant.expires = some r.closes ∧
      ∀ outcome, late.result = some (.ok outcome) →
        ∃ held, latest Turn.record? (late.moments.map Moment.said) = some held ∧
          (overdue.clock < held.closes ∨
            late.Retracts held.spec.namespaces (overdueRevoked.dropRequest "jit-1")) :=
  late_grant_taken_back (m := late.moments[4]) late_course (fun h => h ▸ le_refl _)
    (fun h => h ▸ fun _ _ g hg ho => ⟨g, hg, ho⟩) (List.getElem_mem _) rfl

/-- Access can be given once the window is over. -/
theorem grant_can_be_late :
    ∃ s', Course Eq overdue late.moments s' ∧
      Found "jit-1" (late.moments.map Moment.said) (request awaiting) edition ∧
      ∃ m ∈ late.moments, m.said = ⟨.call (.addGrant grant), .ok ()⟩ ∧
        (request awaiting).closes ≤ m.before.clock :=
  ⟨_, late_course, List.prefix_append [_, _] _, late.moments[4], List.getElem_mem _, rfl,
    le_refl _⟩

end Sample

end AccessWindow
