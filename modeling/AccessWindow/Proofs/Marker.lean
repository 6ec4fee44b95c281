import AccessWindow.Proofs.Removal

namespace AccessWindow

open Lifecycle

variable {others : Scene → Scene → Prop} {s s' : Scene} {m : Moment} {before after : List Moment}
  {name : String} {r held w stored : Request} {e : Edition} {g : Grant} {v : Visit name}
  {status : Request.Status} {finish : Instant}

/-- Visits that find this status take grants back only when their clock has come to this instant. -/
def RevokedAt (name : String) (status : Request.Status) (finish : Instant) : Prop :=
  ∀ (v : Visit name) r e before m after scope key, Found name (v.moments.map Moment.said) r e →
    r.status = status → v.moments = before ++ m :: after →
    m.op = .call (.removeGrant scope key) →
    ∃ t, latest Turn.reading? (before.map Moment.said) = some t ∧ finish.until? t = none

theorem revokedAt_of_succeeded (hp : status.phase = .succeeded)
    (hf : status.finish = some finish) : RevokedAt name status finish := by
  intro v r e before m after scope key found hs hv hop
  have closes : r.closes = finish := by rw [Request.closes, hs, hf, Option.getD_some]
  cases v.due_of_revoke hv hop found with
  | inl discarded =>
    cases discarded with
    | inl h => simp [hs, hp] at h
    | inr h => simp [hs, hp] at h
  | inr elapsed =>
    obtain ⟨held, t, lapsing, ht, hu⟩ := elapsed
    cases lapsing with
    | granted h => simp [hs, hp] at h
    | _ => exact ⟨t, ht, closes ▸ hu⟩

/-- The grants of a visit carry the end of the window that it has found on record. When it puts
access on record, the window is renewed from the record in hand, and it is the renewed end that the
grants are taken back at. The two agree if and only if that record still asks for the end that was
found. -/
theorem marker_agrees_iff (hv : v.moments = before ++ m :: after)
    (hsaid : m.said = ⟨.call (.putStatus w), .ok stored⟩) (hp : w.status.phase = .succeeded) :
    ∃ r e held, Found name (before.map Moment.said) r e ∧
      latest Turn.record? (before.map Moment.said) = some held ∧
      stored.status.finish = some held.spec.finish ∧
      RevokedAt name stored.status held.spec.finish ∧
      ∀ m' ∈ v.moments, ∀ g, m'.op = .call (.addGrant g) → g.expires = some r.closes ∧
        (g.expires = stored.status.finish ↔ held.spec.finish = r.closes) := by
  obtain ⟨r, e, found, -, u, held, rfl, hl, -, -⟩ :=
    v.found_of_write hv (congrArg Sigma.fst hsaid)
  have hs := m.stored_status hsaid
  have hf : stored.status.finish = some held.spec.finish := by rw [hs, Request.record]
  refine ⟨r, e, held, found, hl, hf, revokedAt_of_succeeded (hs ▸ hp) hf, ?_⟩
  intro m' hm' g hop
  obtain ⟨earlier, later, hv'⟩ := List.append_of_mem hm'
  obtain ⟨r', e', found', -, -, hg⟩ := v.found_of_grant hv' hop
  obtain ⟨rfl, -⟩ :=
    (v.found_whole hv' found').unique (v.found_whole hv found) (List.prefix_refl _)
  have marker := Grant.expires_of_mem hg
  refine ⟨marker, ?_⟩
  rw [marker, hf, Option.some.injEq, eq_comm]

namespace Sample

def edited : Request :=
  { request awaiting with spec := { Sample.spec with finish := ⟨90000, 0, by decide⟩ } }

def putOff : Scene := atStart.putRequest edited

def putOffProvided : Scene := putOff.putGrant grant

def editedGranted : Request :=
  { edited.record ⟨.succeeded, Ticket.grantedMessage, .issue "IAM-1"⟩ with version := some "2" }

def putOffRecorded : Scene := putOffProvided.putRequest editedGranted

def extended : Visit "jit-1" where
  keeper := keeper
  lastKnown := []
  moments := [
    ⟨putOff, .call (.requestNamed "jit-1"), .ok edited, putOff, rfl, rfl⟩,
    ⟨putOff, .edition, some edition, putOff, rfl, rfl⟩,
    ⟨putOff, .clock, spec.start, putOff, rfl, rfl⟩,
    ⟨putOff, .call (.stateOfTicket "IAM-1"), .ok "Approved", putOff, rfl⟩,
    ⟨putOff, .call (.addGrant grant), .ok (), putOffProvided, rfl, rfl⟩,
    ⟨putOffProvided, .call (.commentOn "IAM-1" Ticket.doneNote), .ok (), putOffProvided, rfl⟩,
    ⟨putOffProvided, .call (.transition "IAM-1" "41"), .ok (), putOffProvided, rfl⟩,
    ⟨putOffProvided, .call (.putStatus (edited.record
      ⟨.succeeded, Ticket.grantedMessage, .issue "IAM-1"⟩)), .ok editedGranted, putOffRecorded,
      edited, some "2", rfl, rfl, rfl⟩,
    ⟨putOffRecorded, .clock, spec.start, putOffRecorded, rfl, rfl⟩]
  result := some (.ok (.again 3660000000000))
  talk := Program.dialogue_of_replay (by decide +kernel)

theorem extended_marker :
    ∃ r e held, Found "jit-1" ((extended.moments.take 7).map Moment.said) r e ∧
      latest Turn.record? ((extended.moments.take 7).map Moment.said) = some held ∧
      editedGranted.status.finish = some held.spec.finish ∧
      RevokedAt "jit-1" editedGranted.status held.spec.finish ∧
      ∀ m' ∈ extended.moments, ∀ g, m'.op = .call (.addGrant g) → g.expires = some r.closes ∧
        (g.expires = editedGranted.status.finish ↔ held.spec.finish = r.closes) :=
  marker_agrees_iff (v := extended) (m := extended.moments[7]) rfl rfl rfl

/-- A grant can carry another expiry than the end that is put on record with it. -/
theorem marker_can_disagree :
    ∃ s', Course Eq putOff extended.moments s' ∧
      Found "jit-1" (extended.moments.map Moment.said) edited edition ∧
      edited.status.phase = .preApproved ∧
      (∃ m ∈ extended.moments, m.said = ⟨.call (.putStatus (edited.record
        ⟨.succeeded, Ticket.grantedMessage, .issue "IAM-1"⟩)), .ok editedGranted⟩) ∧
      ∃ m ∈ extended.moments, m.said = ⟨.call (.addGrant grant), .ok ()⟩ ∧
        grant.expires ≠ editedGranted.status.finish := by
  have course : Course Eq putOff extended.moments putOffRecorded :=
    .next rfl <| .next rfl <| .next rfl <| .next rfl <| .next rfl <| .next rfl <| .next rfl <|
      .next rfl <| .next rfl <| .last rfl
  exact ⟨_, course, List.prefix_append [_, _] _, rfl,
    ⟨extended.moments[7], List.getElem_mem _, rfl⟩,
    extended.moments[4], List.getElem_mem _, rfl, by decide⟩

end Sample

end AccessWindow
