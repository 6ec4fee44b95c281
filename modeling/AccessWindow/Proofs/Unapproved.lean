import AccessWindow.Proofs.Approval
import AccessWindow.Proofs.Removal

namespace AccessWindow

open Lifecycle

variable {others : Scene → Scene → Prop} {s s' : Scene} {ms before after : List Moment}
  {name scope key : String} {scopes : List String} {past : List Turn} {r held stored x : Request}
  {e : Edition} {u : Request.Update} {g : Grant} {v : Visit name}

def Scene.KeepsGrants (owner : String) (s s' : Scene) : Prop :=
  ∀ scope key g, g.belongsTo owner → (s'.grants scope key = some g ↔ s.grants scope key = some g)

theorem Scene.KeepsGrants.spares (h : s.KeepsGrants name s') : s.SparesGrants name s' :=
  fun scope key g hg ho => ⟨g, (h scope key g ho).1 hg, ho⟩

def Visit.Records (v : Visit name) (u : Request.Update) : Prop :=
  ∃ m ∈ v.moments, ∃ held stored : Request,
    m.said = ⟨.call (.putStatus (held.record u)), .ok stored⟩

def Visit.Unapproved (v : Visit name) (e : Edition) : Prop :=
  ∀ m ∈ v.moments, ∀ key, m.said ≠ ⟨.call (.stateOfTicket key), .ok e.rulebook.approvedStatus⟩

theorem Visit.Unapproved.not_approved (h : v.Unapproved e)
    (hp : past <+: v.moments.map Moment.said) : ¬Approved past r e key := by
  intro approved
  obtain ⟨-, t, -, hs⟩ := approved
  obtain ⟨m, hm, hsaid⟩ := List.mem_map.1 (hp.subset (hs.subset (List.mem_cons_of_mem _
    List.mem_cons_self)))
  exact h m hm key hsaid

namespace Course

theorem clock_le_reading {t : Instant} (h : Course others s ms s')
    (onward : ∀ {a b}, others a b → a.clock ≤ b.clock)
    (ht : (⟨.clock, t⟩ : Turn) ∈ ms.map Moment.said) : s.clock ≤ t := by
  obtain ⟨m, hm, hsaid⟩ := List.mem_map.1 ht
  obtain ⟨before, after, rfl⟩ := List.append_of_mem hm
  rw [m.read hsaid]
  exact h.split.1.clock_le onward

theorem grant_after (h : Course others s ms s')
    (keeps : ∀ {a b}, others a b → a.KeepsGrants name b)
    (spared : ∀ m ∈ ms, ∀ scope key, m.op ≠ .call (.removeGrant scope key))
    (hg : s.grants scope key = some g) (ho : g.belongsTo name) :
    s'.grants scope key = some g := by
  refine h.relates (R := fun a b => a.grants scope key = some g → b.grants scope key = some g)
    (fun hab hbc ha => hbc (hab ha)) (fun hab => (keeps hab scope key g ho).2) ?_ hg
  intro m hm hbefore
  exact (m.lawful.leaves.grant_after hbefore).resolve_right (spared m hm scope key)

theorem not_holds (h : Course others s ms s')
    (keeps : ∀ {a b}, others a b → a.KeepsGrants name b)
    (spared : ∀ m ∈ ms, ∀ scope key, m.op ≠ .call (.removeGrant scope key))
    (lacking : Lacking name scopes (ms.map Moment.said)) : ¬s.Holds name scopes := by
  intro held
  obtain ⟨scope, hscope, key, g, hg, ho⟩ := held
  obtain ⟨grants, heard, hnone⟩ := lacking scope hscope
  obtain ⟨m, hm, hsaid⟩ := List.mem_map.1 heard
  obtain ⟨before, after, rfl⟩ := List.append_of_mem hm
  have stands := h.split.1.grant_after keeps (fun m hm => spared m (by simp [hm])) hg ho
  obtain ⟨-, rfl⟩ := m.before.placed stands
  exact hnone g ((m.listed hsaid).2 stands) ho

end Course

namespace Visit

theorem spared (hf : Found name (v.moments.map Moment.said) r e)
    (hp : r.status.phase = .preApproved) (cont : Continues (v.moments.map Moment.said) u)
    (hu : u.phase ≠ .succeeded) :
    ∀ m ∈ v.moments, ∀ scope key, m.op ≠ .call (.removeGrant scope key) := by
  intro m hm scope key hop
  obtain ⟨before, after, hv⟩ := List.append_of_mem hm
  cases v.due_of_revoke hv hop hf with
  | inl discarded => exact discarded.not_preApproved hp
  | inr elapsed =>
    obtain ⟨held, t, lapsing, -, -⟩ := elapsed
    obtain ⟨x, hx, heard⟩ := lapsing.of_preApproved hp
    have hpre : before.map Moment.said <+: v.moments.map Moment.said := by simp [hv]
    exact hu (cont.succeeded (heard.mono hpre) hx)

theorem granted_upon (hf : Found name (v.moments.map Moment.said) r e)
    (hx : x.status.phase = .succeeded)
    (heard : Heard (v.moments.map Moment.said) (.putStatus x) (.ok stored)) :
    v.Records ⟨.succeeded, Ticket.grantedMessage, r.status.ticket⟩ ∧
      ∃ before after, v.moments = before ++ after ∧ Found name (before.map Moment.said) r e ∧
        Provided (before.map Moment.said) r ∧
        ((∃ key, Approved (before.map Moment.said) r e key) ∨
          Holding (before.map Moment.said) r) := by
  obtain ⟨m, hm, hsaid⟩ := List.mem_map.1 heard
  obtain ⟨before, after, hv⟩ := List.append_of_mem hm
  obtain ⟨r', e', found, -, u, held, rfl, -, dec, -⟩ :=
    v.found_of_write hv (congrArg Sigma.fst hsaid)
  obtain ⟨rfl, rfl⟩ := (v.found_whole hv found).unique hf (List.prefix_refl _)
  obtain ⟨rfl, provided, why⟩ := dec.of_succeeded hx
  exact ⟨⟨m, hm, held, stored, hsaid⟩, before, m :: after, hv, found, provided, why⟩

end Visit

theorem Course.granted_unapproved (h : Course others s v.moments s')
    (spares : ∀ {a b}, others a b → a.SparesGrants name b)
    (hf : Found name (v.moments.map Moment.said) r e) (hp : r.status.phase = .preApproved)
    (unapproved : v.Unapproved e) (lapsing : Lapsing (v.moments.map Moment.said) r held) :
    s.Holds name r.spec.namespaces ∧
      v.Records ⟨.succeeded, Ticket.grantedMessage, r.status.ticket⟩ ∧
      ∀ g ∈ Grant.ofRequest r, ∃ m ∈ v.moments, m.op = .call (.addGrant g) := by
  obtain ⟨x, hx, heard⟩ := lapsing.of_preApproved hp
  obtain ⟨records, before, after, hv, found, provided, why⟩ := v.granted_upon hf hx heard
  have none : ¬∃ key, Approved (before.map Moment.said) r e key := by
    intro approved
    obtain ⟨key, approved⟩ := approved
    exact unapproved.not_approved (by simp [hv]) approved
  have holding := why.resolve_left none
  refine ⟨(h.holding spares hv found holding).resolve_left none, records, fun g hg => ?_⟩
  obtain ⟨answer, heard⟩ := (provided g hg).heard
  obtain ⟨m, hm, hsaid⟩ := List.mem_map.1 heard
  exact ⟨m, by simp [hv, hm], congrArg Sigma.fst hsaid⟩

/-- When the window begins without approval and nothing goes wrong, the request is rejected if no
grant in its name stands in its namespaces, and given access if there is one. -/
theorem rejected_unless_held (h : Course others s v.moments s')
    (onward : ∀ {a b}, others a b → a.clock ≤ b.clock)
    (keeps : ∀ {a b}, others a b → a.KeepsGrants name b)
    (hf : Found name (v.moments.map Moment.said) r e) (hp : r.status.phase = .preApproved)
    (begun : r.opens ≤ s.clock) (unapproved : v.Unapproved e)
    (calm : ¬Upset (v.moments.map Moment.said)) (ended : v.result.isSome) :
    (¬s.Holds name r.spec.namespaces → v.result = some (.ok .done) ∧
        v.Records ⟨.rejected, "Jira ticket has not been approved", r.status.ticket⟩ ∧
        ∀ m ∈ v.moments, ∀ g, m.op ≠ .call (.addGrant g)) ∧
      (s.Holds name r.spec.namespaces →
        v.Records ⟨.succeeded, Ticket.grantedMessage, r.status.ticket⟩ ∧
        ∀ g ∈ Grant.ofRequest r, ∃ m ∈ v.moments, m.op = .call (.addGrant g)) := by
  have spares {a b : Scene} (hab : others a b) : a.SparesGrants name b := (keeps hab).spares
  obtain ⟨result, ended⟩ := Option.isSome_iff_exists.1 ended
  cases result with
  | error => exact absurd (v.ends ended) calm
  | ok outcome =>
  cases (v.concludes ended).of_preApproved hf hp with
  | early _ ht hu =>
    have reached := le_trans begun (h.clock_le_reading onward ht)
    exact absurd reached (not_le_of_gt (Instant.lt_of_until?_eq_some hu))
  | @unapproved stored lacking spares hs =>
    -- nothing was taken back before the listing, so it shows what stood there at first
    have bare := h.not_holds keeps (v.spared hf hp hs.continues (by simp)) lacking
    refine ⟨fun _ => ⟨ended, ?_, ?_⟩, fun holds => absurd holds bare⟩
    · obtain ⟨held, heard⟩ := hs.written
      obtain ⟨m, hm, hsaid⟩ := List.mem_map.1 heard
      exact ⟨m, hm, held, stored, hsaid⟩
    · exact v.no_grant_of_only spares
  | lapsing _ lapsing =>
    have ⟨holds, grants⟩ := h.granted_unapproved spares hf hp unapproved lapsing
    exact ⟨fun bare => absurd holds bare, fun _ => grants⟩
  | elapsed _ lapsing =>
    have ⟨holds, grants⟩ := h.granted_unapproved spares hf hp unapproved lapsing
    exact ⟨fun bare => absurd holds bare, fun _ => grants⟩

namespace Sample

def wide : Request :=
  { request awaiting with spec := { Sample.spec with namespaces := ["team-a", "team-b"] } }

def old : Grant := { grant with owner := some ⟨"JitRequest", "jit-1", "u0"⟩ }

def leftover : Scene := (atStart.putRequest wide).putGrant old

theorem leftover_lists (g : Grant) : g ∈ [old] ↔ leftover.grants "team-a" g.name = some g :=
  lists_single (fun _ => rfl) g

def spread : Grant := { grant with scope := "team-b" }

def widened : Scene := leftover.putGrant spread

def wideGranted : Request :=
  { wide.record ⟨.succeeded, Ticket.grantedMessage, .issue "IAM-1"⟩ with version := some "2" }

def inherited : Visit "jit-1" where
  keeper := keeper
  lastKnown := []
  moments := [
    ⟨leftover, .call (.requestNamed "jit-1"), .ok wide, leftover, rfl, rfl⟩,
    ⟨leftover, .edition, some edition, leftover, rfl, rfl⟩,
    ⟨leftover, .clock, spec.start, leftover, rfl, rfl⟩,
    ⟨leftover, .call (.stateOfTicket "IAM-1"), .ok "To Do", leftover, rfl⟩,
    ⟨leftover, .call (.grantsWithin "team-a"), .ok [old], leftover, leftover_lists, rfl⟩,
    ⟨leftover, .call (.addGrant grant), .error (.alreadyExists "taken"), leftover, .inl rfl⟩,
    ⟨leftover, .call (.addGrant spread), .ok (), widened, rfl, rfl⟩,
    ⟨widened, .call (.putStatus (wide.record
      ⟨.succeeded, Ticket.grantedMessage, .issue "IAM-1"⟩)), .ok wideGranted,
      widened.putRequest wideGranted, wide, some "2", rfl, rfl, rfl⟩,
    ⟨widened.putRequest wideGranted, .clock, spec.start, widened.putRequest wideGranted, rfl, rfl⟩]
  result := some (.ok (.again 60000000000))
  talk := Program.dialogue_of_replay (by decide +kernel)

theorem inherited_course :
    Course Eq leftover inherited.moments (widened.putRequest wideGranted) :=
  .next rfl <| .next rfl <| .next rfl <| .next rfl <| .next rfl <| .next rfl <| .next rfl <|
    .next rfl <| .next rfl <| .last rfl

theorem inherited_unapproved : inherited.Unapproved edition := by
  intro m hm key hsaid
  simp only [inherited, List.mem_cons, List.not_mem_nil, or_false] at hm
  obtain rfl | rfl | rfl | rfl | rfl | rfl | rfl | rfl | rfl := hm <;>
    simp [Moment.said, edition, Rulebook.standard] at hsaid

theorem inherited_calm : ¬Upset (inherited.moments.map Moment.said) := by
  simp [Upset, inherited, Moment.said, Turn.Upsets, Call.bears, Fault.isTaken]

theorem inherited_granted :
    (¬leftover.Holds "jit-1" wide.spec.namespaces → inherited.result = some (.ok .done) ∧
        inherited.Records ⟨.rejected, "Jira ticket has not been approved", wide.status.ticket⟩ ∧
        ∀ m ∈ inherited.moments, ∀ g, m.op ≠ .call (.addGrant g)) ∧
      (leftover.Holds "jit-1" wide.spec.namespaces →
        inherited.Records ⟨.succeeded, Ticket.grantedMessage, wide.status.ticket⟩ ∧
        ∀ g ∈ Grant.ofRequest wide, ∃ m ∈ inherited.moments, m.op = .call (.addGrant g)) :=
  rejected_unless_held inherited_course (fun h => h ▸ le_refl _)
    (fun h => h ▸ fun _ _ _ _ => Iff.rfl) (List.prefix_append [_, _] _) rfl (le_refl _)
    inherited_unapproved inherited_calm rfl

/-- Access can be given without approval, although no grant of this request stands anywhere. -/
theorem name_reuse_inherits_access :
    ∃ s', Course Eq leftover inherited.moments s' ∧
      Found "jit-1" (inherited.moments.map Moment.said) wide edition ∧
      wide.status.phase = .preApproved ∧ wide.opens ≤ leftover.clock ∧
      inherited.Unapproved edition ∧ ¬Upset (inherited.moments.map Moment.said) ∧
      inherited.result = some (.ok (.again 60000000000)) ∧
      (∀ scope key g, leftover.grants scope key = some g →
        g.owner ≠ some ⟨Grant.ownerKind, wide.name, wide.uid⟩) ∧
      inherited.Records ⟨.succeeded, Ticket.grantedMessage, wide.status.ticket⟩ ∧
      ∃ m ∈ inherited.moments, m.said = ⟨.call (.addGrant spread), .ok ()⟩ := by
  refine ⟨_, inherited_course, List.prefix_append [_, _] _, rfl, le_refl _, inherited_unapproved,
    inherited_calm, rfl, ?_, ⟨inherited.moments[7], List.getElem_mem _, wide, wideGranted, rfl⟩,
    inherited.moments[6], List.getElem_mem _, rfl⟩
  intro scope key g hg
  cases Scene.grants_putGrant.1 hg with
  | inl hg =>
    obtain ⟨-, -, rfl⟩ := hg
    decide
  | inr hg => cases hg.2

end Sample

end AccessWindow
