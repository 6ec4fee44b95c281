import AccessWindow.Proofs.Service
import AccessWindow.Proofs.TicketKept

/-! Visits to one request that overlap. The store takes a status only on top of the version that it
was made for, so what a visit writes follows upon the record that it was brought last. A write that
has met a newer version is made again on that version, though, with the decision that was taken on
the old one. -/

namespace AccessWindow

open Lifecycle

variable {others : Scene → Scene → Prop} {s s' a b c : Scene} {m : Moment}
  {ms before after : List Moment} {name : String} {past : List Turn} {r held w : Request}
  {e : Edition} {u : Request.Update} {v : Visit name}

def Phase.Precedes : Phase → Phase → Prop
  | .fresh, _ => True
  | .preApproved, p => p ≠ .fresh
  | p, p' => p' = p

namespace Phase

theorem precedes_refl (p : Phase) : p.Precedes p := by
  cases p <;> simp [Precedes]

theorem Precedes.trans {p p' p'' : Phase} (h : p.Precedes p') (h' : p'.Precedes p'') :
    p.Precedes p'' := by
  cases p with
  | fresh => trivial
  | preApproved => cases p' <;> simp_all [Precedes]
  | _ =>
    cases h
    exact h'

theorem Leads.precedes {p p' : Phase} (h : p.Leads p') : p.Precedes p' := by
  cases p with
  | fresh => trivial
  | preApproved => obtain rfl | rfl | rfl := h <;> simp [Precedes]
  | _ => exact h

end Phase

structure Request.Status.Heeds (later earlier : Request.Status) : Prop where
  phase : earlier.phase.Precedes later.phase
  ticket : ∀ key, earlier.ticket = .issue key → later.ticket = .issue key

theorem Request.Status.heeds_refl (status : Request.Status) : status.Heeds status :=
  ⟨status.phase.precedes_refl, fun _ h => h⟩

theorem Request.Status.Heeds.trans {last later earlier : Request.Status} (h : last.Heeds later)
    (h' : later.Heeds earlier) : last.Heeds earlier :=
  ⟨h'.phase.trans h.phase, fun key hk => h.ticket key (h'.ticket key hk)⟩

namespace Scene

def Onward (name : String) (s s' : Scene) : Prop :=
  ∀ q', s'.requests name = some q' → ∃ q, s.requests name = some q ∧ q'.status.Heeds q.status

theorem onward_of_eq (h : b.requests name = a.requests name) : a.Onward name b :=
  fun q hq => ⟨q, h ▸ hq, q.status.heeds_refl⟩

theorem KeepsStatus.onward (h : a.KeepsStatus name b) : a.Onward name b := by
  intro q' hq'
  obtain ⟨q, hq, hs⟩ := h q' hq'
  exact ⟨q, hq, hs ▸ q.status.heeds_refl⟩

theorem Onward.trans (hab : a.Onward name b) (hbc : b.Onward name c) : a.Onward name c := by
  intro q'' hq''
  obtain ⟨q', hq', h⟩ := hbc q'' hq''
  obtain ⟨q, hq, h'⟩ := hab q' hq'
  exact ⟨q, hq, h.trans h'⟩

end Scene

/-- Between no two scenes of the moments does the request go back or lose its ticket. -/
def InSequence (name : String) (ms : List Moment) : Prop :=
  (∀ m ∈ ms, m.before.Onward name m.after) ∧ ms.Pairwise fun m m' => m.before.Onward name m'.after

theorem Course.pairwise {R : Scene → Scene → Prop} (h : Course others s ms s')
    (trans : ∀ {a b c}, R a b → R b c → R a c) (idle : ∀ {a b}, others a b → R a b)
    (moved : ∀ m ∈ ms, R m.before m.after) : ms.Pairwise fun m m' => R m.before m'.after := by
  induction h with
  | last => exact .nil
  | @next _ m ms _ _ later ih =>
    have ⟨hm, hms⟩ := List.forall_mem_cons.1 moved
    refine .cons (fun m' hm' => ?_) (ih hms)
    obtain ⟨l₁, l₂, rfl⟩ := List.append_of_mem hm'
    have ⟨h₁, h₂⟩ := List.forall_mem_append.1 hms
    have between : R m.after m'.before := later.split.1.relates trans idle h₁
    exact trans hm (trans between (h₂ m' List.mem_cons_self))

/-- Visits to a request, and the moments of all of them, each with the place of its visit. -/
structure Overlap (name : String) where
  visits : List (Visit name)
  work : List (Nat × Moment)
  own : ∀ i v, visits[i]? = some v → v.moments = Worker.momentsAt work i
  placed : ∀ x ∈ work, x.1 < visits.length

namespace Overlap

variable {o : Overlap name}

def moments (o : Overlap name) : List Moment := o.work.map Prod.snd

theorem mem_moments (hv : v ∈ o.visits) (hm : m ∈ v.moments) : m ∈ o.moments := by
  obtain ⟨i, hi⟩ := List.mem_iff_getElem?.1 hv
  rw [o.own i v hi] at hm
  obtain ⟨x, hx, rfl⟩ := List.mem_map.1 hm
  exact List.mem_map_of_mem (List.mem_filter.1 hx).1

theorem exists_of_mem (hm : m ∈ o.moments) : ∃ v ∈ o.visits, m ∈ v.moments := by
  obtain ⟨x, hx, rfl⟩ := List.mem_map.1 hm
  have hi := List.getElem?_eq_getElem (o.placed x hx)
  refine ⟨_, List.getElem_mem (o.placed x hx), ?_⟩
  rw [o.own _ _ hi]
  exact List.mem_map_of_mem (List.mem_filter.2 ⟨hx, by simp⟩)

end Overlap

/-- The store takes a status only on top of the version that it was made for. -/
def Moment.Checks (m : Moment) : Prop :=
  ∀ w old, m.op = .call (.putStatus w) → m.before.requests w.name = some old →
    old.version ≠ w.version → m.after = m.before

def Recorded (name : String) (ms : List Moment) (q : Request) : Prop :=
  ∃ m ∈ ms, m.before.requests name = some q ∨ m.after.requests name = some q

def Versioned (name : String) (ms : List Moment) : Prop :=
  ∀ q q', Recorded name ms q → Recorded name ms q' → q.version = q'.version → q = q'

def Contested (past : List Turn) : Prop :=
  ∃ w message, Heard past (.putStatus w) (.error (.conflict message))

theorem Turn.record?_cases {x : Turn} (h : x.record? = some held) :
    (∃ n, x = ⟨.call (.requestNamed n), .ok held⟩) ∨ ∃ w, x = ⟨.call (.putStatus w), .ok held⟩ := by
  obtain ⟨op, answer⟩ := x
  cases op with
  | call c =>
    cases answer with
    | error => cases c <;> cases h
    | ok =>
      cases c with
      | requestNamed n =>
        cases h
        exact .inl ⟨n, rfl⟩
      | putStatus w =>
        cases h
        exact .inr ⟨w, rfl⟩
      | _ => cases h
  | _ => cases h

namespace Visit

theorem contested_of_reread {n : String} (hv : v.moments = before ++ m :: after)
    (hop : m.op = .call (.requestNamed n)) :
    before.map Moment.said = [] ∨ Contested (before.map Moment.said) := by
  have permitted := v.permitted hv
  rw [hop] at permitted
  cases permitted with
  | find hnil => exact .inl hnil
  | reread hslept =>
    obtain ⟨earlier, m', rfl, rfl, hm'⟩ := Moment.exists_last hslept
    have hv' : v.moments = earlier ++ m' :: (m :: after) := by simp [hv]
    have paused := v.permitted hv'
    rw [show m'.op = _ from congrArg Sigma.fst hm'] at paused
    cases paused with
    | @pause _ w message _ hmet =>
      refine .inr ⟨w, message, ?_⟩
      simp [Heard, hmet]

theorem heeds (hv : v.moments = before ++ m :: after)
    (found : Found name (before.map Moment.said) r e)
    (latest : latest Turn.record? (before.map Moment.said) = some held)
    (dec : Decides (before.map Moment.said) r e u) (cont : Continues (before.map Moment.said) u)
    (quiet : ¬Contested (before.map Moment.said)) (full : ¬v.Lacks) :
    (held.record u).status.Heeds held.status := by
  obtain ⟨l₁, m', l₂, rfl, hrec, -⟩ := v.exists_brought hv latest
  have hv' : v.moments = l₁ ++ m' :: (l₂ ++ m :: after) := by simp [hv]
  cases Turn.record?_cases hrec with
  | inl brought =>
    obtain ⟨n, hsaid⟩ := brought
    cases v.contested_of_reread hv' (congrArg Sigma.fst hsaid) with
    | inr contested =>
      obtain ⟨w, message, heard⟩ := contested
      rw [List.map_append] at quiet
      exact absurd ⟨w, message, heard.append⟩ quiet
    | inl hnil =>
      have hr : r = held := by
        rw [List.map_append, hnil, List.map_cons, hsaid, List.nil_append, Found,
          List.cons_prefix_cons] at found
        cases found.1
        rfl
      subst hr
      refine ⟨dec.leads.precedes, fun key hk => ?_⟩
      cases dec.keeps hk with
      | inl kept => exact kept
      | inr lacks =>
        obtain ⟨hf, field, hmissing⟩ := lacks
        exact absurd ⟨r, e, field, v.found_whole hv found, hf, hmissing⟩ full
  | inr stored =>
    obtain ⟨w, hsaid⟩ := stored
    have hstatus : held.status = w.status := m'.stored_status hsaid
    rw [hstatus]
    cases cont m'.said (by simp) w (congrArg Sigma.fst hsaid) with
    | inl same =>
      obtain ⟨held', rfl⟩ := same
      exact ⟨u.phase.precedes_refl, fun _ hk => hk⟩
    | inr opened =>
      refine ⟨?_, fun key hk => opened.2.symm.trans hk⟩
      rw [opened.1]
      trivial

end Visit

theorem Moment.written_of_effect (hop : m.op = .call (.putStatus w))
    (effect : m.after.requests name ≠ m.before.requests name) :
    w.name = name ∧ ∃ old q, m.before.requests name = some old ∧ m.after.requests name = some q ∧
      q.status = w.status := by
  obtain ⟨before, op, answer, after, lawful⟩ := m
  have leaves : before.Leaves op after := lawful.leaves
  cases hop
  cases leaves with
  | same => exact absurd rfl effect
  | @written _ old version hold =>
    have hname : old.name = w.name := before.named hold
    by_cases hn : w.name = name
    · subst hn
      exact ⟨rfl, old, _, hold, Scene.requests_putRequest.2 (.inl ⟨hname.symm, rfl⟩), rfl⟩
    · refine absurd ?_ effect
      have : name ≠ old.name := fun h => hn (h.trans hname).symm
      simp [Scene.putRequest, this]

namespace Overlap

variable {o : Overlap name}

theorem made_on_latest (checks : ∀ m ∈ o.moments, m.Checks) (versions : Versioned name o.moments)
    (ho : v ∈ o.visits) (hv : v.moments = before ++ m :: after)
    (hop : m.op = .call (.putStatus w))
    (effect : m.after.requests name ≠ m.before.requests name) :
    ∃ held q, latest Turn.record? (before.map Moment.said) = some held ∧
      m.before.requests name = some held ∧ m.after.requests name = some q ∧
      q.status = w.status := by
  obtain ⟨-, -, -, -, u, held, rfl, hl, -⟩ := v.found_of_write hv hop
  obtain ⟨hn, old, q, hold, hq, hs⟩ := m.written_of_effect hop effect
  have mem (m' : Moment) (h : m' ∈ v.moments) : m' ∈ o.moments := o.mem_moments ho h
  have hm : m ∈ o.moments := mem m (by simp [hv])
  have version : old.version = held.version := by
    by_contra hne
    exact effect (congrArg (Scene.requests · name) (checks m hm _ old hop (hn ▸ hold) hne))
  have brought : Recorded name o.moments held := by
    obtain ⟨l₁, m', l₂, rfl, -, hstored⟩ := v.exists_brought hv hl
    exact ⟨m', mem m' (by simp [hv]), .inr hstored⟩
  obtain rfl : old = held := versions old held ⟨m, hm, .inl hold⟩ brought version
  exact ⟨old, q, hl, hold, hq, hs⟩

/-- What a visit writes after a conflict, or after it found a fresh request to lack a field, follows
upon the record that it was brought last. -/
def Heedful (o : Overlap name) : Prop :=
  ∀ v ∈ o.visits, ∀ before m after w held, v.moments = before ++ m :: after →
    m.op = .call (.putStatus w) → m.after.requests name ≠ m.before.requests name →
    latest Turn.record? (before.map Moment.said) = some held →
    Contested (before.map Moment.said) ∨ v.Lacks → w.status.Heeds held.status

theorem heedful_of_inSequence (checks : ∀ m ∈ o.moments, m.Checks)
    (versions : Versioned name o.moments) (sequence : InSequence name o.moments) : o.Heedful := by
  intro v hv before m after w held hms hop effect hl _
  obtain ⟨held', q', hl', hbefore, hafter, hw⟩ := made_on_latest checks versions hv hms hop effect
  cases hl.symm.trans hl'
  obtain ⟨q, hq, heeds⟩ := sequence.1 m (o.mem_moments hv (by simp [hms])) q' hafter
  cases hq.symm.trans hbefore
  exact hw ▸ heeds

theorem Heedful.onward (heedful : o.Heedful) (checks : ∀ m ∈ o.moments, m.Checks)
    (versions : Versioned name o.moments) (hm : m ∈ o.moments) : m.before.Onward name m.after := by
  intro q' hq'
  obtain ⟨v, hv, hmem⟩ := o.exists_of_mem hm
  obtain ⟨before, after, hms⟩ := List.append_of_mem hmem
  obtain ⟨old, hold, -, hstatus⟩ := m.lawful.leaves.request_before hq'
  cases hstatus with
  | inl same => exact ⟨old, hold, same ▸ old.status.heeds_refl⟩
  | inr written =>
    obtain ⟨w, hop, -, hw⟩ := written
    by_cases effect : m.after.requests name = m.before.requests name
    · exact Scene.onward_of_eq effect q' hq'
    obtain ⟨held, -, hl, hbefore, -⟩ := made_on_latest checks versions hv hms hop effect
    refine ⟨held, hbefore, hw ▸ ?_⟩
    by_cases contested : Contested (before.map Moment.said) ∨ v.Lacks
    · exact heedful v hv before m after w held hms hop effect hl contested
    obtain ⟨quiet, full⟩ := not_or.1 contested
    obtain ⟨r, e, found, -, u, held', rfl, hl', dec, cont⟩ := v.found_of_write hms hop
    cases hl.symm.trans hl'
    exact v.heeds hms found hl dec cont quiet full

end Overlap

/-- The stored states of a request never go back and keep their ticket, however visits overlap, if
and only if whatever a visit writes after a conflict follows upon the record that it has reread.
Without a conflict that is so of itself, except for the ticket of a fresh request that is found to
lack a field. -/
theorem overlap_in_sequence_iff {o : Overlap name} (h : Course others s o.moments s')
    (status : ∀ {a b}, others a b → a.KeepsStatus name b) (checks : ∀ m ∈ o.moments, m.Checks)
    (versions : Versioned name o.moments) : InSequence name o.moments ↔ o.Heedful := by
  refine ⟨o.heedful_of_inSequence checks versions, fun heedful => ?_⟩
  have moved : ∀ m ∈ o.moments, m.before.Onward name m.after := fun m hm =>
    heedful.onward checks versions hm
  exact ⟨moved, h.pairwise Scene.Onward.trans (fun ho => (status ho).onward) moved⟩

namespace Sample

def rivalTicketing : Request.Update := ⟨.fresh, "Jira ticket IAM-2 created", .issue "IAM-2"⟩

def rivalTicketed : Request :=
  { (request .initial).record rivalTicketing with version := some "2" }

def rivalReview : Scene := submission.putRequest rivalTicketed

def rivalAccepting : Request.Update := ⟨.preApproved, Ticket.preApprovalMessage, .issue "IAM-2"⟩

def rivalAccepted : Request := { rivalTicketed.record rivalAccepting with version := some "3" }

def rivalEnd : Scene := rivalReview.putRequest rivalAccepted

def relapsed : Request := { rivalAccepted.record ticketing with version := some "4" }

def relapse : Scene := rivalEnd.putRequest relapsed

def rival : Visit "jit-1" where
  keeper := keeper
  lastKnown := []
  moments := submitted.moments.take 3 ++ [
    ⟨submission, .call (.raiseTicket (.ofRequest Sample.spec "dev" edition)), .ok "IAM-2",
      submission, rfl⟩,
    ⟨submission, .call (.putStatus ((request .initial).record rivalTicketing)), .ok rivalTicketed,
      rivalReview, request .initial, some "2", rfl, rfl, rfl⟩,
    ⟨rivalReview, .clock, .epoch, rivalReview, rfl, rfl⟩,
    ⟨rivalReview, .call (.commentOn "IAM-2"
        (Ticket.preApprovedNote Sample.spec edition.rulebook.comment)), .ok (), rivalReview, rfl⟩,
    ⟨rivalReview, .call (.publishEvent ⟨"jit-1", "u1", .preApproved,
      "ClusterRole 'edit' is allowed\nJira: IAM-2"⟩), .ok (), rivalReview, rfl⟩,
    ⟨rivalReview, .call (.putStatus (rivalTicketed.record rivalAccepting)), .ok rivalAccepted,
      rivalEnd, rivalTicketed, some "3", rfl, rfl, rfl⟩]
  result := some (.ok (.again 86340000000000))
  talk := Program.dialogue_of_replay (by decide +kernel)

def outrun : Visit "jit-1" where
  keeper := keeper
  lastKnown := []
  moments := submitted.moments.take 4 ++ [
    ⟨rivalEnd, .call (.putStatus ((request .initial).record ticketing)),
      .error (.conflict "stale"), rivalEnd, .inl rfl⟩,
    ⟨rivalEnd, .sleep 2000000000, (), rivalEnd, rfl⟩,
    ⟨rivalEnd, .call (.requestNamed "jit-1"), .ok rivalAccepted, rivalEnd, rfl, rfl⟩,
    ⟨rivalEnd, .call (.putStatus (rivalAccepted.record ticketing)), .ok relapsed, relapse,
      rivalAccepted, some "4", rfl, rfl, rfl⟩,
    ⟨relapse, .clock, .epoch, relapse, rfl, rfl⟩,
    ⟨relapse, .call (.commentOn "IAM-1"
        (Ticket.preApprovedNote Sample.spec edition.rulebook.comment)),
      .error (.external none "down"), relapse, .inl rfl⟩]
  result := some (.error (.external none "down"))
  talk := Program.dialogue_of_replay (by decide +kernel)

def rivalry : Overlap "jit-1" where
  visits := [outrun, rival]
  work := (outrun.moments.take 4).map (Prod.mk 0) ++ rival.moments.map (Prod.mk 1) ++
    (outrun.moments.drop 4).map (Prod.mk 0)
  own i v h := by
    simp only [Worker.momentsAt_append, Worker.momentsAt_map]
    match i with
    | 0 =>
      cases h
      simp
    | 1 =>
      cases h
      simp
  placed x hx := by
    simp only [List.mem_append, List.mem_map] at hx
    obtain (⟨m, -, rfl⟩ | ⟨m, -, rfl⟩) | ⟨m, -, rfl⟩ := hx <;> simp

theorem rivalry_course :
    Course (Scene.Undisturbed "jit-1") submission rivalry.moments relapse :=
  .next .refl <| .next .refl <| .next .refl <| .next .refl <| .next .refl <| .next .refl <|
    .next .refl <| .next .refl <| .next .refl <| .next .refl <| .next .refl <| .next .refl <|
    .next .refl <| .next .refl <| .next .refl <| .next .refl <| .next .refl <| .next .refl <|
    .next .refl <| .last .refl

theorem rivalry_checks : ∀ m ∈ rivalry.moments, m.Checks := by
  have idle {m : Moment} (h : m.after = m.before) : m.Checks := fun _ _ _ _ _ => h
  have current {m : Moment} {w old : Request} (hop : m.op = .call (.putStatus w))
      (hold : m.before.requests w.name = some old) (hv : old.version = w.version) : m.Checks := by
    intro w' old' hop' hold' hne
    cases hop.symm.trans hop'
    cases hold.symm.trans hold'
    exact absurd hv hne
  repeat' refine List.forall_mem_cons.2 ⟨?_, ?_⟩
  all_goals first
    | exact idle rfl
    | exact current rfl rfl rfl
    | exact List.forall_mem_nil _

def rivalRecords : List Request := [request .initial, rivalTicketed, rivalAccepted, relapsed]

theorem rivalry_records : ∀ m ∈ rivalry.moments,
    m.before.requests "jit-1" ∈ rivalRecords.map some ∧
      m.after.requests "jit-1" ∈ rivalRecords.map some := by
  decide +kernel

theorem rivalry_versions : Versioned "jit-1" rivalry.moments := by
  have listed (q : Request) (h : Recorded "jit-1" rivalry.moments q) : q ∈ rivalRecords := by
    obtain ⟨m, hm, hq⟩ := h
    obtain ⟨hbefore, hafter⟩ := rivalry_records m hm
    cases hq with
    | inl hq => simpa [hq] using hbefore
    | inr hq => simpa [hq] using hafter
  have distinct : ∀ q ∈ rivalRecords, ∀ q' ∈ rivalRecords, q.version = q'.version → q = q' := by
    decide +kernel
  exact fun q q' h h' => distinct q (listed q h) q' (listed q' h')

theorem rivalry_in_sequence_iff : InSequence "jit-1" rivalry.moments ↔ rivalry.Heedful :=
  overlap_in_sequence_iff rivalry_course Scene.Undisturbed.status rivalry_checks rivalry_versions

/-- Of two visits that overlap, one pre-approves the request, and the other then takes it back to
the start and puts its own ticket in place of the first. -/
theorem overlap_can_undo :
    Course (Scene.Undisturbed "jit-1") submission rivalry.moments relapse ∧
      (∀ m ∈ rivalry.moments, m.Checks) ∧ Versioned "jit-1" rivalry.moments ∧
      (∃ m ∈ rivalry.moments, ∃ q q', m.before.requests "jit-1" = some q ∧
        m.after.requests "jit-1" = some q' ∧ q.status.phase = .preApproved ∧
        q'.status.phase = .fresh ∧ q.status.ticket = .issue "IAM-2" ∧
        q'.status.ticket = .issue "IAM-1") ∧
      ¬InSequence "jit-1" rivalry.moments := by
  have undone : ∃ m ∈ rivalry.moments, m.before.requests "jit-1" = some rivalAccepted ∧
      m.after.requests "jit-1" = some relapsed := by
    decide +kernel
  obtain ⟨m, hm, hbefore, hafter⟩ := undone
  refine ⟨rivalry_course, rivalry_checks, rivalry_versions,
    ⟨m, hm, _, _, hbefore, hafter, rfl, rfl, rfl, rfl⟩, fun sequence => ?_⟩
  obtain ⟨q, hq, heeds⟩ := sequence.1 m hm relapsed hafter
  cases hq.symm.trans hbefore
  exact heeds.phase rfl

end Sample

end AccessWindow
