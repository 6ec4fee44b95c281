import AccessWindow.Proofs.Earned
import AccessWindow.Proofs.SingleTicket

namespace AccessWindow

open Lifecycle

variable {others : Scene → Scene → Prop} {s s' : Scene} {m : Moment}
  {ms before after : List Moment} {name scope key : String} {r q first : Request} {e : Edition}
  {g g' : Grant} {v : Visit name}

namespace Scene

def KeepsIdentity (name : String) (s s' : Scene) : Prop :=
  ∀ q, s'.requests name = some q →
    ∃ old, s.requests name = some old ∧ q.uid = old.uid ∧ q.spec = old.spec

def KeepsNamed (key : String) (s s' : Scene) : Prop :=
  ∀ scope, s'.grants scope key = s.grants scope key

structure Untouched (name : String) (s s' : Scene) : Prop where
  identity : s.KeepsIdentity name s'
  status : s.KeepsStatus name s'
  grants : s.KeepsNamed (Grant.nameFor name) s'

theorem untouched_of_eq (hr : s'.requests = s.requests) (hg : s'.grants = s.grants) :
    s.Untouched name s' where
  identity q hq := ⟨q, hr ▸ hq, rfl, rfl⟩
  status q hq := ⟨q, hr ▸ hq, rfl⟩
  grants scope := by rw [hg]

@[refl] theorem Untouched.refl : s.Untouched name s := untouched_of_eq rfl rfl

theorem KeepsIdentity.trans {a b c : Scene} (hab : a.KeepsIdentity name b)
    (hbc : b.KeepsIdentity name c) : a.KeepsIdentity name c := by
  intro q hq
  obtain ⟨old, hold, hu, hs⟩ := hbc q hq
  obtain ⟨older, holder, hu', hs'⟩ := hab old hold
  exact ⟨older, holder, hu.trans hu', hs.trans hs'⟩

theorem KeepsIdentity.spec (h : s.KeepsIdentity name s') : s.KeepsSpec name s' := by
  intro q hq
  obtain ⟨old, hold, -, hs⟩ := h q hq
  exact ⟨old, hold, hs⟩

theorem Leaves.keepsIdentity {op : Operation} (l : s.Leaves op s') : s.KeepsIdentity name s' := by
  intro q hq
  cases l with
  | @written r old version hold =>
    cases requests_putRequest.1 hq with
    | inl hq =>
      obtain ⟨rfl, rfl⟩ := hq
      have hn : old.name = r.name := s.named hold
      exact ⟨old, hn ▸ hold, rfl, rfl⟩
    | inr hq => exact ⟨q, hq.2, rfl, rfl⟩
  | removed => exact ⟨q, (requests_dropRequest.1 hq).2, rfl, rfl⟩
  | _ => exact ⟨q, hq, rfl, rfl⟩

/-- In the places of the grants that the request asks for, no other grants stand. -/
def Genuine (first : Request) (s : Scene) : Prop :=
  ∀ g ∈ Grant.ofRequest first, ∀ g', s.grants g.scope g.name = some g' → g' = g

def Asks (first : Request) (s : Scene) : Prop :=
  ∀ q, s.requests first.name = some q → Grant.ofRequest q = Grant.ofRequest first

end Scene

theorem Grant.ofRequest_eq (hn : q.name = r.name) (hu : q.uid = r.uid) (hs : q.spec = r.spec)
    (hc : q.closes = r.closes) : ofRequest q = ofRequest r := by
  rw [ofRequest, ofRequest, hn, hu, hs, hc]

theorem Grant.name_of_mem (h : g ∈ ofRequest r) : g.name = nameFor r.name := by
  obtain ⟨scope, -, rfl⟩ := List.mem_map.1 h
  rfl

theorem Grant.eq_of_mem (h : g ∈ ofRequest r) (h' : g' ∈ ofRequest r)
    (hs : g.scope = g'.scope) : g = g' := by
  obtain ⟨scope, -, rfl⟩ := List.mem_map.1 h
  obtain ⟨scope', -, rfl⟩ := List.mem_map.1 h'
  obtain rfl : scope = scope' := hs
  rfl

theorem Request.closes_of_reached (h : q.status.Reached q.spec) : q.closes = q.spec.finish := by
  have hf : q.status.finish = none ∨ q.status.finish = some q.spec.finish := by
    generalize q.status = status at h
    cases h <;> simp [Status.initial]
  cases hf with
  | inl hf => rw [closes, hf, Option.getD_none]
  | inr hf => rw [closes, hf, Option.getD_some]

namespace Moment

/-- A grant is said to exist already, although none stands in its place. -/
def Belies (m : Moment) (g : Grant) : Prop :=
  ∃ message, m.said = ⟨.call (.addGrant g), .error (.alreadyExists message)⟩ ∧
    m.after.grants g.scope g.name = none

theorem created (h : m.said = ⟨.call (.addGrant g), .ok ()⟩) :
    m.after.grants g.scope g.name = some g := by
  obtain ⟨before, op, answer, after, lawful⟩ := m
  cases h
  obtain ⟨-, rfl⟩ := lawful
  exact Scene.grants_putGrant.2 (.inl ⟨rfl, rfl, rfl⟩)

end Moment

namespace Course

theorem keepsIdentity (h : Course others s ms s')
    (keeps : ∀ {a b}, others a b → a.KeepsIdentity name b) : s.KeepsIdentity name s' :=
  h.relates Scene.KeepsIdentity.trans keeps fun m _ => m.lawful.leaves.keepsIdentity

theorem found_asks (h : Course others s ms s')
    (apart : ∀ {a b}, others a b → a.Untouched name b)
    (hf : Found name (ms.map Moment.said) r e) (hn : first.name = name) (asks : s.Asks first) :
    Grant.ofRequest r = Grant.ofRequest first := by
  obtain ⟨s₀, m, rest, idle, hr, -, -⟩ := h.found hf
  obtain ⟨old, hold, hu, hs⟩ := (apart idle).identity r hr
  obtain ⟨old', hold', hstatus⟩ := (apart idle).status r hr
  cases hold.symm.trans hold'
  have hname : r.name = old.name := (s₀.named hr).trans (s.named hold).symm
  have hc : r.closes = old.closes := by rw [Request.closes, Request.closes, hstatus, hs]
  rw [Grant.ofRequest_eq hname hu hs hc]
  exact asks old (hn ▸ hold)

theorem asked_of_grant (h : Course others s before s')
    (apart : ∀ {a b}, others a b → a.Untouched name b) (hv : v.moments = before ++ m :: after)
    (hn : first.name = name) (asks : s.Asks first) (hop : m.op = .call (.addGrant g)) :
    g ∈ Grant.ofRequest first := by
  obtain ⟨r, e, found, -, -, hg⟩ := v.found_of_grant hv hop
  exact h.found_asks apart found hn asks ▸ hg

theorem genuine (h : Course others s before s')
    (apart : ∀ {a b}, others a b → a.Untouched name b) (hv : v.moments = before ++ after)
    (hn : first.name = name) (asks : s.Asks first) (hs : s.Genuine first) : s'.Genuine first := by
  refine h.relates (R := fun a b => a.Genuine first → b.Genuine first)
    (fun hab hbc ha => hbc (hab ha)) ?_ ?_ hs
  · intro a b hab ha g hg g' hg'
    rw [Grant.name_of_mem hg, hn, (apart hab).grants, ← hn, ← Grant.name_of_mem hg] at hg'
    exact ha g hg g' hg'
  · intro m hm hbefore g hg g' hg'
    cases m.lawful.leaves.grant_before hg' with
    | inl stood => exact hbefore g hg g' stood
    | inr hop =>
      obtain ⟨ms, rest, rfl⟩ := List.append_of_mem hm
      have hv : v.moments = ms ++ m :: (rest ++ after) := by simp [hv]
      have hg₁ := h.split.1.asked_of_grant apart hv hn asks hop
      exact Grant.eq_of_mem hg₁ hg (m.after.placed hg').1

theorem stands (h : Course others s ms s')
    (apart : ∀ {a b}, others a b → a.Untouched name b)
    (spares : Only Operation.sparesRevocations (ms.map Moment.said))
    (hg : s.grants scope (Grant.nameFor name) = some g) :
    s'.grants scope (Grant.nameFor name) = some g := by
  refine h.relates (R := fun a b => a.grants scope (Grant.nameFor name) = some g →
    b.grants scope (Grant.nameFor name) = some g) (fun hab hbc ha => hbc (hab ha)) ?_ ?_ hg
  · intro a b hab ha
    rw [(apart hab).grants, ha]
  · intro m hm hbefore
    refine (m.lawful.leaves.grant_after hbefore).resolve_right fun hop => ?_
    have := spares m.said (List.mem_map_of_mem hm)
    rw [show m.said.1 = _ from hop] at this
    cases this

theorem provided (h : Course others s before s')
    (apart : ∀ {a b}, others a b → a.Untouched name b) (hv : v.moments = before ++ after)
    (hn : first.name = name) (asks : s.Asks first) (hs : s.Genuine first)
    (spares : Only Operation.sparesRevocations (before.map Moment.said))
    (hg : g ∈ Grant.ofRequest first) (made : Made (before.map Moment.said) g) :
    s'.grants g.scope g.name = some g ∨ ∃ m ∈ before, m.Belies g := by
  obtain ⟨answer, heard⟩ := made.heard
  have hkey : g.name = Grant.nameFor name := hn ▸ Grant.name_of_mem hg
  have later {m : Moment} (hm : m ∈ before) (hafter : m.after.grants g.scope g.name = some g) :
      s'.grants g.scope g.name = some g := by
    obtain ⟨ms, rest, rfl⟩ := List.append_of_mem hm
    rw [hkey] at hafter ⊢
    refine h.split.2.stands apart (fun x hx => spares x ?_) hafter
    simp [List.mem_map.1 hx]
  cases made with
  | inl heard =>
    obtain ⟨m, hm, hsaid⟩ := List.mem_map.1 heard
    exact .inl (later hm (m.created hsaid))
  | inr heard =>
    obtain ⟨message, heard⟩ := heard
    obtain ⟨m, hm, hsaid⟩ := List.mem_map.1 heard
    have hop : m.op = .call (.addGrant g) := congrArg Sigma.fst hsaid
    cases hafter : m.after.grants g.scope g.name with
    | none => exact .inr ⟨m, hm, message, hsaid, hafter⟩
    | some g' =>
      refine .inl (later hm ?_)
      -- what stands there now was there before, or was created by this very call
      cases m.lawful.leaves.grant_before hafter with
      | inl stood =>
        obtain ⟨ms, rest, rfl⟩ := List.append_of_mem hm
        have hv : v.moments = ms ++ (m :: rest ++ after) := by simp [hv]
        rw [hafter, h.split.1.genuine apart hv hn asks hs g hg g' stood]
      | inr hop' =>
        cases hop.symm.trans hop'
        exact hafter

end Course

namespace History

theorem keepsIdentity {vs : List (Visit name)} (h : History others s vs s')
    (keeps : ∀ {a b}, others a b → a.KeepsIdentity name b) : s.KeepsIdentity name s' := by
  induction h with
  | start => exact fun q hq => ⟨q, hq, rfl, rfl⟩
  | visit _ course ih => exact ih.trans (course.keepsIdentity keeps)

theorem asks {vs : List (Visit name)} (h : History others s vs s')
    (apart : ∀ {a b}, others a b → a.Untouched name b) (hs : s.Orderly name)
    (hfirst : s.requests name = some first) : s'.Asks first := by
  intro q hq
  obtain rfl : first.name = name := s.named hfirst
  obtain ⟨old, hold, hu, hspec⟩ := h.keepsIdentity (fun hab => (apart hab).identity) q hq
  cases hfirst.symm.trans hold
  have hs' := h.orderly (fun hab => (apart hab).identity.spec) (fun hab => (apart hab).status) hs
  refine Grant.ofRequest_eq (s'.named hq) hu hspec ?_
  rw [Request.closes_of_reached (hs' q hq), Request.closes_of_reached (hs first hfirst), hspec]

theorem genuine {vs : List (Visit name)} (h : History others s vs s')
    (apart : ∀ {a b}, others a b → a.Untouched name b) (hs : s.Orderly name)
    (hfirst : s.requests name = some first)
    (bare : ∀ scope ∈ first.spec.namespaces, s.grants scope (Grant.nameFor name) = none) :
    s'.Genuine first := by
  have hn : first.name = name := s.named hfirst
  induction h with
  | start =>
    intro g hg g' hg'
    rw [Grant.name_of_mem hg, hn] at hg'
    obtain ⟨scope, hscope, rfl⟩ := List.mem_map.1 hg
    cases (bare scope hscope).symm.trans hg'
  | @visit vs s₁ v s₂ past course ih =>
    exact course.genuine apart (List.append_nil v.moments).symm hn
      (past.asks apart hs hfirst) ih

end History

/-- When success is put on record, every namespace of the request holds the grant that it asks for,
which ends with the window. Nothing stands there only if the visit was told of an existing grant
where there was none. -/
theorem provisioned_everywhere {vs : List (Visit name)} (h : History others s vs s')
    (apart : ∀ {a b}, others a b → a.Untouched name b)
    (fresh : ∀ q, s.requests name = some q → q.status = .initial)
    (bare : ∀ q, s.requests name = some q →
      ∀ scope ∈ q.spec.namespaces, s.grants scope (Grant.nameFor name) = none)
    {earlier later : List (Visit name)} (hvs : vs = earlier ++ v :: later)
    (hv : v.moments = before ++ m :: after) {w : Request} (hop : m.op = .call (.putStatus w))
    (hw : w.status.phase = .succeeded) (hq : m.after.requests name = some q) :
    ∀ g ∈ Grant.ofRequest q, g.expires = some q.spec.finish ∧
      (m.after.grants g.scope g.name = some g ∨
        m.after.grants g.scope g.name = none ∧ ∃ m' ∈ before, m'.Belies g) := by
  subst hvs
  obtain ⟨s₁, s₂, past, course, -⟩ := h.split
  have spec : ∀ {a b}, others a b → a.KeepsSpec name b := fun hab => (apart hab).identity.spec
  have status : ∀ {a b}, others a b → a.KeepsStatus name b := fun hab => (apart hab).status
  have hs : s.Orderly name := fun q hq => fresh q hq ▸ .initial
  rw [hv] at course
  have upto := course.split.1
  have hreached := upto.orderly_after spec status hv (past.orderly spec status hs) q hq
  -- the request is the one of the beginning, and asks for the same grants
  have identity := (past.keepsIdentity fun hab => (apart hab).identity).trans
    ((upto.keepsIdentity fun hab => (apart hab).identity).trans m.lawful.leaves.keepsIdentity)
  obtain ⟨first, hfirst, hu, hspec⟩ := identity q hq
  have hn : first.name = name := s.named hfirst
  have hwanted : Grant.ofRequest q = Grant.ofRequest first := by
    refine Grant.ofRequest_eq ((m.after.named hq).trans hn.symm) hu hspec ?_
    rw [Request.closes_of_reached hreached, Request.closes_of_reached (hs first hfirst), hspec]
  have asks := past.asks apart hs hfirst
  have genuine := past.genuine apart hs hfirst (bare first hfirst)
  obtain ⟨r, e, found, earned, -, -, provided, -⟩ := v.earned hv hop hw
  intro g hg
  refine ⟨?_, ?_⟩
  · rw [Grant.expires_of_mem hg, Request.closes_of_reached hreached]
  · rw [hwanted] at hg
    have made := provided g (upto.found_asks apart found hn asks ▸ hg)
    cases hafter : m.after.grants g.scope g.name with
    | none =>
      refine .inr ⟨rfl, ?_⟩
      refine (upto.provided apart hv hn asks genuine earned.spares hg made).resolve_left ?_
      intro stood
      cases m.lawful.leaves.grant_after stood with
      | inl stands => cases hafter.symm.trans stands
      | inr hop' => cases hop.symm.trans hop'
    | some g' =>
      cases m.lawful.leaves.grant_before hafter with
      | inl stood => exact .inl (upto.genuine apart hv hn asks genuine g hg g' stood ▸ rfl)
      | inr hop' => cases hop.symm.trans hop'

namespace Sample

def preApproved : Scene := underReview.putRequest accepted

theorem reviewed_history (idle : ∀ {s}, others s s) :
    History others submission [submitted, reviewed] preApproved := by
  have first : Course others submission submitted.moments underReview :=
    .next idle <| .next idle <| .next idle <| .next idle <| .next idle <| .next idle <|
      .next idle <| .last idle
  have second : Course others underReview reviewed.moments preApproved :=
    .next idle <| .next idle <| .next idle <| .next idle <| .next idle <| .next idle <|
      .last idle
  have earlier : History others submission [submitted] underReview := .visit .start first
  have history : History others submission ([submitted] ++ [reviewed]) preApproved :=
    .visit earlier second
  exact history

def begun : Scene := { preApproved with clock := spec.start }

def beginning : List Moment := [
  ⟨begun, .call (.requestNamed "jit-1"), .ok accepted, begun, rfl, rfl⟩,
  ⟨begun, .edition, some edition, begun, rfl, rfl⟩,
  ⟨begun, .clock, spec.start, begun, rfl, rfl⟩,
  ⟨begun, .call (.stateOfTicket "IAM-1"), .ok "Approved", begun, rfl⟩]

def succeeding : Request.Update := ⟨.succeeded, Ticket.grantedMessage, .issue "IAM-1"⟩

def succeeded : Request := { accepted.record succeeding with version := some "4" }

def ending (s : Scene) (h : s.requests "jit-1" = some accepted) (ht : s.clock = spec.start) :
    List Moment := [
  ⟨s, .call (.commentOn "IAM-1" Ticket.doneNote), .ok (), s, rfl⟩,
  ⟨s, .call (.transition "IAM-1" "41"), .ok (), s, rfl⟩,
  ⟨s, .call (.putStatus (accepted.record succeeding)), .ok succeeded, s.putRequest succeeded,
    accepted, some "4", h, rfl, rfl⟩,
  ⟨s.putRequest succeeded, .clock, spec.start, s.putRequest succeeded, ht.symm, rfl⟩]

def stocked : Scene := begun.putGrant grant

def granting : Moment := ⟨begun, .call (.addGrant grant), .ok (), stocked, rfl, rfl⟩

def completing : List Moment := ending stocked rfl rfl

def fulfilled : Visit "jit-1" where
  keeper := keeper
  lastKnown := []
  moments := beginning ++ granting :: completing
  result := some (.ok (.again 60000000000))
  talk := Program.dialogue_of_replay (by decide +kernel)

theorem fulfilled_everywhere :
    grant.expires = some succeeded.spec.finish ∧
      ((stocked.putRequest succeeded).grants "team-a" "jit-1-jit" = some grant ∨
        (stocked.putRequest succeeded).grants "team-a" "jit-1-jit" = none ∧
          ∃ m ∈ fulfilled.moments.take 7, m.Belies grant) := by
  have course : Course (Scene.Untouched "jit-1") preApproved fulfilled.moments
      (stocked.putRequest succeeded) :=
    .next (Scene.untouched_of_eq rfl rfl) <| .next .refl <| .next .refl <| .next .refl <|
      .next .refl <| .next .refl <| .next .refl <| .next .refl <| .next .refl <| .last .refl
  have history : History (Scene.Untouched "jit-1") submission ([submitted, reviewed] ++ [fulfilled])
      (stocked.putRequest succeeded) :=
    .visit (reviewed_history .refl) course
  have write : fulfilled.moments = fulfilled.moments.take 7 ++ completing[2] ::
      fulfilled.moments.drop 8 := rfl
  have fresh : ∀ q, submission.requests "jit-1" = some q → q.status = .initial := by
    intro q hq
    cases hq
    rfl
  have asked : grant ∈ Grant.ofRequest succeeded := List.mem_singleton.2 rfl
  exact provisioned_everywhere history id fresh (fun _ _ _ _ => rfl) rfl write
    (w := accepted.record succeeding) rfl rfl rfl grant asked

def belied : Visit "jit-1" where
  keeper := keeper
  lastKnown := []
  moments := beginning ++
    ⟨begun, .call (.addGrant grant), .error (.alreadyExists "taken"), begun, .inl rfl⟩ ::
      ending begun rfl rfl
  result := some (.ok (.again 60000000000))
  talk := Program.dialogue_of_replay (by decide +kernel)

/-- Access can be on record although there is no grant. -/
theorem success_can_lack_a_grant :
    ∃ s', History (Scene.Untouched "jit-1") submission [submitted, reviewed, belied] s' ∧
      (∀ q, submission.requests "jit-1" = some q → q.status = .initial) ∧
      (∀ scope key, submission.grants scope key = none) ∧
      ∃ m ∈ belied.moments, m.said = ⟨.call (.putStatus (accepted.record succeeding)),
          .ok succeeded⟩ ∧ succeeded.status.phase = .succeeded ∧
        ∃ g ∈ Grant.ofRequest succeeded, m.after.grants g.scope g.name = none := by
  have course : Course (Scene.Untouched "jit-1") preApproved belied.moments
      (begun.putRequest succeeded) :=
    .next (Scene.untouched_of_eq rfl rfl) <| .next .refl <| .next .refl <| .next .refl <|
      .next .refl <| .next .refl <| .next .refl <| .next .refl <| .next .refl <| .last .refl
  have history : History (Scene.Untouched "jit-1") submission ([submitted, reviewed] ++ [belied])
      (begun.putRequest succeeded) :=
    .visit (reviewed_history .refl) course
  refine ⟨_, history, ?_, fun _ _ => rfl, (ending begun rfl rfl)[2], ?_, rfl, rfl, grant, ?_, rfl⟩
  · intro q hq
    cases hq
    rfl
  · simp [belied, ending]
  · exact List.mem_singleton.2 rfl

end Sample

end AccessWindow
