import AccessWindow.Proofs.Quiescence
import AccessWindow.Proofs.Removal
import AccessWindow.Proofs.Reply

namespace AccessWindow

open Lifecycle

variable {others : Scene → Scene → Prop} {s s' s₁ s₂ : Scene} {m : Moment}
  {ms before after : List Moment} {name : String} {v : Visit name} {q r w : Request}
  {target t u : Instant} {delay : Nat} {tickets : String → Prop} {outcome : Outcome}

structure Scene.LeavesAlone (name : String) (s s' : Scene) : Prop where
  clock : s'.clock = s.clock
  edition : s'.edition = s.edition
  request : s'.requests name = s.requests name
  grants : s.SparesGrants name s'

@[refl] theorem Scene.LeavesAlone.refl : s.LeavesAlone name s :=
  ⟨rfl, rfl, rfl, fun _ _ g hg ho => ⟨g, hg, ho⟩⟩

theorem Scene.LeavesAlone.keepsSpec (h : s.LeavesAlone name s') : s.KeepsSpec name s' :=
  fun q hq => ⟨q, h.request ▸ hq, rfl⟩

namespace Request

def visitsLeft (r : Request) (t : Instant) : Nat :=
  match r.status.phase with
  | .rejected => 1
  | .succeeded | .unrecognized _ => r.closes.waits t + 1
  | .preApproved => r.opens.waits t + 3
  | .fresh => 5

theorem visitsLeft_pos : 0 < r.visitsLeft t := by
  rw [visitsLeft]
  split <;> omega

theorem visitsLeft_le : r.visitsLeft t ≤ 5 := by
  have opens : r.opens.waits t ≤ 2 := Instant.waits_le
  have closes : r.closes.waits t ≤ 2 := Instant.waits_le
  rw [visitsLeft]
  split <;> omega

theorem visitsLeft_lt_of_waiting (h : r.ComesToWait q) (awaits : q.awaits = some target)
    (hu : target.until? t = some delay) (hd : 0 < delay) (ht : t.add? delay = some u) :
    q.visitsLeft u < r.visitsLeft t := by
  have lt := Instant.waits_lt hu hd ht
  have le : target.waits t ≤ 2 := Instant.waits_le
  cases h with
  | still =>
    cases hp : q.status.phase <;> simp only [Request.awaits, hp, Option.some.injEq, reduceCtorEq]
      at awaits <;> simp only [visitsLeft, hp, awaits] <;> omega
  | accepted hr hq =>
    simp only [Request.awaits, hq, Option.some.injEq] at awaits
    simp only [visitsLeft, hq, hr, awaits]
    omega
  | granted hr hq =>
    simp only [Request.awaits, hq, Option.some.injEq] at awaits
    simp only [visitsLeft, hq, hr, awaits]
    omega

end Request

namespace Course

theorem clock_eq (h : Course others s ms s') (still : ∀ {a b}, others a b → b.clock = a.clock) :
    s'.clock = s.clock :=
  h.relates (R := fun a b => b.clock = a.clock) (fun hab hbc => hbc.trans hab) still
    fun m _ => m.lawful.leaves.clock_eq

theorem reading_eq (h : Course others s ms s') (still : ∀ {a b}, others a b → b.clock = a.clock)
    (ht : (⟨.clock, t⟩ : Turn) ∈ ms.map Moment.said) : t = s.clock := by
  obtain ⟨m, hm, hsaid⟩ := List.mem_map.1 ht
  obtain ⟨before, after, rfl⟩ := List.append_of_mem hm
  rw [m.read hsaid, h.split.1.clock_eq still]

theorem gone_before (h : Course others s ms s')
    (alone : ∀ {a b}, others a b → b.requests name = a.requests name)
    (gone : s.requests name = none) : s'.requests name = none := by
  refine h.relates (R := fun a b => a.requests name = none → b.requests name = none)
    (fun hab hbc ha => hbc (hab ha)) (fun ho ha => (alone ho).trans ha) (fun m _ ha => ?_) gone
  by_contra hb
  obtain ⟨q, hq⟩ := Option.ne_none_iff_exists'.1 hb
  obtain ⟨old, hold, -⟩ := m.lawful.leaves.request_before hq
  cases ha.symm.trans hold

theorem not_removed {f : Fault} (h : Course others s v.moments s')
    (alone : ∀ {a b}, others a b → b.requests name = a.requests name)
    (inert : ∀ m ∈ v.moments, m.Inert) (hs : s.requests name = some r)
    (failed : v.result = some (.error f)) : s'.requests name ≠ none := by
  have talk := v.talk
  rw [failed] at talk
  have entered {phase : Phase} {stored : Request} {said after : List Turn}
      (hv : v.moments.map Moment.said = said ++ after) (enters : Enters phase stored said)
      (un : Unaltered after) : s'.requests name ≠ none := by
    obtain ⟨r, e, u, version, -, -, -, hstored⟩ := h.entered alone inert hv enters un
    simp [hstored]
  cases Keeper.reconcile_recedes _ f talk with
  | unaltered un => simp [h.unaltered alone inert un, hs]
  | ticketed hv enters un => exact entered hv enters un
  | granted hv enters fails => exact entered hv enters fails.unaltered

theorem succeeds {result : Except Fault Outcome}
    (h : Course (Scene.LeavesAlone name) s v.moments s') (hs : s.requests name = some r)
    (loaded : s.edition.isSome)
    (known : ∀ key, r.status.phase = .fresh → r.status.ticket = .issue key → tickets key)
    (dutiful : ∀ m ∈ v.moments, m.Dutiful tickets) (ended : v.result = some result) :
    ∃ outcome, result = .ok outcome := by
  cases result with
  | ok outcome => exact ⟨outcome, rfl⟩
  | error f =>
  exfalso
  have alone {a b : Scene} (ho : a.LeavesAlone name b) : b.requests name = a.requests name :=
    ho.request
  have civil := h.civil (fun ho => .inl (alone ho)) Scene.LeavesAlone.edition loaded dutiful
  have talk := v.talk
  rw [ended] at talk
  obtain ⟨c, binds, heard⟩ := (Keeper.reconcile_failsBy talk civil).1 rfl
  obtain ⟨m, hm, hsaid⟩ := List.mem_map.1 heard
  have refuses := ((dutiful m hm).refused c f hsaid).2
  have denies : c.denies f := civil _ heard
  have hop : m.op = .call c := congrArg Sigma.fst hsaid
  obtain ⟨before, after, hv⟩ := List.append_of_mem hm
  cases c with
  | putStatus w =>
    obtain ⟨message, rfl⟩ := eq_notFound_of_isAbsent denies
    obtain ⟨-, -, -, hn, -⟩ := v.found_of_write hv hop
    have gone : m.after.requests name = none := by
      rw [((dutiful m hm).refused _ _ hsaid).1, ← hn]
      exact refuses
    have stays := h.not_removed alone (fun m hm => (dutiful m hm).inert) hs ended
    rw [hv] at h
    exact stays (h.split.2.gone_before alone gone)
  | commentOn key body =>
    obtain ⟨message, rfl⟩ := eq_notFound_of_isAbsent denies
    obtain ⟨r', e, found, review⟩ := binds
    have only {r₁ : Request} {e₁ : Edition} (found₁ : Found name (before.map Moment.said) r₁ e₁) :
        r₁ = r' :=
      ((v.found_whole hv found₁).unique found (List.prefix_refl _)).1
    have permitted := v.permitted hv
    rw [hop] at permitted
    cases permitted with
    | welcome found₁ hl review₁ hand =>
      obtain rfl := only found₁
      refine refuses ?_
      cases hand with
      | kept ht =>
        cases hs.symm.trans (h.found_request alone found)
        exact known key review.fresh ht
      | opened _ raised =>
        obtain ⟨m', hm', hsaid'⟩ := List.mem_map.1 raised
        exact (dutiful m' (by simp [hv, hm'])).known key (by rw [hsaid']; rfl)
    | note found₁ hp =>
      obtain rfl := only found₁
      cases hp.symm.trans review.fresh
    | explain found₁ hd =>
      obtain rfl := only found₁
      cases hd with
      | inl hp => cases hp.symm.trans review.fresh
      | inr hp => exact review.ticket hp.2
  | _ => exact binds.elim

theorem bare_at_removal (h : Course (Scene.LeavesAlone name) s before s')
    (hs : s.requests name = some r) (dutiful : ∀ m ∈ before, m.Dutiful tickets)
    (hv : v.moments = before ++ m :: after) {gone : String}
    (hop : m.op = .call (.removeRequest gone)) :
    gone = name ∧ ¬s'.Holds name r.spec.namespaces := by
  have keeps {a b : Scene} (ho : a.LeavesAlone name b) : a.KeepsSpec name b := ho.keepsSpec
  have swept {scopes : List String} (cleared : Cleared name scopes (before.map Moment.said)) :
      ¬s'.Holds name scopes := by
    rintro ⟨scope, hscope, key, g, hg, ho⟩
    obtain ⟨m', hm', old, message, hsaid, hold⟩ :=
      h.swept Scene.LeavesAlone.grants cleared hscope hg ho
    have refuses : m'.before.grants scope key = none :=
      ((dutiful m' hm').refused _ _ hsaid).2
    cases hold.symm.trans refuses
  have permitted := v.permitted hv
  rw [hop] at permitted
  cases permitted with
  | discard found _ cleared =>
    obtain ⟨q, hq, hspec⟩ := h.found_spec keeps found
    cases hs.symm.trans hq
    exact ⟨rfl, hspec ▸ swept cleared⟩
  | expire _ hl _ _ _ cleared =>
    obtain ⟨x, hx, hheld⟩ := exists_of_latest hl
    obtain ⟨q, hq, hspec⟩ := h.spec_of_record keeps hv hx hheld
    cases hs.symm.trans hq
    exact ⟨rfl, hspec ▸ swept cleared⟩

theorem left_done (h : Course (Scene.LeavesAlone name) s v.moments s')
    (hs : s.requests name = some r) (dutiful : ∀ m ∈ v.moments, m.Dutiful tickets)
    (ended : v.result = some (.ok .done)) :
    (∃ q, s'.requests name = some q ∧ q.status.phase = .rejected ∧
        (r.status.phase = .fresh ∨ r.status.phase = .preApproved)) ∨
      s'.requests name = none ∧ ¬s'.Holds name r.spec.namespaces := by
  have talk := v.talk
  rw [ended] at talk
  cases Keeper.reconcile_upshot talk with
  | gone missed =>
    exfalso
    obtain ⟨message, rest, hmap⟩ := missed
    obtain ⟨m, later, hv, hm, -⟩ := List.map_eq_cons_iff.1 hmap.symm
    have refuses : m.before.requests name = none :=
      ((dutiful m (by simp [hv])).refused _ _ hm).2
    rw [hv] at h
    cases h with
    | next first _ => cases refuses.symm.trans (first.request.trans hs)
  | rejected found hp lands =>
    cases hs.symm.trans (h.found_request Scene.LeavesAlone.request found)
    obtain ⟨q, hq, hphase⟩ := h.landed Scene.LeavesAlone.request lands
    exact .inl ⟨q, hq, hphase, hp⟩
  | @removed r' e gone found removes =>
    obtain ⟨past, answer, hmap⟩ := removes
    obtain ⟨before, m, hv, -, hm⟩ := Moment.exists_last hmap
    have hop : m.op = .call (.removeRequest gone) := congrArg Sigma.fst hm
    have course := h
    rw [hv] at course
    obtain ⟨rfl, bare⟩ := course.split.1.bare_at_removal hs
      (fun m hm => dutiful m (by simp [hv, hm])) hv hop
    cases course.split.2 with
    | last idle =>
    refine .inr ⟨?_, ?_⟩
    · rw [idle.request, (dutiful m (by simp [hv])).gone_after hop]
    · rintro ⟨scope, hscope, key, g, hg, ho⟩
      obtain ⟨old, hold, ho'⟩ := idle.grants scope key g hg ho
      cases m.lawful.leaves.grant_before hold with
      | inl hold => exact bare ⟨scope, hscope, key, old, hold, ho'⟩
      | inr made => cases hop.symm.trans made

end Course

/-- A scene is left until the next visit: at once, or after just the delay that was asked for. -/
inductive Scene.Until (s : Scene) : Except Fault Outcome → Scene → Prop
  | now {result : Except Fault Outcome} : (∀ delay, result ≠ .ok (.again delay)) → Until s result s
  | later {delay : Nat} {t : Instant} : s.clock.add? delay = some t →
      Until s (.ok (.again delay)) { s with clock := t }

structure Visit.InPeace (v : Visit name) (tickets : String → Prop) (s : Scene)
    (result : Except Fault Outcome) (s' : Scene) : Prop where
  course : Course (Scene.LeavesAlone name) s v.moments s'
  dutiful : ∀ m ∈ v.moments, m.Dutiful tickets
  ended : v.result = some result

/-- Visits to a request, one after the other for as long as it is stored. -/
inductive Pursuit (tickets : String → Prop) {name : String} :
    Scene → List (Visit name) → Scene → Prop
  | start {s : Scene} : Pursuit tickets s [] s
  | visit {s s₁ s₂ s₃ : Scene} {vs : List (Visit name)} {v : Visit name} {result} :
      Pursuit tickets s vs s₁ → s₁.requests name ≠ none → v.InPeace tickets s₁ result s₂ →
      s₂.Until result s₃ → Pursuit tickets s (vs ++ [v]) s₃

/-- An edition is in force, and a fresh request has no ticket or one that the tracker knows. -/
structure Scene.Ready (name : String) (tickets : String → Prop) (s : Scene) : Prop where
  loaded : s.edition.isSome
  known : ∀ r key, s.requests name = some r → r.status.phase = .fresh →
    r.status.ticket = .issue key → tickets key

def Scene.visitsLeft (name : String) (s : Scene) : Nat :=
  match s.requests name with
  | some r => r.visitsLeft s.clock
  | none => 0

theorem Scene.visitsLeft_eq_zero (h : s.visitsLeft name = 0) : s.requests name = none := by
  rw [visitsLeft] at h
  split at h
  · have := Request.visitsLeft_pos (r := ‹Request›) (t := s.clock)
    omega
  · assumption

theorem Scene.visitsLeft_le : s.visitsLeft name ≤ 5 := by
  rw [visitsLeft]
  split
  · exact Request.visitsLeft_le
  · omega

theorem Visit.InPeace.advances {result : Except Fault Outcome}
    (peace : v.InPeace tickets s result s₁) (hs : s.requests name = some r)
    (ready : s.Ready name tickets) (till : s₁.Until result s') :
    ∃ outcome, result = .ok outcome ∧ s'.Ready name tickets ∧
      (s'.requests name = none → ¬s'.Holds name r.spec.namespaces) ∧
      (outcome ≠ .again 0 → s'.visitsLeft name < s.visitsLeft name) := by
  obtain ⟨h, dutiful, ended⟩ := peace
  have known key := ready.known r key hs
  obtain ⟨outcome, rfl⟩ := h.succeeds hs ready.loaded known dutiful ended
  have loaded : s₁.edition.isSome :=
    (h.edition_eq Scene.LeavesAlone.edition (List.append_nil _).symm) ▸ ready.loaded
  have before : s.visitsLeft name = r.visitsLeft s.clock := by simp [Scene.visitsLeft, hs]
  refine ⟨outcome, rfl, ?_⟩
  cases till with
  | now once =>
    obtain rfl : outcome = .done := by
      cases outcome with
      | done => rfl
      | again delay => exact absurd rfl (once delay)
    cases h.left_done hs dutiful ended with
    | inl rejected =>
      obtain ⟨q, hq, hp, hr⟩ := rejected
      refine ⟨⟨loaded, fun q' key hq' hf => ?_⟩, by simp [hq], fun _ => ?_⟩
      · cases hq.symm.trans hq'
        cases hp.symm.trans hf
      · rw [before, Scene.visitsLeft, hq]
        rcases hr with hr | hr <;> simp only [Request.visitsLeft, hp, hr] <;> omega
    | inr removed =>
      obtain ⟨gone, bare⟩ := removed
      refine ⟨⟨loaded, by simp [gone]⟩, fun _ => bare, fun _ => ?_⟩
      rw [before, Scene.visitsLeft, gone]
      exact Request.visitsLeft_pos
  | @later delay t ht =>
    obtain ⟨r', q, target, t', hr', comes, hq, awaits, hclock, hu⟩ :=
      h.left_waiting Scene.LeavesAlone.request ended
    cases hs.symm.trans hr'
    obtain rfl := h.reading_eq Scene.LeavesAlone.clock hclock
    rw [h.clock_eq Scene.LeavesAlone.clock] at ht
    refine ⟨⟨loaded, fun q' key hq' hf => ?_⟩, fun gone => ?_, fun positive => ?_⟩
    · cases hq.symm.trans hq'
      simp [Request.awaits, hf] at awaits
    · cases hq.symm.trans gone
    · rw [before, Scene.visitsLeft]
      simp only [hq]
      refine Request.visitsLeft_lt_of_waiting comes awaits hu (Nat.pos_of_ne_zero ?_) ht
      rintro rfl
      exact positive rfl

namespace Pursuit

variable {vs : List (Visit name)}

theorem keepsSpec (h : Pursuit tickets s vs s') : s.KeepsSpec name s' := by
  induction h with
  | start => exact fun q hq => ⟨q, hq, rfl⟩
  | visit _ _ peace till ih =>
    cases till with
    | now => exact ih.trans (peace.course.keepsSpec Scene.LeavesAlone.keepsSpec)
    | later => exact ih.trans (peace.course.keepsSpec Scene.LeavesAlone.keepsSpec)

theorem advances (h : Pursuit tickets s vs s') (ready : s.Ready name tickets) :
    s'.Ready name tickets ∧ (∀ v ∈ vs, ∃ outcome, v.result = some (.ok outcome)) ∧
      ((∀ v ∈ vs, v.result ≠ some (.ok (.again 0))) →
        s'.visitsLeft name + vs.length ≤ s.visitsLeft name) := by
  induction h with
  | start => exact ⟨ready, by simp, by simp⟩
  | @visit s₁ s₂ s₃ vs v result before stored peace till ih =>
    obtain ⟨ready, ok, spent⟩ := ih
    obtain ⟨r, hr⟩ := Option.ne_none_iff_exists'.1 stored
    obtain ⟨outcome, rfl, ready', -, less⟩ := peace.advances hr ready till
    refine ⟨ready', ?_, fun positive => ?_⟩
    · simpa [or_imp, forall_and] using ⟨ok, outcome, peace.ended⟩
    · have earlier := spent fun w hw => positive w (by simp [hw])
      have last := less fun he => positive v (by simp) (he ▸ peace.ended)
      rw [List.length_append, List.length_singleton]
      omega

theorem exists_course (h : Pursuit tickets s vs s') (hv : v ∈ vs) :
    ∃ s₁ s₂, Course (Scene.LeavesAlone name) s₁ v.moments s₂ := by
  induction h with
  | start => cases hv
  | visit _ _ peace _ ih =>
    cases List.mem_append.1 hv with
    | inl earlier => exact ih earlier
    | inr last =>
      cases List.mem_singleton.1 last
      exact ⟨_, _, peace.course⟩

theorem bare (h : Pursuit tickets s vs s') (ready : s.Ready name tickets)
    (hs : s.requests name = some r) (gone : s'.requests name = none) :
    ¬s'.Holds name r.spec.namespaces := by
  cases h with
  | start => cases hs.symm.trans gone
  | visit before stored peace till =>
    obtain ⟨q, hq⟩ := Option.ne_none_iff_exists'.1 stored
    obtain ⟨old, hold, hspec⟩ := before.keepsSpec q hq
    cases hs.symm.trans hold
    obtain ⟨-, -, -, bare, -⟩ := peace.advances hq (before.advances ready).1 till
    exact hspec ▸ bare gone

end Pursuit

/-- If others leave a request alone and nothing fails without a reason, then no visit to it fails,
and five of them, each repeated at once or after just the delay that was asked for, bring it to its
end, whatever is on record: it is removed, and with it its grants. There is always one more visit to
make. Only a clock that shows a leap second can make a visit ask to be repeated after no time. -/
theorem every_request_ends {vs : List (Visit name)} (h : Pursuit tickets s vs s')
    (hs : s.requests name = some r) (ready : s.Ready name tickets) :
    (∀ v ∈ vs, ∃ outcome, v.result = some (.ok outcome)) ∧
      ((∀ v ∈ vs, v.result ≠ some (.ok (.again 0))) →
        vs.length ≤ 5 ∧ (vs.length = 5 → s'.requests name = none)) ∧
      (s'.requests name = none → ¬s'.Holds name r.spec.namespaces) ∧
      (∀ v ∈ vs, v.result = some (.ok (.again 0)) →
        ∃ t, (⟨.clock, t⟩ : Turn) ∈ v.moments.map Moment.said ∧ t.isLeap) ∧
      (s'.Listable → (∃ key, tickets key) → ∀ keeper lastKnown,
        ∃ (v : Visit name) (result : Except Fault Outcome) (s₁ : Scene), v.keeper = keeper ∧
          v.lastKnown = lastKnown ∧ v.InPeace tickets s' result s₁) := by
  obtain ⟨-, ok, spent⟩ := h.advances ready
  have most : s.visitsLeft name ≤ 5 := Scene.visitsLeft_le
  refine ⟨ok, fun positive => ?_, h.bare ready hs, ?_, ?_⟩
  · have := spent positive
    exact ⟨by omega, fun _ => Scene.visitsLeft_eq_zero (by omega)⟩
  · intro v hv ended
    obtain ⟨s₁, s₂, course⟩ := h.exists_course hv
    obtain ⟨-, -, target, t, -, -, -, -, ht, hu⟩ :=
      course.left_waiting Scene.LeavesAlone.request ended
    refine ⟨t, ht, ?_⟩
    by_contra hl
    exact Nat.lt_irrefl 0 (Instant.pos_of_until? (Bool.eq_false_iff.2 hl) hu)
  · intro listable known keeper lastKnown
    have idle {a : Scene} : a.LeavesAlone name a := .refl
    obtain ⟨ms, s₁, result, course, dutiful, talk⟩ :=
      (keeper.reconcile name lastKnown).exists_ended listable known idle
    exact ⟨⟨keeper, lastKnown, ms, some result, talk⟩, result, s₁, rfl, rfl, course, dutiful, rfl⟩

namespace Sample

theorem scene_listable {status : Request.Status} {clock : Instant} :
    (scene status clock).Listable where
  requests := by
    refine ⟨[request status], fun r => ?_⟩
    rw [List.mem_singleton]
    constructor
    · rintro rfl
      rfl
    · intro h
      by_cases hn : r.name = "jit-1"
      · simpa [scene, hn, eq_comm] using h
      · simp [scene, hn] at h
  grants _ := ⟨[], fun _ => ⟨nofun, nofun⟩⟩

theorem atFinish_listable : atFinish.Listable :=
  have recorded : recorded.Listable := scene_listable.putGrant.putRequest
  ⟨recorded.requests, recorded.grants⟩

theorem opened_in_peace :
    opened.InPeace (fun _ => True) atStart (.ok (.again 60000000000)) recorded where
  course := .next .refl <| .next .refl <| .next .refl <| .next .refl <| .next .refl <|
    .next .refl <| .next .refl <| .next .refl <| .next .refl <| .last .refl
  dutiful m hm := by
    have served : ∀ m ∈ opened.moments, ¬m.said.Fails := by
      simp [opened, provision, Moment.said, Turn.Fails]
    exact .of_all_known (served m hm)
  ended := rfl

theorem expired_in_peace :
    expired.InPeace (fun _ => True) atFinish (.ok .done) (revoked.dropRequest "jit-1") where
  course := .next .refl <| .next .refl <| .next .refl <| .next .refl <| .next .refl <|
    .next .refl <| .last .refl
  dutiful m hm := by
    have served : ∀ m ∈ expired.moments, ¬m.said.Fails := by
      simp [expired, Moment.said, Turn.Fails]
    exact .of_all_known (served m hm)
  ended := rfl

theorem opened_expired_end :
    (∀ v ∈ [opened, expired], ∃ outcome, v.result = some (.ok outcome)) ∧
      [opened, expired].length ≤ 5 ∧ (revoked.dropRequest "jit-1").requests "jit-1" = none ∧
      ¬(revoked.dropRequest "jit-1").Holds "jit-1" ["team-a"] ∧
      ∃ (v : Visit "jit-1") (result : Except Fault Outcome) (s₁ : Scene), v.keeper = keeper ∧
        v.lastKnown = ["team-a"] ∧
        v.InPeace (fun _ => True) (revoked.dropRequest "jit-1") result s₁ := by
  have pursuit : Pursuit (fun _ => True) atStart ([opened] ++ [expired])
      (revoked.dropRequest "jit-1") :=
    .visit (.visit .start nofun opened_in_peace (.later rfl : recorded.Until _ atFinish)) nofun
      expired_in_peace (.now nofun)
  obtain ⟨ok, soon, bare, -, more⟩ :=
    every_request_ends pursuit (r := request awaiting) rfl ⟨rfl, fun _ _ _ _ _ => trivial⟩
  refine ⟨ok, (soon ?_).1, rfl, bare rfl,
    more atFinish_listable.dropGrant.dropRequest ⟨"IAM-1", trivial⟩ keeper ["team-a"]⟩
  simp [opened, expired]

def closesLate : Request.Status :=
  { granted.status with finish := some ⟨86400, 900000000, by decide⟩ }

def stalling : Scene := scene closesLate leap

def stalled : Visit "jit-1" where
  keeper := keeper
  lastKnown := []
  moments := [
    ⟨stalling, .call (.requestNamed "jit-1"), .ok (request closesLate), stalling, rfl, rfl⟩,
    ⟨stalling, .edition, some edition, stalling, rfl, rfl⟩,
    ⟨stalling, .clock, leap, stalling, rfl, rfl⟩]
  result := some (.ok (.again 0))
  talk := Program.dialogue_of_replay (by decide +kernel)

theorem stalled_in_peace :
    stalled.InPeace (fun _ => True) stalling (.ok (.again 0)) stalling where
  course := .next .refl <| .next .refl <| .next .refl <| .last .refl
  dutiful m hm := by
    have served : ∀ m ∈ stalled.moments, ¬m.said.Fails := by
      simp [stalled, Moment.said, Turn.Fails]
    exact .of_all_known (served m hm)
  ended := rfl

/-- On a clock that shows a leap second five visits can leave a request as it was. -/
theorem five_visits_can_stall :
    stalling.Ready "jit-1" (fun _ => True) ∧
      Pursuit (fun _ => True) stalling [stalled, stalled, stalled, stalled, stalled] stalling ∧
      stalling.requests "jit-1" ≠ none := by
  have more {vs : List (Visit "jit-1")} (h : Pursuit (fun _ => True) stalling vs stalling) :
      Pursuit (fun _ => True) stalling (vs ++ [stalled]) stalling :=
    .visit h nofun stalled_in_peace (.later rfl)
  exact ⟨⟨rfl, fun _ _ _ _ _ => trivial⟩, more <| more <| more <| more <| more .start, nofun⟩

end Sample

end AccessWindow
