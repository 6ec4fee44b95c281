import AccessWindow.Proofs.Agreement
import AccessWindow.Proofs.Conduct.Upshot
import AccessWindow.Proofs.Delay

namespace AccessWindow

open Lifecycle

variable {others : Scene → Scene → Prop} {s s' s₁ s₂ : Scene} {ms before after : List Moment}
  {m : Moment} {name : String} {v : Visit name} {q r w stored : Request} {e : Edition}
  {talk : List Turn} {target : Instant} {delay : Nat}

theorem Scene.Leaves.requests_eq {op : Operation} (l : s.Leaves op s') (h : op.sparesRequest) :
    s'.requests = s.requests := by
  cases l with
  | written => cases h
  | removed => cases h
  | _ => rfl

namespace Course

theorem requests_eq (h : Course others s ms s')
    (alone : ∀ {a b}, others a b → b.requests name = a.requests name)
    (spares : Only Operation.sparesRequest (ms.map Moment.said)) :
    s'.requests name = s.requests name :=
  h.relates (R := fun a b => b.requests name = a.requests name) (fun hab hbc => hbc.trans hab)
    alone fun m hm =>
      congrFun (m.lawful.leaves.requests_eq (spares m.said (List.mem_map_of_mem hm))) name

theorem left_stored (h : Course others s v.moments s')
    (alone : ∀ {a b}, others a b → b.requests name = a.requests name)
    (hv : v.moments = before ++ m :: after) (hr : m.said.record? = some q)
    (spares : Only Operation.sparesRequest (after.map Moment.said)) :
    s'.requests name = some q := by
  have stored := v.stored_of_record hv hr
  rw [hv] at h
  rw [h.split.2.requests_eq alone spares, stored]

theorem recorded (h : Course others s v.moments s')
    (keeps : ∀ {a b}, others a b → a.KeepsSpec name b) (hv : v.moments = before ++ m :: after)
    (hm : m.said = ⟨.call (.putStatus w), .ok stored⟩) :
    ∃ q, s.requests name = some q ∧ stored.spec = q.spec ∧ stored.opens = q.spec.start ∧
      stored.closes = q.spec.finish ∧ stored.status.phase = w.status.phase := by
  have whole : v.moments = v.moments ++ [] := (List.append_nil _).symm
  obtain ⟨r, e, -, -, u, held, rfl, hl, -⟩ := v.found_of_write hv (congrArg Sigma.fst hm)
  have inTalk : m.said ∈ v.moments.map Moment.said := by simp [hv]
  obtain ⟨q, hq, hspec⟩ := h.spec_of_record keeps whole inTalk (by rw [hm]; rfl)
  obtain ⟨x, hx, hheld⟩ := exists_of_latest hl
  have hx : x ∈ v.moments.map Moment.said := by
    rw [hv, List.map_append]
    exact List.mem_append_left _ hx
  obtain ⟨q', hq', hspec'⟩ := h.spec_of_record keeps whole hx hheld
  cases hq.symm.trans hq'
  have hs := m.stored_status hm
  refine ⟨q, hq, hspec, ?_, ?_, by rw [hs]⟩
  · simp [Request.opens, hs, Request.record, hspec']
  · simp [Request.closes, hs, Request.record, hspec']

end Course

theorem Lifecycle.Keeper.proceed_waits {keeper : Keeper} {result : Except Fault Outcome}
    (d : (keeper.proceed r e).Dialogue talk (some result)) (awaits : r.awaits = some target) :
    ∃ t rest, talk = ⟨.clock, t⟩ :: rest ∧
      ∀ delay, target.until? t = some delay → rest = [] ∧ result = .ok (.again delay) := by
  have expires (d : (expire r).Dialogue talk (some result)) (ht : r.closes = target) :
      ∃ t rest, talk = ⟨.clock, t⟩ :: rest ∧
        ∀ delay, target.until? t = some delay → rest = [] ∧ result = .ok (.again delay) := by
    obtain ⟨t, rest, rfl, later⟩ := d.of_perform
    refine ⟨t, rest, rfl, fun delay hu => ?_⟩
    rw [ht, hu] at later
    exact later.of_done
  rw [proceed] at d
  split at d
  · next hp => simp [Request.awaits, hp] at awaits
  · next hp => simp [Request.awaits, hp] at awaits
  · next hp =>
    have ht : r.opens = target := by simpa [Request.awaits, hp] using awaits
    obtain ⟨t, rest, rfl, later⟩ := d.of_perform
    refine ⟨t, rest, rfl, fun delay hu => ?_⟩
    rw [ht, hu] at later
    exact later.of_done
  · next hp => exact expires d (by simpa [Request.awaits, hp] using awaits)
  · next hp => exact expires d (by simpa [Request.awaits, hp] using awaits)

theorem Course.waits {result : Except Fault Outcome} (h : Course others s v.moments s')
    (alone : ∀ {a b}, others a b → b.requests name = a.requests name)
    (hs : s.requests name = some q) (awaits : q.awaits = some target)
    (found : Found name (v.moments.map Moment.said) r e) (ended : v.result = some result)
    (ahead : ∀ t, (⟨.clock, t⟩ : Turn) ∈ v.moments.map Moment.said →
      t < target ∧ t.isLeap = false) (hl : target.isLeap = false) :
    ∃ t, v.moments.map Moment.said =
        [⟨.call (.requestNamed name), .ok q⟩, ⟨.edition, some e⟩, ⟨.clock, t⟩] ∧
      result = .ok (.again (target.sinceEpoch - t.sinceEpoch).toNat) ∧
      ∀ m ∈ v.moments, m.after = m.before := by
  obtain rfl : q = r := Option.some.inj (hs.symm.trans (h.found_request alone found))
  obtain ⟨rest, htalk⟩ := found
  have talk := v.talk
  rw [ended, ← htalk] at talk
  obtain ⟨_, _, hask, later⟩ := talk.of_ask
  cases hask
  obtain ⟨_, _, hedition, last⟩ := Program.Dialogue.of_step later
  cases hedition
  obtain ⟨t, rest', rfl, waits⟩ := Keeper.proceed_waits last awaits
  obtain ⟨hlt, hleap⟩ := ahead t (by simp [← htalk])
  obtain ⟨rfl, rfl⟩ := waits _ (Instant.until?_of_not_leap hleap hl hlt)
  refine ⟨t, htalk.symm, rfl, fun m hm => ?_⟩
  have said : m.said ∈ v.moments.map Moment.said := List.mem_map_of_mem hm
  obtain ⟨before, op, answer, after, lawful⟩ := m
  simp only [← htalk, List.cons_append, List.nil_append, List.mem_cons, List.not_mem_nil,
    or_false] at said
  rcases said with said | said | said <;>
    · cases said
      exact lawful.2

inductive Request.ComesToWait (r : Request) : Request → Prop
  | still : ComesToWait r r
  | accepted {next : Request} : r.status.phase = .fresh → next.status.phase = .preApproved →
      ComesToWait r next
  | granted {next : Request} : r.status.phase = .preApproved → next.status.phase = .succeeded →
      ComesToWait r next

theorem Course.left_waiting (h : Course others s v.moments s')
    (alone : ∀ {a b}, others a b → b.requests name = a.requests name)
    (ended : v.result = some (.ok (.again delay))) :
    ∃ r q target t, s.requests name = some r ∧ r.ComesToWait q ∧ s'.requests name = some q ∧
      q.awaits = some target ∧ (⟨.clock, t⟩ : Turn) ∈ v.moments.map Moment.said ∧
      target.until? t = some delay := by
  have keeps {a b : Scene} (ho : others a b) : a.KeepsSpec name b :=
    fun q hq => ⟨q, alone ho ▸ hq, rfl⟩
  have talk := v.talk
  rw [ended] at talk
  cases Keeper.reconcile_upshot talk with
  | @waiting r e target t _ awaits htalk hu =>
    have found : Found name (v.moments.map Moment.said) r e := by
      rw [htalk]
      exact List.prefix_append [_, _] _
    have spares : Only Operation.sparesRequest (v.moments.map Moment.said) := by
      simp [htalk, Only, Operation.sparesRequest]
    have hr := h.found_request alone found
    exact ⟨r, r, target, t, hr, .still, (h.requests_eq alone spares).trans hr, awaits,
      by simp [htalk], hu⟩
  | @accepted r held e x t _ found hp lands hx hheld ht hu =>
    obtain ⟨past, w, stored, hmap, hw⟩ := lands
    obtain ⟨before, m, hv, -, hm⟩ := Moment.exists_last hmap
    obtain ⟨q, hq, hspec, hopens, -, hphase⟩ := h.recorded keeps hv hm
    obtain ⟨q', hq', hspec'⟩ := h.spec_of_record keeps (List.append_nil _).symm hx hheld
    cases hq.symm.trans hq'
    have hstored : s'.requests name = some stored :=
      h.left_stored alone hv (by rw [hm]; rfl) (List.forall_mem_nil _)
    have phase : stored.status.phase = .preApproved := hphase.trans hw
    refine ⟨r, stored, held.spec.start, t, h.found_request alone found, .accepted hp phase, hstored,
      ?_, ht, hu⟩
    simp [Request.awaits, phase, hopens, hspec']
  | @granted r stored e past w t _ found hp htalk hw hu =>
    have ht : (⟨.clock, t⟩ : Turn) ∈ v.moments.map Moment.said := by simp [htalk]
    obtain ⟨before, later, hv, -, hlater⟩ := List.map_eq_append_iff.1 htalk
    obtain ⟨m, last, rfl, hm, hlast⟩ := List.map_eq_cons_iff.1 hlater
    obtain ⟨m', rfl, hm'⟩ := List.map_eq_singleton_iff.1 hlast
    obtain ⟨q, -, -, -, -, hphase⟩ := h.recorded keeps hv hm
    have phase : stored.status.phase = .succeeded := hphase.trans hw
    refine ⟨r, stored, stored.closes, t, h.found_request alone found, .granted hp phase, ?_,
      by simp [Request.awaits, phase], ht, hu⟩
    refine h.left_stored alone hv (by rw [hm]; rfl) ?_
    simp [hm', Only, Operation.sparesRequest]

/-- If nobody else touches a request and the clock shows no leap second, a visit that asks to be
repeated asks for it after some time, and leaves the request waiting: for the start of its window if
it is pre-approved, and else for its end. Every visit that finds it so before that instant makes no
call but to read it, changes nothing, and asks to be repeated after just what is left. -/
theorem again_is_quiescent {delay : Time.Duration} (h : Course others s v.moments s')
    (alone : ∀ {a b}, others a b → b.requests name = a.requests name)
    (steady : ∀ t, (⟨.clock, t⟩ : Turn) ∈ v.moments.map Moment.said → t.isLeap = false)
    (ended : v.result = some (.ok (.again delay))) :
    0 < delay ∧ ∃ q target, s'.requests name = some q ∧ q.awaits = some target ∧
      ∀ (again : Visit name) s₁ s₂ r e result, Course others s₁ again.moments s₂ →
        s₁.requests name = some q → Found name (again.moments.map Moment.said) r e →
        again.result = some result →
        (∀ t, (⟨.clock, t⟩ : Turn) ∈ again.moments.map Moment.said →
          t < target ∧ t.isLeap = false) → target.isLeap = false →
        ∃ t, again.moments.map Moment.said =
            [⟨.call (.requestNamed name), .ok q⟩, ⟨.edition, some e⟩, ⟨.clock, t⟩] ∧
          result = .ok (.again (target.sinceEpoch - t.sinceEpoch).toNat) ∧
          ∀ m ∈ again.moments, m.after = m.before := by
  obtain ⟨-, q, target, t, -, -, hq, awaits, ht, hu⟩ := h.left_waiting alone ended
  refine ⟨Instant.pos_of_until? (steady t ht) hu, q, target, hq, awaits, ?_⟩
  intro again s₁ s₂ r e result course hs found ended ahead hl
  exact course.waits alone hs awaits found ended ahead hl

namespace Sample

def pending : Scene := { underReview.putRequest accepted with clock := ⟨86339, 5, by decide⟩ }

def watched : Visit "jit-1" where
  keeper := keeper
  lastKnown := []
  moments := [
    ⟨pending, .call (.requestNamed "jit-1"), .ok accepted, pending, rfl, rfl⟩,
    ⟨pending, .edition, some edition, pending, rfl, rfl⟩,
    ⟨pending, .clock, pending.clock, pending, rfl, rfl⟩]
  result := some (.ok (.again 999999995))
  talk := Program.dialogue_of_replay (by decide +kernel)

theorem watched_reading (t : Instant)
    (h : (⟨.clock, t⟩ : Turn) ∈ watched.moments.map Moment.said) : t = pending.clock := by
  simp only [watched, List.map_cons, List.map_nil, List.mem_cons, List.not_mem_nil,
    or_false] at h
  rcases h with h | h | h <;> cases h
  rfl

theorem accepted_waits : 0 < 86340000000000 ∧
    ∃ t, watched.moments.map Moment.said =
        [⟨.call (.requestNamed "jit-1"), .ok accepted⟩, ⟨.edition, some edition⟩, ⟨.clock, t⟩] ∧
      (.ok (.again 999999995) : Except Fault Outcome) =
        .ok (.again (Sample.spec.start.sinceEpoch - t.sinceEpoch).toNat) ∧
      ∀ m ∈ watched.moments, m.after = m.before := by
  have course : Course (fun a b => b.requests "jit-1" = a.requests "jit-1") submission
      reviewedAtOnce.moments (underReview.putRequest accepted) :=
    .next rfl <| .next rfl <| .next rfl <| .next rfl <| .next rfl <| .next rfl <| .next rfl <|
      .next rfl <| .next rfl <| .last rfl
  have later : Course (fun a b => b.requests "jit-1" = a.requests "jit-1") pending
      watched.moments pending :=
    .next rfl <| .next rfl <| .next rfl <| .last rfl
  have steady (t : Instant)
      (ht : (⟨.clock, t⟩ : Turn) ∈ reviewedAtOnce.moments.map Moment.said) :
      t.isLeap = false := by
    have told : t = Instant.epoch := (reviewedAtOnce_smooth _ ht).2 rfl
    exact told ▸ rfl
  obtain ⟨pos, q, target, hq, awaits, waits⟩ := again_is_quiescent course id steady rfl
  cases hq
  cases awaits
  refine ⟨pos, waits watched pending pending accepted edition _ later rfl
    (List.prefix_append [_, _] _) rfl (fun t ht => ?_) rfl⟩
  rw [watched_reading t ht]
  decide

end Sample

end AccessWindow
