import AccessWindow.Proofs.Conduct.Telling
import AccessWindow.Proofs.Vanishing

namespace AccessWindow

open Lifecycle

variable {α : Type} {past : List Turn} {m : Moment} {ms ms' : List Moment}

/-- Two runs meet with the same as long as they do the same: what they find in the stores is the
same before every operation, and what becomes of the operation is the same, unless it only tells
people of something. -/
def MeetAlike : (past : List Turn) → List Moment → List Moment → Prop
  | past, m :: ms, m' :: ms' =>
    m'.before = m.before ∧
      (m'.op = m.op → (m' = m ∨ Tells past m.op) ∧ MeetAlike (past ++ [m.said]) ms ms')
  | _, _, _ => True

inductive Retold : (past : List Turn) → List Moment → List Moment → Prop
  | nil {past : List Turn} : Retold past [] []
  | same {past : List Turn} {m : Moment} {ms ms' : List Moment} :
      Retold (past ++ [m.said]) ms ms' → Retold past (m :: ms) (m :: ms')
  | told {past : List Turn} {m m' : Moment} {ms ms' : List Moment} :
      Tells past m.op → m'.op = m.op → m'.before = m.before →
      Retold (past ++ [m.said]) ms ms' → Retold past (m :: ms) (m' :: ms')

theorem Scene.allows_idle {s : Scene} {c : Call} {answer : Except Fault c.Answer}
    (idle : ∀ a, s.Serves c a s) : s.Allows (.call c) answer s := by
  cases answer with
  | ok a => exact idle a
  | error => exact .inl rfl

theorem Moment.after_eq_of_tells (h : Tells past m.op) : m.after = m.before := by
  obtain ⟨before, op, answer, after, lawful⟩ := m
  have leaves : before.Leaves op after := lawful.leaves
  cases leaves <;> first | rfl | exact h.elim

namespace Retold

theorem ops_eq (h : Retold past ms ms') : ms'.map Moment.op = ms.map Moment.op := by
  induction h with
  | nil => rfl
  | same _ ih => rw [List.map_cons, List.map_cons, ih]
  | told _ hop _ _ ih => rw [List.map_cons, List.map_cons, hop, ih]

theorem scenes_eq (h : Retold past ms ms') : ms'.map Moment.after = ms.map Moment.after := by
  induction h with
  | nil => rfl
  | same _ ih => rw [List.map_cons, List.map_cons, ih]
  | @told past m m' _ _ tells hop hbefore _ ih =>
    have left : m'.after = m.after := by
      rw [Moment.after_eq_of_tells (hop ▸ tells), hbefore, Moment.after_eq_of_tells tells]
    rw [List.map_cons, List.map_cons, left, ih]

theorem meetAlike (h : Retold past ms ms') : MeetAlike past ms ms' := by
  induction h with
  | nil => trivial
  | same _ ih => exact ⟨rfl, fun _ => ⟨.inl rfl, ih⟩⟩
  | told tells _ hbefore _ ih => exact ⟨hbefore, fun _ => ⟨.inr tells, ih⟩⟩

end Retold

namespace Program.Unheeding

variable {p : Program α} {post : List Turn → Prop}

theorem retold {result result' : Except Fault α} (h : p.Unheeding post past)
    (run : p.Dialogue (ms.map Moment.said) (some result))
    (run' : p.Dialogue (ms'.map Moment.said) (some result')) (alike : MeetAlike past ms ms') :
    result' = result ∧ Retold past ms ms' := by
  induction p generalizing past ms ms' with
  | done ended =>
    obtain ⟨hms, rfl⟩ := run.of_done
    obtain ⟨hms', rfl⟩ := run'.of_done
    obtain rfl := List.map_eq_nil_iff.1 hms
    obtain rfl := List.map_eq_nil_iff.1 hms'
    exact ⟨rfl, .nil⟩
  | step op next ih =>
    obtain ⟨answer, _, hms, later⟩ := run.of_step
    obtain ⟨answer', _, hms', later'⟩ := run'.of_step
    obtain ⟨m, ms, rfl, hm, rfl⟩ := List.map_eq_cons_iff.1 hms
    obtain ⟨m', ms', rfl, hm', rfl⟩ := List.map_eq_cons_iff.1 hms'
    obtain ⟨before, op, answer, after, lawful⟩ := m
    obtain ⟨before', op', answer', after', lawful'⟩ := m'
    cases hm
    cases hm'
    obtain ⟨hbefore, outcome, rest⟩ := alike.imp_right fun alike => alike rfl
    cases outcome with
    | inl same =>
      cases same
      obtain ⟨ended, retold⟩ := ih answer (h.2 answer) later later' rest
      exact ⟨ended, .same retold⟩
    | inr tells =>
      rw [h.1 tells answer answer'] at later'
      obtain ⟨ended, retold⟩ := ih answer (h.2 answer) later later' rest
      exact ⟨ended, .told tells rfl hbefore retold⟩

theorem dialogue {result : Option (Except Fault α)} (h : p.Unheeding post past)
    (run : p.Dialogue (ms.map Moment.said) result) (retold : Retold past ms ms') :
    p.Dialogue (ms'.map Moment.said) result := by
  induction retold generalizing p with
  | nil => exact run
  | @same _ m _ _ _ ih =>
    cases run with
    | said later => exact .said (ih (h.2 _) later)
  | @told _ m m' _ _ tells hop _ _ ih =>
    obtain ⟨before, op, answer, after, lawful⟩ := m
    obtain ⟨before', op', answer', after', lawful'⟩ := m'
    cases hop
    cases run with
    | said later =>
      refine .said ?_
      rw [h.1 tells answer answer']
      exact ih (h.2 answer) later

end Program.Unheeding

/-- Two visits to a request that meet with the same, but for whether an event is taken note of and a
comment on a ticket that was just declined gets through, come to the same result, do the same with
the same arguments in the same order, and leave the same requests and grants after every step. And
whatever else had come of telling people, the visit would have run as it did. -/
theorem observers_never_steer {keeper : Keeper} {name : String} {lastKnown : List String}
    {result : Except Fault Outcome}
    (run : (keeper.reconcile name lastKnown).Dialogue (ms.map Moment.said) (some result)) :
    (∀ ms' result',
      (keeper.reconcile name lastKnown).Dialogue (ms'.map Moment.said) (some result') →
        MeetAlike [] ms ms' →
          result' = result ∧ ms'.map Moment.op = ms.map Moment.op ∧
            ms'.map Moment.after = ms.map Moment.after) ∧
      ∀ ms', Retold [] ms ms' →
        (keeper.reconcile name lastKnown).Dialogue (ms'.map Moment.said) (some result) := by
  refine ⟨fun ms' result' run' alike => ?_, fun ms' => (Keeper.reconcile_heedless []).dialogue run⟩
  obtain ⟨ended, retold⟩ := (Keeper.reconcile_heedless []).retold run run' alike
  exact ⟨ended, retold.ops_eq, retold.scenes_eq⟩

namespace Sample

def unheard : Except Fault Unit := .error (.external none "down")

def dismissal (heard : Except Fault Unit) : List Moment :=
  let why := "Jira ticket has not been approved"
  let rejected := (request awaiting).record ⟨.rejected, why, .issue "IAM-1"⟩
  let stored := { rejected with version := some "2" }
  overtaken.moments.take 5 ++ [
    ⟨atStart, .call (.publishEvent ⟨"jit-1", "u1", .ticketNotApproved, why⟩), heard, atStart,
      Scene.allows_idle fun _ => rfl⟩,
    ⟨atStart, .call (.putStatus rejected), .ok stored, atStart.putRequest stored,
      request awaiting, some "2", rfl, rfl, rfl⟩]

def declined : Request.Status :=
  ⟨.rejected, "no", .issue "IAM-1", some spec.start, some spec.finish⟩

def dismissed : Scene := scene declined spec.start

theorem dismissed_lists_none (g : Grant) :
    g ∈ [] ↔ dismissed.grants "team-a" g.name = some g := by simp [dismissed, scene]

def clearing (heard : Except Fault Unit) : List Moment := [
  ⟨dismissed, .call (.requestNamed "jit-1"), .ok (request declined), dismissed, rfl, rfl⟩,
  ⟨dismissed, .edition, some edition, dismissed, rfl, rfl⟩,
  ⟨dismissed, .call (.grantsWithin "team-a"), .ok [], dismissed, dismissed_lists_none, rfl⟩,
  ⟨dismissed, .call (.transition "IAM-1" "21"), .ok (), dismissed, rfl⟩,
  ⟨dismissed, .call (.commentOn "IAM-1" (Ticket.rejectedNote "no")), heard, dismissed,
    Scene.allows_idle fun _ => rfl⟩,
  ⟨dismissed, .call (.removeRequest "jit-1"), .ok (), dismissed.dropRequest "jit-1", rfl, rfl⟩]

theorem telling_in_vain :
    (clearing unheard).map Moment.op = (clearing (.ok ())).map Moment.op ∧
      (clearing unheard).map Moment.after = (clearing (.ok ())).map Moment.after ∧
      (keeper.reconcile "jit-1" []).Dialogue ((dismissal unheard).map Moment.said)
        (some (.ok .done)) := by
  have clears : (keeper.reconcile "jit-1" []).Dialogue ((clearing (.ok ())).map Moment.said)
      (some (.ok .done)) := Program.dialogue_of_replay (by decide +kernel)
  have clears' : (keeper.reconcile "jit-1" []).Dialogue ((clearing unheard).map Moment.said)
      (some (.ok .done)) := Program.dialogue_of_replay (by decide +kernel)
  have dismisses : (keeper.reconcile "jit-1" []).Dialogue ((dismissal (.ok ())).map Moment.said)
      (some (.ok .done)) := Program.dialogue_of_replay (by decide +kernel)
  have cleared : Retold [] (clearing (.ok ())) (clearing unheard) :=
    .same <| .same <| .same <| .same <| .told ⟨"21", rfl⟩ rfl rfl <| .same .nil
  have retold : Retold [] (dismissal (.ok ())) (dismissal unheard) :=
    .same <| .same <| .same <| .same <| .same <| .told trivial rfl rfl <| .same .nil
  obtain ⟨-, ops, scenes⟩ := (observers_never_steer clears).1 _ _ clears' cleared.meetAlike
  exact ⟨ops, scenes, (observers_never_steer dismisses).2 _ retold⟩

end Sample

end AccessWindow
