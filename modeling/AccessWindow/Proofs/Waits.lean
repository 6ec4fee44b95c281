import AccessWindow.Proofs.Rehearsed
import AccessWindow.Rehearsal.Loop

namespace AccessWindow

namespace Program

variable {α : Type} {p q r : Program α} {said said' : List Turn} {result : Except Fault α}

inductive Reaches : Program α → List Turn → Program α → Prop
  | here {p : Program α} : Reaches p [] p
  | said {op : Operation} {next : op.Answer → Program α} {answer : op.Answer}
      {said : List Turn} {p : Program α} :
      Reaches (next answer) said p → Reaches (.step op next) (⟨op, answer⟩ :: said) p

theorem Reaches.trans (h : p.Reaches said q) (h' : q.Reaches said' r) :
    p.Reaches (said ++ said') r := by
  induction h with
  | here => exact h'
  | said _ ih => exact .said (ih h')

theorem Reaches.dialogue (h : p.Reaches said (.done result)) : p.Dialogue said (some result) := by
  generalize hq : Program.done result = q at h
  induction h with
  | here =>
    subst hq
    exact .ended
  | said _ ih => exact .said (ih hq)

end Program

namespace Rehearsal

variable {α : Type} {w : World} {s : Scene} {name : String} {p : Program α}

namespace World

theorem slept_change {c : Change} : (w.change c).slept = w.slept := by
  cases c with
  | setAccount handle account => cases account <;> rfl
  | setNamespace scope labels => cases labels <;> rfl
  | _ => rfl

theorem slept_changes {changes : List Change} :
    (changes.foldl World.change w).slept = w.slept := by
  induction changes generalizing w with
  | nil => rfl
  | cons c rest ih => rw [List.foldl_cons, ih, slept_change]

theorem slept_serve {c : Call} : (w.serve c).2.slept = w.slept := by
  cases c with
  | removeRequest | addGrant | removeGrant | requestNamed | accountOf =>
    rw [World.serve]
    split <;> rfl
  | putStatus =>
    rw [World.serve]
    split
    · rfl
    · split <;> rfl
  | commentOn | transition | stateOfTicket =>
    rw [World.serve, onTicket]
    split <;> rfl
  | _ => rfl

theorem slept_call {c : Call} : (w.call c).2.slept = w.slept := by
  rw [World.call]
  cases hd : disturbed (Call.name c) w.disturbances with
  | mk found disturbances =>
    dsimp only
    cases found.bind (·.fault) with
    | some f => exact slept_changes
    | none => exact slept_serve.trans slept_changes

theorem slept_perform {op : Operation} (h : ∀ span, op ≠ .sleep span) :
    (w.perform op).2.slept = w.slept := by
  cases op with
  | call => exact slept_call
  | clock | edition => rfl
  | adopt =>
    rw [World.perform, World.adopt]
    split <;> rfl
  | sleep span => exact absurd rfl (h span)

theorem runToWait_step {op : Operation} {next : op.Answer → Program α}
    (h : ∀ span, op ≠ .sleep span) :
    runToWait (.step op next) w = runToWait (next (w.perform op).1) (w.perform op).2 := by
  cases op with
  | sleep span => exact absurd rfl (h span)
  | _ => rfl

theorem slept_le_run : w.slept ≤ (run p w).2.slept := by
  induction p generalizing w with
  | done => exact Nat.le_refl _
  | step op next ih =>
    rw [run]
    refine Nat.le_trans ?_ (ih _)
    by_cases hs : ∃ span, op = .sleep span
    · obtain ⟨span, rfl⟩ := hs
      exact Nat.le_add_right _ _
    · exact Nat.le_of_eq (slept_perform fun span h => hs ⟨span, h⟩).symm

end World

def Paused.rest : Paused α → Program α
  | .finished result => .done result
  | .asleep _ rest => rest

theorem World.lt_of_asleep {span : Time.Duration} {rest : Program α}
    (h : (runToWait p w).1 = .asleep span rest) : 0 < span := by
  induction p generalizing w with
  | done => cases h
  | step op next ih =>
    by_cases hs : ∃ span, op = .sleep span
    · obtain ⟨span', rfl⟩ := hs
      cases span' with
      | zero => exact ih () h
      | succ n =>
        cases h
        exact n.succ_pos
    · rw [runToWait_step fun span h => hs ⟨span, h⟩] at h
      exact ih _ h

theorem World.Shows.runToWait (h : w.Shows s) (calm : w.Calm name) :
    ∃ ms s', Course (Scene.Undisturbed name) s ms s' ∧
      p.Reaches (ms.map Moment.said) (World.runToWait p w).1.rest ∧
      (World.runToWait p w).2.Shows s' ∧ (World.runToWait p w).2.Calm name ∧
      (World.runToWait p w).2.slept = w.slept := by
  induction p generalizing w s with
  | done result => exact ⟨[], s, .last .refl, .here, h, calm, rfl⟩
  | step op next ih =>
    by_cases hs : ∃ span, op = .sleep span
    · obtain ⟨span, rfl⟩ := hs
      cases span with
      | zero =>
        obtain ⟨ms, s₁, course, reaches, rest⟩ := ih () h calm
        exact ⟨⟨s, .sleep 0, (), s, rfl⟩ :: ms, s₁, .next .refl course, .said reaches, rest⟩
      | succ n =>
        exact ⟨[⟨s, .sleep (n + 1), (), s, rfl⟩], s, .next .refl (.last .refl), .said .here, h,
          calm, rfl⟩
    · have awake : ∀ span, op ≠ .sleep span := fun span h => hs ⟨span, h⟩
      obtain ⟨m, s₁, hsaid, before, after, h, calm⟩ := h.perform calm op
      obtain ⟨ms, s₂, course, reaches, h, calm, slept⟩ := ih _ h calm
      rw [runToWait_step awake]
      refine ⟨m :: ms, s₂, .next before (course.after after .trans), ?_, h, calm,
        slept.trans (slept_perform awake)⟩
      rw [List.map_cons, hsaid]
      exact .said reaches

def Agenda.Apart (name : String) (agenda : Agenda) : Prop := ∀ e ∈ agenda, ∀ c ∈ e.2, c.Apart name

theorem World.Shows.wait {moment : Time.Duration} (h : w.Shows s) (calm : w.Calm name)
    (onward : w.slept ≤ moment) :
    ∃ s', s.Undisturbed name s' ∧ World.Shows { w with slept := moment } s' ∧
      World.Calm { w with slept := moment } name := by
  refine ⟨{ s with clock := World.clock { w with slept := moment } },
    Scene.undisturbed_of_eq ?_ rfl rfl, ⟨h.requests, h.grants, rfl, h.edition⟩,
    calm.of_eq rfl rfl rfl⟩
  rw [h.clock]
  exact calm.clock_le { w with slept := moment } rfl
    (Int.add_le_add_right (Int.ofNat_le.2 onward) _)

theorem World.Shows.passTo {agenda : Agenda} {moment : Time.Duration} (h : w.Shows s)
    (calm : w.Calm name) (apart : agenda.Apart name) (onward : w.slept ≤ moment) :
    ∃ s', s.Undisturbed name s' ∧ (Loop.passTo moment agenda w).2.Shows s' ∧
      (Loop.passTo moment agenda w).2.Calm name ∧
      (Loop.passTo moment agenda w).1.Apart name := by
  have happening : ∀ c ∈ (agenda.filter (·.1 ≤ moment)).flatMap (·.2), c.Apart name := by
    intro c hc
    obtain ⟨e, he, hc⟩ := List.mem_flatMap.1 hc
    exact apart e (List.mem_filter.1 he).1 c hc
  obtain ⟨s₁, idle, h, calm⟩ := h.changes calm happening
  obtain ⟨s₂, idle', h, calm⟩ := h.wait calm (Nat.le_trans (Nat.le_of_eq slept_changes) onward)
  rw [List.foldl_flatMap] at h calm
  exact ⟨s₂, idle.trans idle', h, calm, fun e he => apart e (List.mem_filter.1 he).1⟩

end Rehearsal

end AccessWindow
