import AccessWindow.Proofs.Conduct.Confinement

namespace AccessWindow

abbrev Answers := (op : Operation) → op.Answer

namespace Program

variable {α β : Type} {p : Program α} {f : α → Program β} {answers : Answers}

def under (answers : Answers) : Program α → Except Fault α
  | done result => result
  | step op next => (next (answers op)).under answers

@[simp] theorem under_pure {a : α} : (pure a : Program α).under answers = .ok a := rfl

@[simp] theorem under_fail {fault : Fault} :
    (fail fault : Program α).under answers = .error fault := rfl

@[simp] theorem under_bind : (p >>= f).under answers =
    (p.under answers).bind fun a => (f a).under answers := by
  change (p.bind f).under answers = _
  induction p with
  | done result => cases result <;> rfl
  | step op next ih => exact ih _

theorem under_ask_bind {c : Call} {next : Except Fault c.Answer → Program α} :
    (ask c >>= next).under answers = (next (answers (.call c))).under answers := rfl

theorem under_call_bind {c : Call} {next : c.Answer → Program α} :
    (call c >>= next).under answers =
      (answers (.call c) : Except Fault c.Answer).bind fun a => (next a).under answers :=
  under_bind

@[simp] theorem under_now : now.under answers = .ok (answers .clock) := rfl

@[simp] theorem under_attempt : p.attempt.under answers = .ok (p.under answers) := by
  induction p with
  | done => rfl
  | step op next ih => exact ih _

theorem under_edition : edition.under answers = match answers .edition with
    | some e => .ok e
    | none => .error (.configuration "configuration snapshot has not been loaded") := by
  rw [edition, under]
  split <;> simp [*, under]

theorem Confined.ended {kind : Operation → Bool} {talk : List Turn} {result : Except Fault α}
    (h : p.Confined kind) (d : p.Dialogue talk (some result))
    (told : ∀ x ∈ talk, kind x.1 → x.2 = answers x.1) : result = p.under answers := by
  induction p generalizing talk with
  | done ended => exact d.of_done.2
  | step op next ih =>
    obtain ⟨answer, rest, rfl, later⟩ := d.of_step
    have ⟨first, others⟩ := List.forall_mem_cons.1 told
    have heq : answer = answers op := first h.1
    subst heq
    exact ih _ (h.2 _) later others

end Program

end AccessWindow
