import AccessWindow.Program

/-! Dialogues of a program with its surroundings, and what holds of all of them. A program abides by
a rule if, however it is answered, it only performs operations that the rule admits after what was
said before. -/

namespace AccessWindow

abbrev Turn := (op : Operation) × op.Answer

abbrev Surroundings := (past : List Turn) → (op : Operation) → op.Answer

def Turn.Faithful : Turn → Prop
  | ⟨.call (.requestNamed name), .ok r⟩ => r.name = name
  | ⟨.call (.putStatus r), .ok stored⟩ => stored.name = r.name
  | _ => True

namespace Program

variable {α β : Type} {p : Program α} {f : α → Program β}

/-- The turns of a program in order, and what it ended with unless it was broken off. -/
inductive Dialogue : Program α → List Turn → Option (Except Fault α) → Prop
  | broken {p : Program α} : Dialogue p [] none
  | ended {result : Except Fault α} : Dialogue (.done result) [] (some result)
  | said {op : Operation} {next : op.Answer → Program α} {answer : op.Answer}
      {rest : List Turn} {result : Option (Except Fault α)} :
      Dialogue (next answer) rest result → Dialogue (.step op next) (⟨op, answer⟩ :: rest) result

def replay : Program α → List Turn → Option (Option (Except Fault α))
  | done result, [] => some (some result)
  | done _, _ :: _ => none
  | step _ _, [] => some none
  | step op next, x :: rest => if h : x.1 = op then (next (h ▸ x.2)).replay rest else none

theorem dialogue_of_replay {talk : List Turn} {result : Option (Except Fault α)}
    (h : p.replay talk = some result) : p.Dialogue talk result := by
  induction p generalizing talk with
  | done _ =>
    cases talk with
    | nil =>
      cases h
      exact .ended
    | cons => cases h
  | step op next ih =>
    cases talk with
    | nil =>
      cases h
      exact .broken
    | cons x rest =>
      obtain ⟨op', answer⟩ := x
      rw [replay] at h
      split at h
      · next heq =>
        cases heq
        exact .said (ih _ h)
      · cases h

def amid (around : Surroundings) : Program α → List Turn → List Turn × Except Fault α
  | done result, _ => ([], result)
  | step op next, past =>
    let x : Turn := ⟨op, around past op⟩
    let rest := (next (around past op)).amid around (past ++ [x])
    (x :: rest.1, rest.2)

theorem dialogue_amid {around : Surroundings} {past : List Turn} :
    p.Dialogue (p.amid around past).1 (some (p.amid around past).2) := by
  induction p generalizing past with
  | done result => exact .ended
  | step op next ih => exact .said (ih _)

/-- The program performs only what `may` admits after the turns before it, and what it ends with
fulfils `post`. -/
def Abides (may : List Turn → Operation → Prop)
    (post : Except Fault α → List Turn → Prop) : Program α → List Turn → Prop
  | done result, past => post result past
  | step op next, past =>
    may past op ∧ ∀ answer, Turn.Faithful ⟨op, answer⟩ →
      (next answer).Abides may post (past ++ [⟨op, answer⟩])

variable {may : List Turn → Operation → Prop} {past : List Turn}
  {post mid : Except Fault α → List Turn → Prop} {last : Except Fault β → List Turn → Prop}

def andThen (may : List Turn → Operation → Prop) (f : α → Program β)
    (last : Except Fault β → List Turn → Prop) : Except Fault α → List Turn → Prop
  | .ok a, past => (f a).Abides may last past
  | .error e, past => last (.error e) past

theorem Abides.imp (h : p.Abides may mid past)
    (imp : ∀ result past', past <+: past' → mid result past' → post result past') :
    p.Abides may post past := by
  induction p generalizing past with
  | done result => exact imp result past (List.prefix_refl past) h
  | step op next ih =>
    refine ⟨h.1, fun answer faithful => ih answer (h.2 answer faithful) ?_⟩
    intro result past' hp
    exact imp result past' ((List.prefix_append past _).trans hp)

@[simp] theorem abides_bind :
    (p >>= f).Abides may last past ↔ p.Abides may (andThen may f last) past := by
  change (p.bind f).Abides may last past ↔ _
  induction p generalizing past with
  | done result => cases result <;> exact Iff.rfl
  | step op next ih => simp only [Program.bind, Abides, ih]

theorem Abides.bind (h : p.Abides may mid past)
    (ok : ∀ a past', past <+: past' → mid (.ok a) past' → (f a).Abides may last past')
    (error : ∀ e past', past <+: past' → mid (.error e) past' → last (.error e) past') :
    (p >>= f).Abides may last past := by
  refine abides_bind.2 (h.imp ?_)
  intro result past' hp hm
  cases result with
  | ok a => exact ok a past' hp hm
  | error e => exact error e past' hp hm

@[simp] theorem abides_perform {op : Operation}
    {post : Except Fault op.Answer → List Turn → Prop} :
    (perform op).Abides may post past ↔
      may past op ∧ ∀ answer, Turn.Faithful ⟨op, answer⟩ →
        post (.ok answer) (past ++ [⟨op, answer⟩]) := Iff.rfl

@[simp] theorem abides_ask {c : Call}
    {post : Except Fault (Except Fault c.Answer) → List Turn → Prop} :
    (ask c).Abides may post past ↔
      may past (.call c) ∧ ∀ answer, Turn.Faithful ⟨.call c, answer⟩ →
        post (.ok answer) (past ++ [⟨.call c, answer⟩]) := Iff.rfl

@[simp] theorem abides_call {c : Call} {post : Except Fault c.Answer → List Turn → Prop} :
    (call c).Abides may post past ↔
      may past (.call c) ∧ ∀ answer, Turn.Faithful ⟨.call c, answer⟩ →
        post answer (past ++ [⟨.call c, answer⟩]) := Iff.rfl

@[simp] theorem abides_now {post : Except Fault Instant → List Turn → Prop} :
    now.Abides may post past ↔
      may past .clock ∧ ∀ t, post (.ok t) (past ++ [⟨.clock, t⟩]) :=
  ⟨fun h => ⟨h.1, fun t => h.2 t trivial⟩, fun h => ⟨h.1, fun t _ => h.2 t⟩⟩

theorem abides_attempt {post : Except Fault (Except Fault α) → List Turn → Prop} :
    (attempt p).Abides may post past ↔
      p.Abides may (fun result past' => post (.ok result) past') past := by
  induction p generalizing past with
  | done result => exact Iff.rfl
  | step op next ih => simp only [attempt, Abides, ih]

theorem Dialogue.abides {talk : List Turn} {result : Option (Except Fault α)}
    (d : p.Dialogue talk result) (h : p.Abides may post past)
    (faithful : ∀ x ∈ talk, x.Faithful) :
    (∀ before x after, talk = before ++ x :: after → may (past ++ before) x.1) ∧
      ∀ r, result = some r → post r (past ++ talk) := by
  induction d generalizing past with
  | broken => exact ⟨by simp, by simp⟩
  | ended =>
    refine ⟨by simp, ?_⟩
    intro r hr
    cases hr
    rwa [List.append_nil]
  | @said op next answer rest result _ ih =>
    have ⟨hx, hrest⟩ := List.forall_mem_cons.1 faithful
    have ⟨kept, ends⟩ := ih (h.2 answer hx) hrest
    refine ⟨?_, by simpa using ends⟩
    intro before x after heq
    cases before with
    | nil =>
      cases heq
      simpa using h.1
    | cons y before =>
      cases heq
      simpa using kept before x after rfl

namespace Dialogue

variable {talk : List Turn}

theorem of_done {result result' : Except Fault α}
    (d : (done result).Dialogue talk (some result')) : talk = [] ∧ result' = result := by
  cases d
  exact ⟨rfl, rfl⟩

theorem of_step {op : Operation} {next : op.Answer → Program α} {result : Except Fault α}
    (d : (step op next).Dialogue talk (some result)) :
    ∃ answer rest, talk = ⟨op, answer⟩ :: rest ∧ (next answer).Dialogue rest (some result) := by
  cases d with
  | said d => exact ⟨_, _, rfl, d⟩

theorem of_bind {result : Except Fault β} (d : (p >>= f).Dialogue talk (some result)) :
    (∃ a said rest, talk = said ++ rest ∧ p.Dialogue said (some (.ok a)) ∧
        (f a).Dialogue rest (some result)) ∨
      ∃ fault, p.Dialogue talk (some (.error fault)) ∧ result = .error fault := by
  change (p.bind f).Dialogue talk (some result) at d
  induction p generalizing talk with
  | done ended =>
    cases ended with
    | ok a => exact .inl ⟨a, [], talk, rfl, .ended, d⟩
    | error fault =>
      obtain ⟨rfl, rfl⟩ := d.of_done
      exact .inr ⟨fault, .ended, rfl⟩
  | step op next ih =>
    obtain ⟨answer, rest, rfl, later⟩ := d.of_step
    cases ih answer later with
    | inl parts =>
      obtain ⟨a, said, rest', rfl, first, second⟩ := parts
      exact .inl ⟨a, _ :: said, rest', rfl, .said first, second⟩
    | inr failed =>
      obtain ⟨fault, first, rfl⟩ := failed
      exact .inr ⟨fault, .said first, rfl⟩

theorem of_bind_ok {b : β} (d : (p >>= f).Dialogue talk (some (.ok b))) :
    ∃ a said rest, talk = said ++ rest ∧ p.Dialogue said (some (.ok a)) ∧
      (f a).Dialogue rest (some (.ok b)) := by
  cases d.of_bind with
  | inl parts => exact parts
  | inr failed =>
    obtain ⟨fault, -, he⟩ := failed
    cases he

theorem of_map {g : α → β} {result : Except Fault β}
    (d : (p >>= fun a => pure (g a)).Dialogue talk (some result)) :
    ∃ inner, p.Dialogue talk (some inner) ∧ result = inner.map g := by
  cases d.of_bind with
  | inl parts =>
    obtain ⟨a, said, rest, rfl, first, ended⟩ := parts
    obtain ⟨rfl, rfl⟩ := ended.of_done
    exact ⟨.ok a, by rwa [List.append_nil], rfl⟩
  | inr failed =>
    obtain ⟨fault, first, rfl⟩ := failed
    exact ⟨_, first, rfl⟩

theorem of_ask {c : Call} {next : Except Fault c.Answer → Program α} {result : Except Fault α}
    (d : (ask c >>= next).Dialogue talk (some result)) :
    ∃ answer rest, talk = ⟨.call c, answer⟩ :: rest ∧
      (next answer).Dialogue rest (some result) := of_step d

theorem of_perform {op : Operation} {next : op.Answer → Program α} {result : Except Fault α}
    (d : (perform op >>= next).Dialogue talk (some result)) :
    ∃ answer rest, talk = ⟨op, answer⟩ :: rest ∧ (next answer).Dialogue rest (some result) :=
  of_step d

theorem of_call {c : Call} {next : c.Answer → Program α} {result : Except Fault α}
    (d : (call c >>= next).Dialogue talk (some result)) :
    (∃ answer rest, talk = ⟨.call c, .ok answer⟩ :: rest ∧
        (next answer).Dialogue rest (some result)) ∨
      ∃ fault, talk = [⟨.call c, .error fault⟩] ∧ result = .error fault := by
  obtain ⟨answer, rest, rfl, later⟩ := of_step d
  cases answer with
  | ok answer => exact .inl ⟨answer, rest, rfl, later⟩
  | error fault =>
    obtain ⟨rfl, rfl⟩ := later.of_done
    exact .inr ⟨fault, rfl, rfl⟩

theorem of_call_ok {c : Call} {next : c.Answer → Program α} {a : α}
    (d : (call c >>= next).Dialogue talk (some (.ok a))) :
    ∃ answer rest, talk = ⟨.call c, .ok answer⟩ :: rest ∧
      (next answer).Dialogue rest (some (.ok a)) := by
  cases d.of_call with
  | inl answered => exact answered
  | inr failed =>
    obtain ⟨fault, -, he⟩ := failed
    cases he

end Dialogue

end Program

end AccessWindow
