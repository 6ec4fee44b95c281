import AccessWindow.Proofs.Conduct.Confinement
import AccessWindow.Proofs.History
import AccessWindow.Proofs.Tracking
import AccessWindow.Worker.Cycle

/-! The worker at work. In each cycle it takes stock, and then the tasks that are handed out run at
the same time: what they do comes in any order, and their results are noted as they end. Others act
at any moment. -/

namespace AccessWindow

open Lifecycle Program

namespace Moment

variable {m : Moment} {name : String} {r : Request} {requests : List Request}

theorem brought (h : m.said = ⟨.call (.requestNamed name), .ok r⟩) :
    m.before.requests name = some r := by
  obtain ⟨before, op, answer, after, lawful⟩ := m
  cases h
  exact lawful.1

theorem showed (h : m.said = ⟨.call .allRequests, .ok requests⟩) :
    r ∈ requests ↔ m.before.requests r.name = some r := by
  obtain ⟨before, op, answer, after, lawful⟩ := m
  cases h
  exact lawful.1 r

end Moment

theorem Scene.Leaves.sparesGrants {s s' : Scene} {op : Operation} {owner : String}
    (l : s.Leaves op s') (h : ∀ g, op = .call (.addGrant g) → ¬g.belongsTo owner) :
    s.SparesGrants owner s' := by
  intro scope key g hg ho
  cases l.grant_before hg with
  | inl hb => exact ⟨g, hb, ho⟩
  | inr hop => exact absurd ho (h g hop)

namespace Worker

def momentsAt (work : List (Nat × Moment)) (i : Nat) : List Moment :=
  (work.filter (·.1 = i)).map Prod.snd

structure Run (keeper : Keeper) where
  task : Schedule.Task
  moments : List Moment
  result : Except Fault Outcome
  noted : Instant
  talk : (Worker.task keeper task).Dialogue (moments.map Moment.said) (some result)

/-- One cycle: how stock was taken and what came of it, when the listing was looked at, the runs of
the tasks in the order of the tasks and in the order in which they ended, and the moments of all
runs, each with the place of its run. -/
structure Cycle (keeper : Keeper) where
  stock : List Moment
  listing : Except Fault (List Request)
  seen : Instant
  runs : List (Run keeper)
  ended : List (Run keeper)
  work : List (Nat × Moment)
  talk : takeStock.Dialogue (stock.map Moment.said) (some listing)
  all : ended.Perm runs
  own : ∀ i run, runs[i]? = some run → run.moments = momentsAt work i
  placed : ∀ x ∈ work, x.1 < runs.length

variable {keeper : Keeper}

def Run.visit (run : Run keeper) : Visit run.task.name :=
  ⟨keeper, run.task.namespaces, run.moments, some run.result, run.talk⟩

def note (s : Schedule) (run : Run keeper) : Schedule := record s run.task run.result run.noted

inductive Cycle.Leads (others : Scene → Scene → Prop) (c : Cycle keeper) :
    Schedule → Scene → Schedule → Scene → Prop
  | skipped {plan s s' fault} : c.listing = .error fault → c.runs = [] →
      Course others s c.stock s' → Leads others c plan s plan s'
  | worked {plan s s₁ s' requests} : c.listing = .ok requests →
      c.runs.map Run.task = (plan.observe (requests.map listed) c.seen).2 →
      Course others s c.stock s₁ → Course others s₁ (c.work.map Prod.snd) s' →
      Leads others c plan s
        (c.ended.foldl note (plan.observe (requests.map listed) c.seen).1) s'

inductive Service (others : Scene → Scene → Prop) :
    Schedule → Scene → List (Cycle keeper) → Schedule → Scene → Prop
  | start {plan s} : Service others plan s [] plan s
  | cycle {plan s cs plan₁ s₁ c plan₂ s₂} : Service others plan s cs plan₁ s₁ →
      c.Leads others plan₁ s₁ plan₂ s₂ → Service others plan s (cs ++ [c]) plan₂ s₂

section

variable {i j : Nat} {ms : List Moment} {work more : List (Nat × Moment)}

@[simp] theorem momentsAt_nil : momentsAt [] i = [] := rfl

@[simp] theorem momentsAt_cons {x : Nat × Moment} :
    momentsAt (x :: work) i = if x.1 = i then x.2 :: momentsAt work i else momentsAt work i := by
  by_cases h : x.1 = i <;> simp [momentsAt, h]

@[simp] theorem momentsAt_append :
    momentsAt (work ++ more) i = momentsAt work i ++ momentsAt more i := by
  simp [momentsAt]

@[simp] theorem momentsAt_map : momentsAt (ms.map (Prod.mk j)) i = if j = i then ms else [] := by
  induction ms with
  | nil => simp
  | cons m ms ih => by_cases h : j = i <;> simp_all

theorem course_momentsAt {others R : Scene → Scene → Prop} {s s' : Scene}
    (h : Course others s (work.map Prod.snd) s') (trans : ∀ {a b c}, R a b → R b c → R a c)
    (idle : ∀ {a b}, others a b → R a b) (moved : ∀ m ∈ work.map Prod.snd, R m.before m.after) :
    Course R s (momentsAt work i) s' := by
  induction work generalizing s with
  | nil =>
    cases h with
    | last last => exact .last (idle last)
  | cons x rest ih =>
    cases h with
    | next first later =>
      have ⟨hx, hrest⟩ := List.forall_mem_cons.1 moved
      have course := ih later hrest
      rw [momentsAt_cons]
      split
      · exact .next (idle first) course
      · exact course.after (trans (idle first) hx) trans

end

variable {others : Scene → Scene → Prop} {name : String} {c : Cycle keeper} {run : Run keeper}
  {runs : List (Run keeper)} {m : Moment} {r : Request} {requests : List Request}
  {plan : Schedule} {t : Schedule.Tracked} {g : Grant}

theorem refresh_confined : Rulebook.refresh.Confined Operation.sparesGrants := by
  refine .bind (confined_ask.2 rfl) fun found => ?_
  split
  · refine .bind (confined_perform.2 rfl) fun current => ?_
    split <;> trivial
  · refine .bind ⟨rfl, fun _ => trivial⟩ fun renewed => ?_
    obtain ⟨current, changed⟩ := renewed
    cases changed with
    | false => trivial
    | true => exact .bind (confined_ask.2 rfl) fun _ => trivial

theorem takeStock_abides :
    takeStock.Abides (fun _ op => op.sparesGrants)
      (fun result past => ∀ requests, result = .ok requests →
        Heard past .allRequests (.ok requests))
      [] := by
  have list (past : List Turn) : (call .allRequests).Abides (fun _ op => op.sparesGrants)
      (fun result past => ∀ requests, result = .ok requests →
        Heard past .allRequests (.ok requests)) past := by
    refine abides_call.2 ⟨rfl, fun answer _ => ?_⟩
    rintro requests rfl
    exact heard_last
  apply Abides.bind (refresh_confined.attempt.abides fun _ _ h => h)
  · intro result past _ _
    cases result with
    | ok => exact list past
    | error f =>
      refine abides_bind.2 (abides_perform.2 ⟨rfl, fun current _ => ?_⟩)
      cases current with
      | some => exact list _
      | none => exact nofun
  · exact fun _ _ _ _ => nofun

namespace Cycle

theorem Leads.after {plan' : Schedule} {s s₁ s' : Scene} (h : c.Leads others plan s₁ plan' s')
    (idle : others s s₁) (trans : ∀ {a b c}, others a b → others b c → others a c) :
    c.Leads others plan s plan' s' := by
  cases h with
  | skipped hlisting hruns stock => exact .skipped hlisting hruns (stock.after idle trans)
  | worked hlisting hruns stock course =>
    exact .worked hlisting hruns (stock.after idle trans) course

theorem stock_spares : ∀ m ∈ c.stock, ∀ g, m.op ≠ .call (.addGrant g) := by
  intro m hm g hop
  obtain ⟨before, after, hstock⟩ := List.append_of_mem hm
  have spares := (c.talk.abides takeStock_abides (Moment.all_faithful c.stock)).1
    (before.map Moment.said) m.said (after.map Moment.said) (by simp [hstock])
  rw [show m.said.1 = _ from hop] at spares
  cases spares

theorem shown (h : c.listing = .ok requests) :
    ∃ m ∈ c.stock, m.said = ⟨.call .allRequests, .ok requests⟩ := by
  have heard := (c.talk.abides takeStock_abides (Moment.all_faithful c.stock)).2 _ rfl requests h
  exact List.mem_map.1 heard

theorem run_of_work (hm : m ∈ c.work.map Prod.snd) : ∃ run ∈ c.runs, m ∈ run.moments := by
  obtain ⟨⟨i, m⟩, hx, rfl⟩ := List.mem_map.1 hm
  have hi : i < c.runs.length := c.placed _ hx
  refine ⟨c.runs[i], List.getElem_mem hi, ?_⟩
  rw [c.own i _ (List.getElem?_eq_getElem hi)]
  exact List.mem_map.2 ⟨(i, m), List.mem_filter.2 ⟨hx, by simp⟩, rfl⟩

theorem work_of_run (hrun : run ∈ c.runs) (hm : m ∈ run.moments) : m ∈ c.work.map Prod.snd := by
  obtain ⟨i, hi, rfl⟩ := List.getElem_of_mem hrun
  rw [c.own i _ (List.getElem?_eq_getElem hi)] at hm
  obtain ⟨x, hx, rfl⟩ := List.mem_map.1 hm
  exact List.mem_map.2 ⟨x, (List.mem_filter.1 hx).1, rfl⟩

theorem stored_of_found {past : List Turn} {e : Edition} (hrun : run ∈ c.runs)
    (hf : Found name past r e) (hp : past <+: run.moments.map Moment.said) :
    ∃ m ∈ c.work.map Prod.snd, m.before.requests name = some r := by
  obtain ⟨m, hm, hsaid⟩ := List.mem_map.1 (hp.subset (hf.subset List.mem_cons_self))
  exact ⟨m, work_of_run hrun hm, m.brought hsaid⟩

theorem grant_created (hm : m ∈ c.work.map Prod.snd) (hop : m.op = .call (.addGrant g))
    (ho : g.belongsTo name) :
    (∃ run ∈ c.runs, run.task.name = name) ∧ ∃ m ∈ c.work.map Prod.snd, ∃ r,
      m.before.requests name = some r ∧ g.scope ∈ r.spec.namespaces := by
  obtain ⟨run, hrun, hm⟩ := run_of_work hm
  obtain ⟨before, after, hv⟩ := List.append_of_mem hm
  obtain ⟨r, e, found, -, -, hg⟩ := run.visit.found_of_grant hv hop
  have hp : before.map Moment.said <+: run.moments.map Moment.said := by simp [hv]
  have hn : r.name = run.task.name := run.visit.named (found.mono hp)
  obtain ⟨scope, hscope, rfl⟩ := List.mem_map.1 hg
  obtain rfl : r.name = name := by simpa [Grant.belongsTo] using ho
  rw [← hn] at found
  obtain ⟨m, hm, hr⟩ := stored_of_found hrun found hp
  exact ⟨⟨run, hrun, hn.symm⟩, m, hm, r, hr, hscope⟩

end Cycle

theorem get?_note_of_ne (h : run.task.name ≠ name) :
    (note plan run).tracked.get? name = plan.tracked.get? name := by
  simp only [note, record]
  split
  · rw [Schedule.get?_noteSuccess, if_neg h.symm]
  · rw [Schedule.get?_noteFailure, if_neg h.symm]

theorem get?_note_of_some (run : Run keeper) (ht : plan.tracked.get? name = some t) :
    ∃ t', (note plan run).tracked.get? name = some t' ∧ t'.namespaces = t.namespaces := by
  simp only [note, record]
  split
  · rw [Schedule.get?_noteSuccess, ht]
    split <;> exact ⟨_, rfl, rfl⟩
  · rw [Schedule.get?_noteFailure, ht]
    split <;> exact ⟨_, rfl, rfl⟩

theorem get?_notes_of_ne (h : ∀ run ∈ runs, run.task.name ≠ name) :
    (runs.foldl note plan).tracked.get? name = plan.tracked.get? name := by
  induction runs generalizing plan with
  | nil => rfl
  | cons run rest ih =>
    have ⟨hrun, hrest⟩ := List.forall_mem_cons.1 h
    rw [List.foldl_cons, ih hrest, get?_note_of_ne hrun]

theorem get?_notes_of_some (runs : List (Run keeper)) (ht : plan.tracked.get? name = some t) :
    ∃ t', (runs.foldl note plan).tracked.get? name = some t' ∧ t'.namespaces = t.namespaces := by
  induction runs generalizing plan t with
  | nil => exact ⟨t, ht, rfl⟩
  | cons run rest ih =>
    obtain ⟨t₁, ht₁, hs₁⟩ := get?_note_of_some run ht
    obtain ⟨t₂, ht₂, hs₂⟩ := ih ht₁
    exact ⟨t₂, ht₂, hs₂.trans hs₁⟩

theorem get?_notes_of_none {scopes : List String} (ht : plan.tracked.get? name = none)
    (same : ∀ run ∈ runs, run.task.name = name → run.task.namespaces = scopes) :
    (∃ t, (runs.foldl note plan).tracked.get? name = some t ∧ t.namespaces = scopes) ∨
      (runs.foldl note plan).tracked.get? name = none ∧
        ∀ run ∈ runs, run.task.name = name → ∃ outcome, run.result = .ok outcome := by
  induction runs generalizing plan with
  | nil => exact .inr ⟨ht, by simp⟩
  | cons run rest ih =>
    have ⟨hrun, hrest⟩ := List.forall_mem_cons.1 same
    rw [List.foldl_cons]
    by_cases hn : run.task.name = name
    · cases hres : run.result with
      | ok outcome =>
        have ht : (note plan run).tracked.get? name = none := by
          rw [note, hres, record, Schedule.get?_noteSuccess, if_pos hn.symm, ht, Option.map_none]
        exact (ih ht hrest).imp id fun ⟨hnone, hok⟩ =>
          ⟨hnone, List.forall_mem_cons.2 ⟨fun _ => ⟨outcome, hres⟩, hok⟩⟩
      | error f =>
        refine .inl ?_
        have ht : (note plan run).tracked.get? name =
            some ⟨none, run.task.namespaces, some (run.noted.after plan.pause), true⟩ := by
          rw [note, hres, record, Schedule.get?_noteFailure, if_pos hn.symm, ht, Option.getD_none]
        obtain ⟨t, ht, hs⟩ := get?_notes_of_some rest ht
        exact ⟨t, ht, hs.trans (hrun hn)⟩
    · exact (ih ((get?_note_of_ne hn).trans ht) hrest).imp id fun ⟨hnone, hok⟩ =>
        ⟨hnone, List.forall_mem_cons.2 ⟨fun h => absurd h hn, hok⟩⟩

end Worker

end AccessWindow
