import AccessWindow.Proofs.Rehearsed
import AccessWindow.Proofs.Removal
import AccessWindow.Proofs.Service

namespace AccessWindow

open Lifecycle Worker

/-- A request has the same namespaces in all of these scenes, and its name is not used again. -/
structure Steady (name : String) (trace : List Scene) : Prop where
  same : trace.Pairwise fun a b => ∀ q r, a.requests name = some q → b.requests name = some r →
    r.spec.namespaces = q.spec.namespaces
  once : ∀ early s late, trace = early ++ s :: late → (∃ a ∈ early, ∃ q, a.requests name = some q) →
    s.requests name = none → ∀ b ∈ late, b.requests name = none

variable {others : Scene → Scene → Prop} {s s₁ s' a b : Scene} {early late trace : List Scene}
  {name scope key : String} {q r : Request} {g : Grant} {m : Moment} {keeper : Keeper}
  {cs : List (Cycle keeper)} {c : Cycle keeper} {plan plan' : Schedule} {requests : List Request}
  {t : Schedule.Tracked}

namespace Steady

theorem of_append (h : Steady name (trace ++ late)) : Steady name trace where
  same := (List.pairwise_append.1 h.same).1
  once early s rest heq ha hs b hb :=
    h.once early s (rest ++ late) (by simp [heq]) ha hs b (List.mem_append_left late hb)

theorem earlier (h : Steady name (early ++ s :: late)) (ha : a ∈ early)
    (hq : a.requests name = some q) (hr : s.requests name = some r) :
    r.spec.namespaces = q.spec.namespaces :=
  (List.pairwise_append.1 h.same).2.2 a ha s List.mem_cons_self q r hq hr

theorem later (h : Steady name (early ++ s :: late)) (hb : b ∈ late)
    (hr : s.requests name = some r) (hq : b.requests name = some q) :
    q.spec.namespaces = r.spec.namespaces :=
  (List.pairwise_cons.1 (List.pairwise_append.1 h.same).2.1).1 b hb r q hr hq

theorem of_gone {scopes : List String}
    (there : ∀ a ∈ early, (a.requests name).map (·.spec.namespaces) = some scopes)
    (gone : ∀ b ∈ late, b.requests name = none) : Steady name (early ++ late) where
  same := by
    have scopes_eq : ∀ a ∈ early ++ late, ∀ q, a.requests name = some q →
        q.spec.namespaces = scopes := by
      intro a ha q hq
      cases List.mem_append.1 ha with
      | inl ha => simpa [hq] using there a ha
      | inr ha => cases (gone a ha).symm.trans hq
    rw [List.pairwise_iff_forall_sublist]
    intro a b hab q r hq hr
    rw [scopes_eq a (hab.subset (by simp)) q hq, scopes_eq b (hab.subset (by simp)) r hr]
  once first s rest heq _ hs b hb := by
    cases List.append_eq_append_iff.1 heq with
    | inl h =>
      obtain ⟨between, rfl, rfl⟩ := h
      exact gone b (by simp [hb])
    | inr h =>
      obtain ⟨between, rfl, h⟩ := h
      cases between with
      | nil => exact gone b (by rw [← List.nil_append late, ← h]; simp [hb])
      | cons x between =>
        obtain ⟨rfl, -⟩ := List.cons.inj h
        simpa [hs] using there s (by simp)

end Steady

namespace Worker

namespace Cycle

def scenes (c : Cycle keeper) : List Scene :=
  (c.stock ++ c.work.map Prod.snd).flatMap fun m => [m.before, m.after]

theorem scenes_around (hm : m ∈ c.stock) :
    ∃ early late, c.scenes = early ++ m.before :: late ∧
      ∀ m' ∈ c.work.map Prod.snd, m'.before ∈ late := by
  obtain ⟨ms, rest, hstock⟩ := List.append_of_mem hm
  refine ⟨ms.flatMap fun m => [m.before, m.after],
    m.after :: (rest ++ c.work.map Prod.snd).flatMap fun m => [m.before, m.after], ?_, ?_⟩
  · simp [scenes, hstock]
  · intro m' hm'
    refine List.mem_cons_of_mem _ (List.mem_flatMap.2 ⟨m', List.mem_append_right rest hm', ?_⟩)
    simp

/-- In the clean-up of a request that has vanished, a grant that stood there was said to be gone. -/
def Misled (c : Cycle keeper) (name scope key : String) : Prop :=
  ∃ run ∈ c.runs, run.task.name = name ∧ run.task.trigger = .vanished ∧
    ∃ m ∈ run.moments, m.Misleads scope key

theorem grant_origin (spares : ∀ {a b}, others a b → a.SparesGrants name b)
    (stock : Course others s c.stock s₁) (course : Course others s₁ (c.work.map Prod.snd) s')
    (hg : s'.grants scope key = some g) (ho : g.belongsTo name) :
    (∃ old, s.grants scope key = some old ∧ old.belongsTo name) ∨
      ∃ m ∈ c.work.map Prod.snd, ∃ g : Grant,
        m.op = .call (.addGrant g) ∧ g.scope = scope ∧ g.belongsTo name := by
  cases course.grant_before spares hg ho with
  | inr created => exact .inr created
  | inl stood =>
    obtain ⟨old, hold, ho⟩ := stood
    refine .inl ((stock.grant_before spares hold ho).resolve_right ?_)
    rintro ⟨m, hm, g, hop, -⟩
    exact c.stock_spares m hm g hop

end Cycle

theorem Run.cleared {run : Run keeper} {outcome : Outcome} (ok : run.result = .ok outcome)
    (unfound : ∀ r e, ¬Found run.task.name (run.moments.map Moment.said) r e) :
    Cleared run.task.name run.task.namespaces (run.moments.map Moment.said) := by
  have concludes : Concludes run.task.name run.task.namespaces outcome
      (run.moments.map Moment.said) := run.visit.concludes (congrArg some ok)
  generalize run.moments.map Moment.said = past at concludes unfound
  cases concludes with
  | gone _ cleared => exact cleared
  | refused found => exact absurd found (unfound _ _)
  | accepted found => exact absurd found (unfound _ _)
  | early found => exact absurd found (unfound _ _)
  | unapproved found => exact absurd found (unfound _ _)
  | lapsing found => exact absurd found (unfound _ _)
  | removed permitted =>
    cases permitted with
    | discard found => exact absurd (found.mono (List.prefix_append _ _)) (unfound _ _)
    | expire found => exact absurd (found.mono (List.prefix_append _ _)) (unfound _ _)

/-- What is tracked under the name was learnt from a request, and whatever grants there are of its
owner lie in tracked namespaces, except for those that a clean-up was misled about. -/
structure Accounted (name : String) (cs : List (Cycle keeper)) (plan : Schedule) (s : Scene) :
    Prop where
  known : ∀ t, plan.tracked.get? name = some t → ∃ a ∈ cs.flatMap Cycle.scenes,
    ∃ q, a.requests name = some q ∧ q.spec.namespaces = t.namespaces
  covered : ∀ scope key g, s.grants scope key = some g → g.belongsTo name →
    (∃ t, plan.tracked.get? name = some t ∧ scope ∈ t.namespaces) ∨
      ∃ c ∈ cs, c.Misled name scope key

namespace Accounted

theorem known_append (h : Accounted name cs plan s) (ht : plan.tracked.get? name = some t) :
    ∃ a ∈ (cs ++ [c]).flatMap Cycle.scenes,
      ∃ q, a.requests name = some q ∧ q.spec.namespaces = t.namespaces := by
  obtain ⟨a, ha, hq⟩ := h.known t ht
  exact ⟨a, by simp [List.mem_flatMap.1 ha], hq⟩

theorem covered_append (h : Accounted name cs plan s) (hg : s.grants scope key = some g)
    (ho : g.belongsTo name) :
    (∃ t, plan.tracked.get? name = some t ∧ scope ∈ t.namespaces) ∨
      ∃ c' ∈ cs ++ [c], c'.Misled name scope key :=
  (h.covered scope key g hg ho).imp id fun ⟨c, hc, hm⟩ => ⟨c, List.mem_append_left _ hc, hm⟩

theorem idle (h : Accounted name cs plan s)
    (same : plan'.tracked.get? name = plan.tracked.get? name) (spared : s.SparesGrants name s') :
    Accounted name (cs ++ [c]) plan' s' where
  known t ht := h.known_append (same ▸ ht)
  covered scope key g hg ho := by
    obtain ⟨old, hold, ho⟩ := spared scope key g hg ho
    rw [same]
    exact h.covered_append hold ho

theorem listed (h : Accounted name cs plan s)
    (steady : Steady name ((cs.flatMap Cycle.scenes ++ early) ++ m.before :: late))
    (hscenes : c.scenes = early ++ m.before :: late)
    (hlate : ∀ m' ∈ c.work.map Prod.snd, m'.before ∈ late)
    (hr : m.before.requests name = some r) (ht : plan'.tracked.get? name = some t)
    (hs : t.namespaces = r.spec.namespaces)
    (origin : ∀ scope key g, s'.grants scope key = some g → g.belongsTo name →
      (∃ old, s.grants scope key = some old ∧ old.belongsTo name) ∨
        ∃ m ∈ c.work.map Prod.snd, ∃ g : Grant,
          m.op = .call (.addGrant g) ∧ g.scope = scope ∧ g.belongsTo name) :
    Accounted name (cs ++ [c]) plan' s' where
  known t' ht' := by
    cases ht.symm.trans ht'
    refine ⟨m.before, ?_, r, hr, hs.symm⟩
    rw [List.flatMap_append, List.flatMap_singleton, hscenes]
    simp
  covered scope key g hg ho := by
    cases origin scope key g hg ho with
    | inl stood =>
      obtain ⟨old, hold, ho⟩ := stood
      refine (h.covered_append hold ho).imp ?_ id
      rintro ⟨t', ht', hscope⟩
      obtain ⟨a, ha, q, hq, hs'⟩ := h.known t' ht'
      refine ⟨t, ht, ?_⟩
      rwa [hs, steady.earlier (List.mem_append_left early ha) hq hr, hs']
    | inr created =>
      obtain ⟨m', hm', g', hop, rfl, ho⟩ := created
      obtain ⟨-, m₁, hm₁, q, hq, hscope⟩ := Cycle.grant_created hm' hop ho
      refine .inl ⟨t, ht, ?_⟩
      rwa [hs, ← steady.later (hlate m₁ hm₁) hr hq]

theorem vanished (h : Accounted name cs plan s) (ht : plan.tracked.get? name = some t)
    (task : ∀ run ∈ c.runs, run.task.name = name → run.task = ⟨name, t.namespaces, .vanished⟩)
    (some_run : ∃ run ∈ c.runs, run.task.name = name)
    (forgotten : plan'.tracked.get? name = none)
    (gone : ∀ m ∈ c.work.map Prod.snd, m.before.requests name = none)
    (idle : ∀ {a b}, others a b → a.SparesGrants name b) (stock : s.SparesGrants name s₁)
    (course : Course others s₁ (c.work.map Prod.snd) s') :
    Accounted name (cs ++ [c]) (c.ended.foldl note plan') s' := by
  have created_none : ∀ m ∈ c.work.map Prod.snd, ∀ g, m.op = .call (.addGrant g) →
      ¬g.belongsTo name := by
    intro m hm g hop ho
    obtain ⟨-, m', hm', r, hr, -⟩ := Cycle.grant_created hm hop ho
    cases (gone m' hm').symm.trans hr
  have moved : ∀ m ∈ c.work.map Prod.snd, m.before.SparesGrants name m.after := fun m hm =>
    m.lawful.leaves.sparesGrants (created_none m hm)
  have spared : s.SparesGrants name s' :=
    stock.trans (course.relates Scene.SparesGrants.trans idle moved)
  have scopes : ∀ run ∈ c.ended, run.task.name = name → run.task.namespaces = t.namespaces := by
    intro run hrun hn
    rw [task run (c.all.subset hrun) hn]
  cases get?_notes_of_none forgotten scopes with
  | inl again =>
    obtain ⟨t', ht', hs⟩ := again
    constructor
    · intro t'' ht''
      cases ht'.symm.trans ht''
      rw [hs]
      exact h.known_append ht
    · intro scope key g hg ho
      obtain ⟨old, hold, ho⟩ := spared scope key g hg ho
      refine (h.covered_append hold ho).imp ?_ id
      rintro ⟨t'', ht'', hscope⟩
      cases ht.symm.trans ht''
      exact ⟨t', ht', hs ▸ hscope⟩
  | inr finished =>
    obtain ⟨hnone, ok⟩ := finished
    constructor
    · intro t' ht'
      cases hnone.symm.trans ht'
    · intro scope key g hg ho
      obtain ⟨old, hold, ho'⟩ := spared scope key g hg ho
      refine .inr ?_
      cases h.covered_append (c := c) hold ho' with
      | inr misled => exact misled
      | inl tracked =>
        obtain ⟨t', ht', hscope⟩ := tracked
        cases ht.symm.trans ht'
        obtain ⟨run, hrun, hn⟩ := some_run
        obtain ⟨outcome, hok⟩ := ok run (c.all.symm.subset hrun) hn
        have htask := task run hrun hn
        have unfound : ∀ r e, ¬Found run.task.name (run.moments.map Moment.said) r e := by
          intro r e found
          obtain ⟨m, hm, hr⟩ := Cycle.stored_of_found hrun found (List.prefix_refl _)
          cases (gone m hm).symm.trans (hn ▸ hr)
        have cleared := run.cleared hok unfound
        rw [htask] at cleared
        obtain ⟨i, hi⟩ := List.mem_iff_getElem?.1 hrun
        have own := course_momentsAt (R := Scene.SparesGrants name) (i := i) course
          Scene.SparesGrants.trans idle moved
        rw [← c.own i run hi] at own
        obtain ⟨m, hm, misleads⟩ := own.swept (fun h => h) cleared hscope hg ho
        exact ⟨c, by simp, run, hrun, hn, by rw [htask], m, hm, misleads⟩

theorem cycle (h : Accounted name cs plan s)
    (steady : Steady name ((cs ++ [c]).flatMap Cycle.scenes))
    (idle : ∀ {a b}, others a b → a.SparesGrants name b) (leads : c.Leads others plan s plan' s') :
    Accounted name (cs ++ [c]) plan' s' := by
  have stocked {s₁ : Scene} (stock : Course others s c.stock s₁) : s.SparesGrants name s₁ :=
    stock.relates Scene.SparesGrants.trans idle fun m hm =>
      m.lawful.leaves.sparesGrants fun g hop => absurd hop (Cycle.stock_spares m hm g)
  cases leads with
  | skipped _ _ stock => exact h.idle rfl (stocked stock)
  | @worked _ _ requests hlisting hruns stock course =>
    have handed : ∀ run ∈ c.runs,
        run.task ∈ (plan.observe (requests.map Worker.listed) c.seen).2 := fun run hrun =>
      hruns ▸ List.mem_map_of_mem hrun
    obtain ⟨m, hm, hsaid⟩ := Cycle.shown hlisting
    obtain ⟨early, late, hscenes, hlate⟩ := Cycle.scenes_around hm
    rw [List.flatMap_append, List.flatMap_singleton, hscenes, ← List.append_assoc] at steady
    by_cases shown : ∃ item ∈ requests.map Worker.listed, item.name = name
    · obtain ⟨item, hitem, hn, t, ht, hs⟩ :=
        Schedule.get?_observe_of_shown plan c.seen shown
      obtain ⟨r, hr, rfl⟩ := List.mem_map.1 hitem
      have hr : m.before.requests name = some r := hn ▸ (m.showed hsaid).1 hr
      obtain ⟨t', ht', hs'⟩ := get?_notes_of_some c.ended ht
      exact h.listed steady hscenes hlate hr ht' (hs'.trans hs) fun _ _ _ hg ho =>
        Cycle.grant_origin idle stock course hg ho
    · have absent : ∀ item ∈ requests.map Worker.listed, item.name ≠ name :=
        fun item hitem hn => shown ⟨item, hitem, hn⟩
      by_cases some_run : ∃ run ∈ c.runs, run.task.name = name
      · have entry {run : Run keeper} (hrun : run ∈ c.runs) (hn : run.task.name = name) :=
          (Schedule.mem_observe_of_absent absent hn).1 (handed run hrun)
        obtain ⟨run, hrun, hn⟩ := some_run
        obtain ⟨t, ht, leaves, -⟩ := entry hrun hn
        refine h.vanished ht ?_ ⟨run, hrun, hn⟩ ?_ ?_ idle (stocked stock) course
        · intro run hrun hn
          obtain ⟨t', ht', -, htask⟩ := entry hrun hn
          cases ht.symm.trans ht'
          exact htask
        · rw [Option.eq_none_iff_forall_ne_some]
          intro t' ht'
          obtain ⟨ht', stays⟩ := (Schedule.get?_observe_of_absent absent).1 ht'
          cases ht.symm.trans ht'
          exact stays leaves
        · have hm : m.before.requests name = none := by
            rw [Option.eq_none_iff_forall_ne_some]
            intro r hr
            have hn : r.name = name := m.before.named hr
            exact absent (Worker.listed r)
              (List.mem_map_of_mem ((m.showed hsaid).2 (hn.symm ▸ hr))) hn
          obtain ⟨a, ha, q, hq, -⟩ := h.known t ht
          intro m' hm'
          exact steady.once _ _ _ rfl ⟨a, List.mem_append_left early ha, q, hq⟩ hm _ (hlate m' hm')
      · refine h.idle ?_ ?_
        · rw [get?_notes_of_ne fun run hrun hn => some_run ⟨run, c.all.subset hrun, hn⟩]
          refine Option.ext fun t => ?_
          rw [Schedule.get?_observe_of_absent absent]
          refine and_iff_left_of_imp fun ht leaves => ?_
          have task : ⟨name, t.namespaces, .vanished⟩ ∈
              (plan.observe (requests.map Worker.listed) c.seen).2 :=
            (Schedule.mem_observe_of_absent absent rfl).2 ⟨t, ht, leaves, rfl⟩
          obtain ⟨run, hrun, htask⟩ := List.mem_map.1 (hruns ▸ task)
          exact some_run ⟨run, hrun, by rw [htask]⟩
        · refine (stocked stock).trans (course.relates Scene.SparesGrants.trans idle fun m hm => ?_)
          exact m.lawful.leaves.sparesGrants fun g hop ho =>
            some_run (Cycle.grant_created hm hop ho).1

end Accounted

namespace Service

theorem accounted {s₀ : Scene} {plan₀ : Schedule} (h : Service others plan₀ s₀ cs plan s)
    (untracked : plan₀.tracked.get? name = none)
    (bare : ∀ scope key g, s₀.grants scope key = some g → ¬g.belongsTo name)
    (idle : ∀ {a b}, others a b → a.SparesGrants name b)
    (steady : Steady name (cs.flatMap Cycle.scenes)) : Accounted name cs plan s := by
  induction h with
  | start =>
    constructor
    · intro t ht
      cases untracked.symm.trans ht
    · intro scope key g hg ho
      exact absurd ho (bare scope key g hg)
  | cycle _ leads ih =>
    have earlier : Steady name _ := (List.flatMap_append ▸ steady).of_append
    exact (ih earlier).cycle steady idle leads

/-- Grants whose request is gone are on record until they are taken back: their namespaces are
tracked under the name of the request, so that the next listing has them cleared, unless that has
failed before and waits. -/
theorem orphans_tracked {s₀ : Scene} {pause : Time.Duration}
    (h : Service others (.start pause) s₀ cs plan s)
    (bare : ∀ scope key g, s₀.grants scope key = some g → ¬g.belongsTo name)
    (idle : ∀ {a b}, others a b → a.SparesGrants name b)
    (steady : Steady name (cs.flatMap Cycle.scenes))
    (hg : s.grants scope key = some g) (ho : g.belongsTo name) :
    (∃ t, plan.tracked.get? name = some t ∧ scope ∈ t.namespaces ∧
      ∀ listing now, (∀ item ∈ listing, item.name ≠ name) →
        ⟨name, t.namespaces, .vanished⟩ ∈ (plan.observe listing now).2 ∨
          ∃ due, t.due = some due ∧ now < due) ∨
      ∃ c ∈ cs, c.Misled name scope key := by
  have accounted : Accounted name cs plan s := h.accounted rfl bare idle steady
  refine (accounted.covered scope key g hg ho).imp ?_ id
  rintro ⟨t, ht, hscope⟩
  refine ⟨t, ht, hscope, fun listing now absent => ?_⟩
  by_cases leaves : t.leaves now
  · exact .inl ((Schedule.mem_observe_of_absent absent rfl).2 ⟨t, ht, leaves, rfl⟩)
  · rw [Schedule.Tracked.leaves_iff] at leaves
    push Not at leaves
    exact .inr leaves.2

end Service

end Worker

namespace Sample

def round (s : Scene) (requests : List Request) (run : Run keeper)
    (lists : ∀ r, r ∈ requests ↔ s.requests r.name = some r) (ruled : s.edition = some edition) :
    Cycle keeper where
  stock := [
    ⟨s, .call .fetchRulebook, .error (.external none "down"), s, .inl rfl⟩,
    ⟨s, .edition, some edition, s, ruled.symm, rfl⟩,
    ⟨s, .call .allRequests, .ok requests, s, lists, rfl⟩]
  listing := .ok requests
  seen := s.clock
  runs := [run]
  ended := [run]
  work := run.moments.map (0, ·)
  talk := .said (.said (.said .ended))
  all := .refl _
  own i run' h := by
    cases i with
    | zero =>
      cases h
      simp
    | succ => cases h
  placed := by simp

theorem round_leads {run : Run keeper} {lists : ∀ r, r ∈ requests ↔ s.requests r.name = some r}
    {ruled : s.edition = some edition} (idle : ∀ {a}, others a a) (first : others s₁ s)
    (task : (plan.observe (requests.map listed) s.clock).2 = [run.task])
    (course : Course others s run.moments s') :
    (round s requests run lists ruled).Leads others plan s₁
      (note (plan.observe (requests.map listed) s.clock).1 run) s' := by
  have listing : (round s requests run lists ruled).listing = .ok requests := rfl
  refine .worked listing task.symm
    (.next first <| .next idle <| .next idle <| .last idle) ?_
  have moments : (round s requests run lists ruled).work.map Prod.snd = run.moments := by
    simp [round, Function.comp_def]
  exact moments.symm ▸ course

def gaining : Run Sample.keeper where
  task := ⟨"jit-1", ["team-a"], .firstSeen⟩
  moments := opened.moments
  result := .ok (.again 60000000000)
  noted := spec.start
  talk := Program.dialogue_of_replay (by decide +kernel)

theorem atStart_lists (r : Request) :
    r ∈ [request awaiting] ↔ atStart.requests r.name = some r := by
  constructor
  · intro h
    cases List.mem_singleton.1 h
    rfl
  · intro h
    have hn : r.name = "jit-1" := by
      by_contra hn
      simp [atStart, scene, hn] at h
    rw [hn] at h
    cases h
    exact List.mem_singleton.2 rfl

def gain : Cycle Sample.keeper := round atStart [request awaiting] gaining atStart_lists rfl

def deserted : Scene := recorded.dropRequest "jit-1"

theorem deserted_lists (r : Request) : r ∈ [] ↔ deserted.requests r.name = some r := by
  by_cases hn : r.name = "jit-1" <;>
    simp [deserted, recorded, provided, atStart, scene, granted, Request.record, request,
      Scene.dropRequest, Scene.putRequest, Scene.putGrant, hn]

def hindered : Run Sample.keeper where
  task := ⟨"jit-1", ["team-a"], .vanished⟩
  moments := [
    ⟨deserted, .call (.requestNamed "jit-1"), .error (.notFound "gone"), deserted, .inl rfl⟩,
    ⟨deserted, .call (.grantsWithin "team-a"), .error (.external none "down"), deserted, .inl rfl⟩]
  result := .error (.external none "down")
  noted := spec.start
  talk := Program.dialogue_of_replay (by decide +kernel)

def misinformed : Run Sample.keeper where
  task := ⟨"jit-1", ["team-a"], .vanished⟩
  moments := [
    ⟨deserted, .call (.requestNamed "jit-1"), .error (.notFound "gone"), deserted, .inl rfl⟩,
    ⟨deserted, .call (.grantsWithin "team-a"), .ok [grant], deserted, provided_lists, rfl⟩,
    ⟨deserted, .call (.removeGrant "team-a" "jit-1-jit"), .error (.notFound "gone"), deserted,
      .inl rfl⟩]
  result := .ok .done
  noted := spec.start
  talk := Program.dialogue_of_replay (by decide +kernel)

def loss (run : Run Sample.keeper) : Cycle Sample.keeper := round deserted [] run deserted_lists rfl

def pause : Time.Duration := .ofSeconds 10

def gained : Schedule :=
  note ((Schedule.start pause).observe [listed (request awaiting)] spec.start).1 gaining

theorem gain_service : Service (Scene.Undisturbed "jit-1") (.start pause) atStart [gain] gained
    recorded :=
  .cycle .start (round_leads .refl .refl (by decide +kernel) opened_course)

theorem loss_steady {run : Run Sample.keeper}
    (gone : ∀ b ∈ (loss run).scenes, b.requests "jit-1" = none) :
    Steady "jit-1" ([gain, loss run].flatMap Cycle.scenes) := by
  have there : ∀ a ∈ gain.scenes,
      (a.requests "jit-1").map (·.spec.namespaces) = some ["team-a"] := by
    decide +kernel
  simpa using Steady.of_gone there gone

theorem loss_service {run : Run Sample.keeper}
    (task : (gained.observe [] deserted.clock).2 = [run.task])
    (course : Course (Scene.Undisturbed "jit-1") deserted run.moments deserted) :
    Service (Scene.Undisturbed "jit-1") (.start pause) atStart ([gain] ++ [loss run])
      (note (gained.observe [] deserted.clock).1 run) deserted :=
  .cycle gain_service (round_leads .refl Scene.undisturbed_dropRequest task course)

theorem hindered_tracked :
    (∃ t, (note (gained.observe [] deserted.clock).1 hindered).tracked.get? "jit-1" = some t ∧
      "team-a" ∈ t.namespaces ∧
      ∀ listing now, (∀ item ∈ listing, item.name ≠ "jit-1") →
        ⟨"jit-1", t.namespaces, .vanished⟩ ∈
            ((note (gained.observe [] deserted.clock).1 hindered).observe listing now).2 ∨
          ∃ due, t.due = some due ∧ now < due) ∨
      ∃ c ∈ [gain, loss hindered], c.Misled "jit-1" "team-a" "jit-1-jit" := by
  have course : Course (Scene.Undisturbed "jit-1") deserted hindered.moments deserted :=
    .next .refl <| .next .refl <| .last .refl
  exact (loss_service (by decide +kernel) course).orphans_tracked scene_bare
    Scene.Undisturbed.grants (loss_steady (by decide +kernel)) (g := grant) rfl rfl

/-- A grant can be left without any task for it to come. -/
theorem orphan_can_be_forgotten :
    ∃ plan s, Service (Scene.Undisturbed "jit-1") (.start pause) atStart
        [gain, loss misinformed] plan s ∧
      (∀ scope key, atStart.grants scope key = none) ∧
      Steady "jit-1" ([gain, loss misinformed].flatMap Cycle.scenes) ∧
      s.requests "jit-1" = none ∧
      (∃ g, s.grants "team-a" "jit-1-jit" = some g ∧ g.belongsTo "jit-1") ∧
      plan.tracked.get? "jit-1" = none := by
  have course : Course (Scene.Undisturbed "jit-1") deserted misinformed.moments deserted :=
    .next .refl <| .next .refl <| .next .refl <| .last .refl
  exact ⟨_, _, loss_service (by decide +kernel) course, fun _ _ => rfl,
    loss_steady (by decide +kernel), rfl, ⟨grant, rfl, rfl⟩, by decide +kernel⟩

end Sample

end AccessWindow
