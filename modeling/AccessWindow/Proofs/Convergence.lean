import AccessWindow.Proofs.Attempts
import AccessWindow.Proofs.Provisioned

namespace AccessWindow

open Lifecycle

def Turn.enters? : Turn → Option String
  | ⟨.call (.addGrant g), _⟩ => some g.scope
  | ⟨.call (.grantsWithin scope), _⟩ => some scope
  | _ => none

def Call.scope? : Call → Option String
  | .addGrant g => some g.scope
  | .grantsWithin scope | .removeGrant scope _ => some scope
  | _ => none

/-- How a walk comes to its end: it is through with all namespaces and nothing has upset it, or the
last call, in the first of those that are left, is the only one that has. -/
inductive Halts {α : Type} : List Turn → List String → Except Fault α → Prop
  | through {talk a} : ¬Upset talk → Halts talk [] (.ok a)
  | stuck {talk c f scope rest} : ¬Upset talk → c.bears f = false → c.scope? = some scope →
      Halts (talk ++ [⟨.call c, .error f⟩]) (scope :: rest) (.error f)

structure Walks {α : Type} (talk : List Turn) (handled left : List String)
    (result : Except Fault α) : Prop where
  entered : talk.filterMap Turn.enters? = handled ++ left.take 1
  halts : Halts talk left result

variable {α β : Type} {talk before : List Turn} {x : Turn} {handled left : List String}
  {result : Except Fault α} {s s' : Scene} {gs : List Grant} {g : Grant}
  {scope key owner : String} {r : Request}

theorem upset_append : Upset (before ++ talk) ↔ Upset before ∨ Upset talk := by
  simp only [Upset, List.mem_append, or_and_right, exists_or]

theorem upset_cons : Upset (x :: talk) ↔ x.Upsets ∨ Upset talk := by
  simp only [Upset, List.mem_cons, exists_eq_or_imp]

theorem upset_nil : ¬Upset [] := by simp [Upset]

theorem calm_cons (quiet : ¬x.Upsets) (calm : ¬Upset talk) : ¬Upset (x :: talk) :=
  fun h => (upset_cons.1 h).elim quiet calm

theorem Halts.prepend (h : Halts talk left result) (calm : ¬Upset before) :
    Halts (before ++ talk) left result := by
  cases h with
  | through calm' => exact .through fun h => (upset_append.1 h).elim calm calm'
  | stuck calm' upsets place =>
    rw [← List.append_assoc]
    exact .stuck (fun h => (upset_append.1 h).elim calm calm') upsets place

theorem Halts.cons (h : Halts talk left result) (quiet : ¬x.Upsets) :
    Halts (x :: talk) left result :=
  h.prepend (calm_cons quiet upset_nil)

theorem Halts.map {f : α → β} (h : Halts talk left result) : Halts talk left (result.map f) := by
  cases h with
  | through calm => exact .through calm
  | stuck calm upsets place => exact .stuck calm upsets place

theorem Halts.ok_iff (h : Halts talk left result) : (∃ a, result = .ok a) ↔ ¬Upset talk := by
  cases h with
  | through calm => exact iff_of_true ⟨_, rfl⟩ calm
  | stuck _ upsets _ => exact iff_of_false nofun (not_not_intro (upset_last upsets))

theorem Halts.left_eq_nil {a : α} (h : Halts talk left (.ok a)) : left = [] := by
  cases h
  rfl

def Grant.forPlace? (gs : List Grant) (scope key : String) : Option Grant :=
  gs.find? fun g => g.scope = scope && g.name = key

theorem Grant.forPlace?_cons :
    forPlace? (g :: gs) scope key =
      if g.scope = scope ∧ g.name = key then some g else forPlace? gs scope key := by
  by_cases h : g.scope = scope ∧ g.name = key <;> simp [forPlace?, h]

theorem Grant.forPlace?_append {gs' : List Grant} :
    forPlace? (gs ++ gs') scope key = (forPlace? gs scope key).or (forPlace? gs' scope key) :=
  List.find?_append

theorem Grant.forPlace?_eq_some (sub : ∀ g ∈ gs, g ∈ ofRequest r) :
    forPlace? gs scope key = some g ↔
      g ∈ ofRequest r ∧ g.scope = scope ∧ g.name = key ∧ scope ∈ gs.map Grant.scope := by
  have found {g' : Grant} (h : forPlace? gs scope key = some g') :
      g' ∈ gs ∧ g'.scope = scope ∧ g'.name = key := by
    have place := List.find?_some h
    simp only [Bool.and_eq_true, decide_eq_true_eq] at place
    exact ⟨List.mem_of_find?_eq_some h, place⟩
  constructor
  · intro h
    obtain ⟨hg, hs, hn⟩ := found h
    exact ⟨sub g hg, hs, hn, List.mem_map.2 ⟨g, hg, hs⟩⟩
  · rintro ⟨hg, hs, hn, hscope⟩
    obtain ⟨g', hg', hs'⟩ := List.mem_map.1 hscope
    obtain rfl := eq_of_mem (sub g' hg') hg (hs'.trans hs.symm)
    cases h : forPlace? gs scope key with
    | none =>
      have absent := List.find?_eq_none.1 h g' hg'
      simp [hs, hn] at absent
    | some g'' =>
      obtain ⟨hg'', hs'', -⟩ := found h
      rw [eq_of_mem (sub g'' hg'') hg (hs''.trans hs.symm)]

theorem Grant.belongsTo_of_mem (h : g ∈ ofRequest r) : g.belongsTo r.name := by
  obtain ⟨scope, -, rfl⟩ := List.mem_map.1 h
  simp [belongsTo]

namespace Lifecycle

open Program

theorem createAll_runs {result : Except Fault Unit} (h : (createAll gs).Runs s talk result s') :
    ∃ made left, gs = made ++ left ∧
      Walks talk (made.map Grant.scope) (left.map Grant.scope) result ∧
      ∀ scope key,
        s'.grants scope key = (s.grants scope key).or (Grant.forPlace? made scope key) := by
  induction gs generalizing s talk with
  | nil =>
    obtain ⟨rfl, rfl, rfl⟩ := h.of_done
    exact ⟨[], [], rfl, ⟨rfl, .through upset_nil⟩, fun _ _ => Option.or_none.symm⟩
  | cons g gs ih =>
    obtain ⟨answer, s₁, rest, rfl, ⟨lawful, candid⟩, later⟩ := h.of_ask
    -- A grant that is there already is passed over just as if it had been created.
    have goes_on (quiet : ¬Turn.Upsets ⟨.call (.addGrant g), answer⟩)
        (step : ∀ scope key other, (s₁.grants scope key).or other = (s.grants scope key).or
          (if g.scope = scope ∧ g.name = key then some g else other))
        (later : (createAll gs).Runs s₁ rest result s') :
        ∃ made left, g :: gs = made ++ left ∧
          Walks (⟨.call (.addGrant g), answer⟩ :: rest) (made.map Grant.scope)
            (left.map Grant.scope) result ∧
          ∀ scope key,
            s'.grants scope key = (s.grants scope key).or (Grant.forPlace? made scope key) := by
      obtain ⟨made, left, rfl, walks, grants⟩ := ih later
      refine ⟨g :: made, left, rfl, ⟨?_, ?_⟩, fun scope key => ?_⟩
      · rw [List.filterMap_cons, walks.entered]
        rfl
      · exact walks.halts.cons quiet
      · rw [grants, step, Grant.forPlace?_cons]
    cases answer with
    | ok =>
      obtain ⟨free, rfl⟩ := lawful
      refine goes_on id (fun scope key other => ?_) later
      by_cases hp : g.scope = scope ∧ g.name = key
      · obtain ⟨rfl, rfl⟩ := hp
        simp [Scene.putGrant, free]
      · have hp' : ¬(scope = g.scope ∧ key = g.name) := fun h => hp ⟨h.1.symm, h.2.symm⟩
        simp [Scene.putGrant, hp, hp']
    | error f =>
      obtain rfl : s₁ = s := candid.inert _ _ rfl
      cases f with
      | alreadyExists message =>
        have stands := candid.taken g _ rfl rfl
        refine goes_on (fun upset => by cases upset) (fun scope key other => ?_) later
        by_cases hp : g.scope = scope ∧ g.name = key
        · obtain ⟨rfl, rfl⟩ := hp
          simp [Option.or_of_isSome stands]
        · rw [if_neg hp]
      | _ =>
        obtain ⟨rfl, rfl, rfl⟩ := later.of_done
        exact ⟨[], g :: gs, rfl, ⟨rfl, .stuck upset_nil rfl rfl⟩, fun _ _ => Option.or_none.symm⟩

end Lifecycle

def Scene.Loses (s s' : Scene) : Prop :=
  ∀ scope key g, s'.grants scope key = some g → s.grants scope key = some g

/-- So many grants are gone from their places. -/
def Scene.Frees (s s' : Scene) (count : Nat) : Prop :=
  ∃ places : List (String × String), places.length = count ∧ places.Nodup ∧
    ∀ scope key, (scope, key) ∈ places ↔
      (s.grants scope key).isSome ∧ s'.grants scope key = none

theorem Scene.frees_self : s.Frees s 0 := by
  refine ⟨[], rfl, List.nodup_nil, fun scope key => ?_⟩
  cases s.grants scope key <;> simp

theorem Scene.frees_dropGrant (stands : (s.grants scope key).isSome) :
    s.Frees (s.dropGrant scope key) 1 := by
  refine ⟨[(scope, key)], rfl, by simp, fun there gone => ?_⟩
  rw [List.mem_singleton, Prod.mk.injEq]
  constructor
  · rintro ⟨rfl, rfl⟩
    exact ⟨stands, if_pos ⟨rfl, rfl⟩⟩
  · rintro ⟨stands, free⟩
    by_contra hp
    have kept : (s.dropGrant scope key).grants there gone = s.grants there gone := if_neg hp
    rw [← kept, free] at stands
    cases stands

theorem Scene.Frees.trans {a b c : Scene} {m n : Nat} (first : a.Frees b m) (second : b.Frees c n)
    (hab : a.Loses b) (hbc : b.Loses c) : a.Frees c (m + n) := by
  obtain ⟨early, rfl, early_nodup, mem_early⟩ := first
  obtain ⟨late, rfl, late_nodup, mem_late⟩ := second
  refine ⟨early ++ late, List.length_append, List.nodup_append.2 ⟨early_nodup, late_nodup, ?_⟩, ?_⟩
  · rintro ⟨scope, key⟩ gone _ still rfl
    have stands := ((mem_late scope key).1 still).1
    rw [((mem_early scope key).1 gone).2] at stands
    cases stands
  · intro scope key
    rw [List.mem_append, mem_early, mem_late]
    constructor
    · rintro (⟨stands, free⟩ | ⟨stands, free⟩)
      · refine ⟨stands, Option.eq_none_iff_forall_ne_some.2 fun g hg => ?_⟩
        cases free.symm.trans (hbc scope key g hg)
      · obtain ⟨g, hg⟩ := Option.isSome_iff_exists.1 stands
        exact ⟨Option.isSome_iff_exists.2 ⟨g, hab scope key g hg⟩, free⟩
    · rintro ⟨stands, free⟩
      cases hb : b.grants scope key with
      | none => exact .inl ⟨stands, rfl⟩
      | some g => exact .inr ⟨rfl, free⟩

theorem heard_cons_removed {there gone : String} {answer : Except Fault Unit} :
    Heard (⟨.call (.removeGrant there gone), answer⟩ :: talk) (.removeGrant scope key) (.ok ()) ↔
      (scope = there ∧ key = gone ∧ answer = .ok ()) ∨
        Heard talk (.removeGrant scope key) (.ok ()) := by
  simp only [Heard, List.mem_cons]
  refine or_congr_left ⟨fun h => ?_, ?_⟩
  · cases h
    exact ⟨rfl, rfl, rfl⟩
  · rintro ⟨rfl, rfl, rfl⟩
    rfl

theorem heard_append {c : Call} {answer : Except Fault c.Answer} :
    Heard (before ++ talk) c answer ↔ Heard before c answer ∨ Heard talk c answer :=
  List.mem_append

theorem heard_cons_listed {grants : Except Fault (List Grant)} {there : String} :
    Heard (⟨.call (.grantsWithin there), grants⟩ :: talk) (.removeGrant scope key) (.ok ()) ↔
      Heard talk (.removeGrant scope key) (.ok ()) := by
  simp only [Heard, List.mem_cons]
  exact or_iff_right fun same => by cases same

namespace Lifecycle

open Program

structure Deletes (ns : String) (gs : List Grant) (s : Scene) (talk : List Turn)
    (result : Except Fault Nat) (s' : Scene) : Prop where
  entered : talk.filterMap Turn.enters? = []
  own : ∀ scope key, Heard talk (.removeGrant scope key) (.ok ()) →
    scope = ns ∧ ∃ g ∈ gs, g.name = key
  grants : ∀ scope key g, s'.grants scope key = some g ↔
    s.grants scope key = some g ∧ ¬Heard talk (.removeGrant scope key) (.ok ())
  through : ∀ n, result = .ok n → ¬Upset talk ∧ s.Frees s' n ∧
    ∀ g ∈ gs, s'.grants ns g.name = none
  stuck : ∀ f, result = .error f → ∀ left, Halts talk (ns :: left) result

namespace Deletes

variable {ns : String} {result : Except Fault Nat}

theorem loses (h : Deletes ns gs s talk result s') : s.Loses s' :=
  fun scope key g hg => ((h.grants scope key g).1 hg).1

theorem nil : Deletes ns [] s [] (.ok 0) s where
  entered := rfl
  own := nofun
  grants := by simp [Heard]
  through := by
    intro n hn
    cases hn
    exact ⟨upset_nil, Scene.frees_self, by simp⟩
  stuck := nofun

theorem cons {answer : Except Fault Unit} {s₁ : Scene} {removed : Nat}
    (quiet : ¬Turn.Upsets ⟨.call (.removeGrant ns g.name), answer⟩)
    (step : ∀ scope key g', s₁.grants scope key = some g' ↔
      s.grants scope key = some g' ∧ ¬(scope = ns ∧ key = g.name ∧ answer = .ok ()))
    (free : s₁.grants ns g.name = none) (count : s.Frees s₁ removed)
    (h : Deletes ns gs s₁ talk result s') :
    Deletes ns (g :: gs) s (⟨.call (.removeGrant ns g.name), answer⟩ :: talk)
      (result.map (· + removed)) s' where
  entered := h.entered
  own := by
    intro scope key heard
    cases heard_cons_removed.1 heard with
    | inl here => exact ⟨here.1, g, List.mem_cons_self, here.2.1.symm⟩
    | inr later =>
      obtain ⟨hs, g', hg', hk⟩ := h.own scope key later
      exact ⟨hs, g', List.mem_cons_of_mem g hg', hk⟩
  grants := by
    intro scope key g'
    rw [h.grants, step, heard_cons_removed, not_or, and_assoc]
  through := by
    intro n hn
    cases result with
    | error => cases hn
    | ok later =>
      cases hn
      obtain ⟨calm, rest, gone⟩ := h.through later rfl
      refine ⟨calm_cons quiet calm, ?_, List.forall_mem_cons.2 ⟨?_, gone⟩⟩
      · have loses : s.Loses s₁ := fun scope key g' hg' => ((step scope key g').1 hg').1
        change s.Frees s' (later + removed)
        rw [Nat.add_comm]
        exact count.trans rest loses h.loses
      · refine Option.eq_none_iff_forall_ne_some.2 fun g' hg' => ?_
        cases free.symm.trans (h.loses _ _ _ hg')
  stuck := by
    intro f hf left
    cases result with
    | ok => cases hf
    | error => exact (h.stuck _ rfl left).cons quiet

theorem failed {f : Fault} (upsets : f.isAbsent = false) :
    Deletes ns (g :: gs) s [⟨.call (.removeGrant ns g.name), .error f⟩] (.error f) s where
  entered := rfl
  own := by
    intro scope key heard
    cases heard_cons_removed.1 heard with
    | inl here => cases here.2.2
    | inr later => cases later
  grants := by simp [Heard]
  through := nofun
  stuck _ _ _ := .stuck upset_nil upsets rfl

end Deletes

theorem deleteAll_runs {ns : String} {result : Except Fault Nat}
    (h : (deleteAll ns gs).Runs s talk result s') :
    Deletes ns gs s talk result s' := by
  induction gs generalizing s talk result with
  | nil =>
    obtain ⟨rfl, rfl, rfl⟩ := h.of_done
    exact .nil
  | cons g gs ih =>
    obtain ⟨answer, s₁, rest, rfl, ⟨lawful, candid⟩, later⟩ := h.of_ask
    cases answer with
    | ok =>
      obtain ⟨stands, rfl⟩ := lawful
      obtain ⟨inner, first, rfl⟩ := later.of_map
      refine .cons id (fun scope key g' => ?_) (if_pos ⟨rfl, rfl⟩)
        (Scene.frees_dropGrant stands) (ih first)
      simp [Scene.grants_dropGrant, and_comm]
    | error f =>
      obtain rfl : s₁ = s := candid.inert _ _ rfl
      cases f with
      | notFound message =>
        have same : result = result.map (· + 0) := by cases result <;> rfl
        rw [same]
        refine .cons nofun (fun scope key g' => ?_) (candid.absent _ _ _ rfl rfl)
          Scene.frees_self (ih later)
        simp
      | _ =>
        obtain ⟨rfl, rfl, rfl⟩ := later.of_done
        exact .failed rfl

/-- What a run has done that takes back the grants of an owner: they are gone from the namespaces it
has done with, and from the one in which it got stuck those are gone that it was still able to
delete. -/
structure Revokes (owner : String) (handled left : List String) (s : Scene) (talk : List Turn)
    (result : Except Fault Nat) (s' : Scene) : Prop where
  walks : Walks talk handled left result
  grants : ∀ scope key g, s'.grants scope key = some g ↔ s.grants scope key = some g ∧
    ¬(g.belongsTo owner ∧ (scope ∈ handled ∨
      left.head? = some scope ∧ Heard talk (.removeGrant scope key) (.ok ())))
  count : ∀ n, result = .ok n → s.Frees s' n

section

variable {ns : String} {result : Except Fault Nat}

theorem Revokes.loses (h : Revokes owner handled left s talk result s') : s.Loses s' :=
  fun scope key g hg => ((h.grants scope key g).1 hg).1

theorem Deletes.owned (h : Deletes ns (gs.filter (·.belongsTo owner)) s talk result s')
    (listed : ∀ g, g ∈ gs ↔ s.grants ns g.name = some g) (hg : s.grants scope key = some g)
    (heard : Heard talk (.removeGrant scope key) (.ok ())) : scope = ns ∧ g.belongsTo owner := by
  obtain ⟨rfl, g', hmem, rfl⟩ := h.own scope key heard
  obtain ⟨hmem, ho⟩ := List.mem_filter.1 hmem
  cases hg.symm.trans ((listed g').1 hmem)
  exact ⟨rfl, ho⟩

theorem Deletes.grants_of_ok {n : Nat}
    (h : Deletes ns (gs.filter (·.belongsTo owner)) s talk (.ok n) s')
    (listed : ∀ g, g ∈ gs ↔ s.grants ns g.name = some g) :
    s'.grants scope key = some g ↔
      s.grants scope key = some g ∧ ¬(scope = ns ∧ g.belongsTo owner) := by
  rw [h.grants]
  refine and_congr_right fun hg => not_congr ⟨h.owned listed hg, ?_⟩
  rintro ⟨rfl, ho⟩
  obtain ⟨-, rfl⟩ := s.placed hg
  by_contra unheard
  have gone := (h.through n rfl).2.2 g (List.mem_filter.2 ⟨(listed g).2 hg, ho⟩)
  cases gone.symm.trans ((h.grants _ _ g).2 ⟨hg, unheard⟩)

theorem revokeIn_runs {scopes : List String} (h : (revokeIn owner scopes).Runs s talk result s') :
    ∃ handled left, scopes = handled ++ left ∧
      Revokes owner handled left s talk result s' := by
  induction scopes generalizing s talk result with
  | nil =>
    obtain ⟨rfl, rfl, rfl⟩ := h.of_done
    refine ⟨[], [], rfl, ⟨rfl, .through upset_nil⟩, by simp, fun n hn => ?_⟩
    cases hn
    exact Scene.frees_self
  | cons ns scopes ih =>
    cases h.of_call with
    | inr failed =>
      obtain ⟨f, rfl, rfl, rfl⟩ := failed
      refine ⟨[], ns :: scopes, rfl, ⟨rfl, .stuck upset_nil rfl rfl⟩, ?_, nofun⟩
      simp [Heard]
    | inl answered =>
      obtain ⟨grants, s₁, rest, rfl, ⟨listed, rfl⟩, later⟩ := answered
      cases later.of_bind with
      | inr failed =>
        obtain ⟨fault, first, rfl⟩ := failed
        have deletes := deleteAll_runs first
        refine ⟨[], ns :: scopes, rfl, ⟨?_, (deletes.stuck fault rfl scopes).cons id⟩, ?_, nofun⟩
        · rw [List.filterMap_cons, deletes.entered]
          rfl
        · intro scope key g
          rw [deletes.grants, heard_cons_listed]
          refine and_congr_right fun hg => not_congr ⟨fun heard => ?_, ?_⟩
          · obtain ⟨rfl, ho⟩ := deletes.owned listed hg heard
            exact ⟨ho, .inr ⟨rfl, heard⟩⟩
          · rintro ⟨-, handled | ⟨-, heard⟩⟩
            · cases handled
            · exact heard
      | inl parts =>
        obtain ⟨n, before, s₂, after, rfl, first, second⟩ := parts
        obtain ⟨inner, third, rfl⟩ := second.of_map
        have deletes := deleteAll_runs first
        obtain ⟨calm, count, -⟩ := deletes.through n rfl
        obtain ⟨handled, left, rfl, revokes⟩ := ih third
        refine ⟨ns :: handled, left, rfl, ⟨?_, ?_⟩, ?_, ?_⟩
        · rw [List.filterMap_cons, List.filterMap_append, deletes.entered, revokes.walks.entered]
          rfl
        · exact ((revokes.walks.halts.map).prepend calm).cons id
        · intro scope key g
          have here : Heard before (.removeGrant scope key) (.ok ()) → scope = ns :=
            fun heard => (deletes.own scope key heard).1
          rw [revokes.grants, deletes.grants_of_ok listed, heard_cons_listed, heard_append,
            List.mem_cons]
          tauto
        · intro m hm
          cases inner with
          | error => cases hm
          | ok others =>
            cases hm
            exact count.trans (revokes.count others rfl) deletes.loses revokes.loses

end

theorem createAll_seeks :
    (createAll gs).Seeks fun s scope key => (s.grants scope key).or (Grant.forPlace? gs scope key)
    where
  kept s talk result s' run := by
    obtain ⟨made, left, rfl, -, grants⟩ := createAll_runs run
    funext scope key
    rw [grants, Grant.forPlace?_append]
    cases s.grants scope key with
    | some => rfl
    | none => cases Grant.forPlace? made scope key <;> rfl
  met s talk a s' run := by
    obtain ⟨made, left, rfl, walks, grants⟩ := createAll_runs run
    have all : left = [] := List.map_eq_nil_iff.1 walks.halts.left_eq_nil
    funext scope key
    rw [grants, all, List.append_nil]
  still s talk result s' run there := by
    obtain ⟨made, left, rfl, -, grants⟩ := createAll_runs run
    funext scope key
    have here := congrFun (congrFun there scope) key
    rw [grants]
    cases hs : s.grants scope key with
    | some => rfl
    | none =>
      rw [hs, Option.none_or, Grant.forPlace?_append] at here
      rw [Option.none_or, (Option.or_eq_none_iff.1 here.symm).1]
  calm s talk result s' run calm := by
    obtain ⟨made, left, rfl, walks, -⟩ := createAll_runs run
    exact walks.halts.ok_iff.2 calm

theorem mem_scopes {there : Prop} (h : scope ∈ handled ∨ left.head? = some scope ∧ there) :
    scope ∈ handled ++ left := by
  cases h with
  | inl done => exact List.mem_append_left left done
  | inr stuck => exact List.mem_append_right handled (List.mem_of_mem_head? stuck.1)

theorem revokeIn_seeks {scopes : List String} :
    (revokeIn owner scopes).Seeks fun s scope key =>
      (s.grants scope key).filter fun g => !(g.belongsTo owner && scopes.contains scope) where
  kept s talk result s' run := by
    obtain ⟨handled, left, rfl, revokes⟩ := revokeIn_runs run
    funext scope key
    refine Option.ext fun g => ?_
    simp only [Option.filter_eq_some_iff, revokes.grants, and_assoc]
    refine and_congr_right fun _ => and_iff_right_of_imp fun stays taken => ?_
    simp [taken.1, List.mem_append.1 (mem_scopes taken.2)] at stays
  met s talk a s' run := by
    obtain ⟨handled, left, rfl, revokes⟩ := revokeIn_runs run
    have all : left = [] := revokes.walks.halts.left_eq_nil
    funext scope key
    refine Option.ext fun g => ?_
    cases ho : g.belongsTo owner <;> simp [Option.filter_eq_some_iff, revokes.grants, all, ho]
  still s talk result s' run there := by
    obtain ⟨handled, left, rfl, revokes⟩ := revokeIn_runs run
    funext scope key
    refine Option.ext fun g => ?_
    rw [revokes.grants]
    refine and_iff_left_of_imp fun hg taken => ?_
    rw [there, Option.filter_eq_some_iff] at hg
    simp [taken.1, List.mem_append.1 (mem_scopes taken.2)] at hg
  calm s talk result s' run calm := by
    obtain ⟨handled, left, rfl, revokes⟩ := revokeIn_runs run
    exact revokes.walks.halts.ok_iff.2 calm

structure Provides (r : Request) (handled left : List String) (s : Scene) (talk : List Turn)
    (result : Except Fault Unit) (s' : Scene) : Prop where
  walks : Walks talk handled left result
  grants : ∀ scope key g, s'.grants scope key = some g ↔ s.grants scope key = some g ∨
    s.grants scope key = none ∧ g ∈ Grant.ofRequest r ∧ g.scope = scope ∧ g.name = key ∧
      scope ∈ handled

theorem grantAll_runs {result : Except Fault Unit} (h : (grantAll r).Runs s talk result s') :
    ∃ handled left, r.spec.namespaces = handled ++ left ∧
      Provides r handled left s talk result s' := by
  obtain ⟨made, left, hgrants, walks, grants⟩ := createAll_runs h
  refine ⟨made.map Grant.scope, left.map Grant.scope, ?_, walks, fun scope key g => ?_⟩
  · rw [← List.map_append, ← hgrants, Grant.ofRequest, List.map_map]
    exact (List.map_id _).symm
  · have sub : ∀ g ∈ made, g ∈ Grant.ofRequest r := fun g hg =>
      hgrants ▸ List.mem_append_left left hg
    rw [grants, Option.or_eq_some_iff, Grant.forPlace?_eq_some sub]

theorem restored {s₁ s₂ : Scene} {talk' : List Turn} {n : Nat}
    (bare : ∀ scope key g, s.grants scope key = some g → ¬g.belongsTo r.name)
    (given : (grantAll r).Runs s talk (.ok ()) s₁)
    (taken : (revokeAll r).Runs s₁ talk' (.ok n) s₂) : s₂.grants = s.grants := by
  obtain ⟨handled, left, hs, provides⟩ := grantAll_runs given
  obtain ⟨handled', left', hs', revokes⟩ := revokeIn_runs taken
  obtain rfl := provides.walks.halts.left_eq_nil
  obtain rfl := revokes.walks.halts.left_eq_nil
  rw [List.append_nil] at hs hs'
  funext scope key
  refine Option.ext fun g => ?_
  rw [revokes.grants, provides.grants]
  constructor
  · rintro ⟨old | ⟨-, hg, rfl, -, hscope⟩, stays⟩
    · exact old
    · exact absurd ⟨Grant.belongsTo_of_mem hg, .inl (hs' ▸ hs ▸ hscope)⟩ stays
  · exact fun hg => ⟨.inl hg, fun taken => bare scope key g hg taken.1⟩

/-- Grants are created and taken back as far as nothing fails, and further attempts do the rest. -/
theorem grants_converge (r : Request) (owner : String) (scopes : List String) :
    (∀ s talk result s', (grantAll r).Runs s talk result s' →
      ((∃ a, result = .ok a) ↔ ¬Upset talk) ∧ ∃ handled left,
        r.spec.namespaces = handled ++ left ∧ Provides r handled left s talk result s') ∧
    (∀ s talk result s', (revokeIn owner scopes).Runs s talk result s' →
      ((∃ n, result = .ok n) ↔ ¬Upset talk) ∧ ∃ handled left,
        scopes = handled ++ left ∧ Revokes owner handled left s talk result s') ∧
    (grantAll r).Converges ∧ (revokeIn owner scopes).Converges ∧
    ∀ s talk s₁ talk' n s₂, (∀ scope key g, s.grants scope key = some g → ¬g.belongsTo r.name) →
      (grantAll r).Runs s talk (.ok ()) s₁ → (revokeAll r).Runs s₁ talk' (.ok n) s₂ →
      s₂.grants = s.grants := by
  refine ⟨fun s talk result s' run => ?_, fun s talk result s' run => ?_, ?_, ?_, ?_⟩
  · obtain ⟨handled, left, hscopes, provides⟩ := grantAll_runs run
    exact ⟨provides.walks.halts.ok_iff, handled, left, hscopes, provides⟩
  · obtain ⟨handled, left, hscopes, revokes⟩ := revokeIn_runs run
    exact ⟨revokes.walks.halts.ok_iff, handled, left, hscopes, revokes⟩
  · exact createAll_seeks.converges createAll_confined fun _ => .inl
  · exact revokeIn_seeks.converges revokeIn_confined fun _ => .inr
  · exact fun s talk s₁ talk' n s₂ bare given taken => restored bare given taken

end Lifecycle

namespace Sample

open Lifecycle Program

theorem candid_of_served {m : Moment} (served : ¬m.said.Fails) : m.Candid :=
  (Moment.Dutiful.of_all_known served).candid

theorem given : (grantAll (request awaiting)).Runs atStart [⟨.call (.addGrant grant), .ok ()⟩]
    (.ok ()) provided :=
  .said ⟨rfl, rfl⟩ (candid_of_served id) .ended

theorem taken : (revokeAll (request awaiting)).Runs provided
    [⟨.call (.grantsWithin "team-a"), .ok [grant]⟩,
      ⟨.call (.removeGrant "team-a" "jit-1-jit"), .ok ()⟩]
    (.ok 1) (provided.dropGrant "team-a" "jit-1-jit") :=
  .said ⟨provided_lists, rfl⟩ (candid_of_served id) <|
    .said ⟨rfl, rfl⟩ (candid_of_served id) .ended

theorem atStart_restored :
    (grantAll (request awaiting)).Converges ∧ (revokeIn "jit-1" ["team-a"]).Converges ∧
      (provided.dropGrant "team-a" "jit-1-jit").grants = atStart.grants := by
  have ⟨_, _, granting, revoking, back⟩ := grants_converge (request awaiting) "jit-1" ["team-a"]
  exact ⟨granting, revoking, back _ _ _ _ _ _ scene_bare given taken⟩

def second : Grant := { grant with name := "jit-1-more" }

def doubled : Scene := provided.putGrant second

theorem doubled_lists (g : Grant) :
    g ∈ [second, grant] ↔ doubled.grants "team-a" g.name = some g := by
  rw [List.mem_cons, provided_lists, doubled, Scene.grants_putGrant]
  constructor
  · rintro (rfl | hg)
    · exact .inl ⟨rfl, rfl, rfl⟩
    · refine .inr ⟨fun ⟨_, hn⟩ => ?_, hg⟩
      rw [hn] at hg
      cases hg
  · rintro (⟨-, -, rfl⟩ | ⟨-, hg⟩)
    · exact .inl rfl
    · exact .inr hg

def halved : Scene := doubled.dropGrant "team-a" "jit-1-more"

/-- What a failure leaves need not be what stood in a number of namespaces. -/
theorem revocation_can_stop_within :
    (revokeIn "jit-1" ["team-a"]).Runs doubled
      [⟨.call (.grantsWithin "team-a"), .ok [second, grant]⟩,
        ⟨.call (.removeGrant "team-a" "jit-1-more"), .ok ()⟩,
        ⟨.call (.removeGrant "team-a" "jit-1-jit"), .error (.external none "down")⟩]
      (.error (.external none "down")) halved ∧
    ∀ handled : List String, ¬∀ scope key g, halved.grants scope key = some g ↔
      doubled.grants scope key = some g ∧ ¬(g.belongsTo "jit-1" ∧ scope ∈ handled) := by
  constructor
  · refine .said ⟨doubled_lists, rfl⟩ (candid_of_served id) <|
      .said ⟨rfl, rfl⟩ (candid_of_served id) <| .said (.inl rfl) ⟨?_, ?_, ?_⟩ .ended
    · exact fun _ _ _ => Eq.refl halved
    · intro g f hf
      cases hf
    · intro scope key f hf absent
      cases hf
      cases absent
  · intro handled exact_removal
    by_cases h : "team-a" ∈ handled
    · have stands : halved.grants "team-a" "jit-1-jit" = some grant := rfl
      exact ((exact_removal _ _ _).1 stands).2 ⟨rfl, h⟩
    · have stood : doubled.grants "team-a" "jit-1-more" = some second := rfl
      cases (exact_removal _ _ _).2 ⟨stood, fun taken => h taken.2⟩

end Sample

end AccessWindow
