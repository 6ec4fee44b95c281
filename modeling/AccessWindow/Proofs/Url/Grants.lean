import AccessWindow.Cluster.Service
import AccessWindow.Proofs.Url.Place
import AccessWindow.Proofs.Verdict
import Mathlib.Data.List.Forall2

namespace AccessWindow

open Http Url Text

namespace Url

/-- A name that may be written into a reference as it is. -/
structure Direct (known : Bool) (name : String) : Prop extends Passes known name.toList where
  unmarked : ∀ c ∈ name.toList, c ∉ ['?', '#', '\t', '\n', '\r']

variable {known : Bool} {base u : Url} {reference path name own : String} {before : List String}
  {cs scope : List Char} {below : List (List Char)} {mark : Char}

theorem direct_iff : Direct known name ↔ Passes known name.toList ∧
    '?' ∉ name.toList ∧ '#' ∉ name.toList ∧ kept name.toList = name.toList := by
  have marks : (∀ c ∈ name.toList, c ∉ ['?', '#', '\t', '\n', '\r']) ↔
      '?' ∉ name.toList ∧ '#' ∉ name.toList ∧ kept name.toList = name.toList := by
    rw [kept_eq_self]
    constructor
    · refine fun h => ⟨fun hc => h _ hc (by decide), fun hc => h _ hc (by decide), fun c hc => ?_⟩
      have clear := h c hc
      simp only [List.mem_cons, List.not_mem_nil, or_false, not_or] at clear
      simp [isDropped, clear]
    · rintro ⟨query, fragment, firm⟩ c hc (_ | ⟨_, _ | ⟨_, hmem⟩⟩)
      · exact query hc
      · exact fragment hc
      · have dropped : ∀ c ∈ ['\t', '\n', '\r'], isDropped c :=
          List.all_eq_true.1 (by decide)
        exact Bool.false_ne_true ((firm c hc).symm.trans (dropped c hmem))
  rw [← marks]
  exact ⟨fun h => ⟨h.toPasses, h.unmarked⟩, fun h => ⟨h.1, h.2⟩⟩

theorem Direct.spells (h : Direct known name) : Spells (written name.toList) name := by
  refine spells_of_encode (fun c hc _ hmem => ?_) ?_
  · obtain ⟨-, query, fragment, -⟩ := direct_iff.1 h
    rcases hmem with _ | ⟨_, _ | ⟨_, _ | ⟨_, ⟨⟩⟩⟩⟩
    · exact h.single hc
    · exact query hc
    · exact fragment hc
  · have reads := h.toPasses.reads
    rw [written, String.toList_ofList] at reads
    exact reads

theorem below_eq_ok : base.below path = .ok u ↔ base.follow path = .ok u := by
  rw [Url.below]
  cases base.follow path <;> simp

end Url

namespace Cluster

variable {c : Cluster} {known : Bool} {scope name : String} {below before : List String}
  {attempt : Except Fault Url} {u : Url} {cs tail : List Char} {further : List (List Char)}
  {mark : Char}

/-- What is asked about the grants of a namespace, with the name of a grant if it is about one, and
where the request is sent if it is. -/
inductive Asks (c : Cluster) : String → List String → Except Fault Url → Prop
  | add (g : Grant) : Asks c g.scope [] ((c.addGrant g).map (·.request.url))
  | list (scope : String) : Asks c scope [] ((c.grantsWithin scope).map (·.request.url))
  | remove (scope name : String) :
      Asks c scope [name] ((c.removeGrant scope name).map (·.request.url))

structure Open (c : Cluster) : Prop where
  rooted : ∃ names, c.base.path = .rooted names
  host : c.base.hasHost
  token : (bearer? c.token).isSome

/-- The address is below that of the cluster, by the names that lead to the grants of the namespace
and a further one if there is one below. -/
def AtGrants (c : Cluster) (scope : String) (below : List String) (u : Url) : Prop :=
  ∃ own under, Spells own scope ∧ List.Forall₂ Spells under below ∧
    c.base.Continues (["apis", accessGroup, "v1", "namespaces", own, "rolebindings"] ++ under) u ∧
    u.query = none ∧ u.fragment = none

def collection : List String := ["apis", accessGroup, "v1", "namespaces"]

def front : List Char := ("apis/" ++ accessGroup ++ "/v1/namespaces").toList

def route (cs : List Char) (further : List (List Char)) : List Char :=
  front ++ '/' :: (cs ++ '/' :: ("rolebindings".toList ++ further.flatMap ('/' :: ·)))

theorem mark_not_mem_route (h : mark ∈ ['?', '#']) :
    mark ∉ route cs further ↔ mark ∉ cs ∧ ∀ name ∈ further, mark ∉ name := by
  have absent : ∀ mark ∈ ['?', '#'],
      mark ∉ front ∧ mark ≠ '/' ∧ mark ∉ "rolebindings".toList :=
    List.forall_mem_cons.2 ⟨by decide, List.forall_mem_singleton.2 (by decide)⟩
  simp only [route, List.mem_append, List.mem_cons, List.mem_flatMap, absent mark h, false_or,
    not_or, not_exists, not_and]

theorem namesOf_route : namesOf known (route cs further) =
    collection ++ namesOf known cs ++ "rolebindings" :: further.flatMap (namesOf known) := by
  have first : namesOf known front = collection := by
    cases known <;> decide +kernel
  have last : namesOf known "rolebindings".toList = ["rolebindings"] := by
    cases known <;> decide +kernel
  rw [route, namesOf_append, namesOf_append, namesOf_flatMap, first, last, List.append_assoc]
  rfl

theorem foldl_pass_collection : (collection ++ namesOf known cs).foldl pass before =
    (namesOf known cs).foldl pass (before ++ collection) := by
  have plain : ∀ name ∈ collection, isDots name = false := by decide
  rw [List.foldl_append, foldl_pass_of_plain plain]

theorem clean_front : clean (String.ofList (front ++ '/' :: cs ++ '/' :: tail)) =
    front ++ '/' :: kept cs ++ '/' :: kept (trimEnd tail) := by
  have firm : ∀ ch ∈ (front ++ '/' :: cs).head?, isEdge ch = false := by
    have first : front.head? = some 'a' := by decide
    rw [List.head?_append, first]
    rintro ch ⟨⟩
    rfl
  have whole : kept front = front := by decide
  rw [clean_eq firm, kept_append_cons (by decide), whole]

theorem grantsPath_toList :
    (grantsPath scope).toList = front ++ '/' :: scope.toList ++ '/' :: "rolebindings".toList := by
  simp only [grantsPath, front, String.toList_append, List.append_assoc]
  rfl

theorem clean_grantsPath : clean (grantsPath scope) = route (kept scope.toList) [] := by
  have last : kept (trimEnd "rolebindings".toList) = "rolebindings".toList := by decide
  rw [← String.ofList_toList (s := grantsPath scope), grantsPath_toList, clean_front, last, route,
    List.flatMap_nil, List.append_nil, List.append_assoc]
  rfl

theorem clean_grantPath : clean (grantsPath scope ++ "/" ++ name) =
    route (kept scope.toList) [kept (trimEnd name.toList)] := by
  have text : grantsPath scope ++ "/" ++ name = String.ofList
      (front ++ '/' :: (scope.toList ++ '/' :: "rolebindings".toList) ++ '/' :: name.toList) := by
    rw [← String.toList_inj, String.toList_append, String.toList_append, grantsPath_toList,
      String.toList_ofList]
    simp
  have last : kept "rolebindings".toList = "rolebindings".toList := by decide
  rw [text, clean_front, kept_append_cons (by decide), last, route, List.flatMap_singleton]
  simp

theorem Asks.sent_iff (asks : c.Asks scope below attempt) : ∃ reference,
    clean reference = route (kept scope.toList) (below.map fun name => kept (trimEnd name.toList)) ∧
    ∀ u, attempt = .ok u ↔
      c.base.follow reference = .ok u ∧ u.hasHost ∧ (bearer? c.token).isSome := by
  have sent {α : Type} {path context method : String} {body : Option Json}
      {interpret : Response → Except Fault α} (u : Url) :
      (do
        let url ← c.base.below path
        c.exchange context method url body interpret : Except Fault (Exchange α)).map
          (·.request.url) = .ok u ↔
      c.base.follow path = .ok u ∧ u.hasHost ∧ (bearer? c.token).isSome := by
    rw [← below_eq_ok]
    cases hurl : c.base.below path with
    | error f => simp [bind, Except.bind, Except.map]
    | ok url =>
      obtain ⟨message, outcome⟩ : ∃ message, (c.exchange context method url body interpret).map
            (·.request.url) =
          if url.hasHost ∧ (bearer? c.token).isSome then .ok url
          else .error (.external none message) := Exchange.prepare_url
      change (c.exchange context method url body interpret).map (·.request.url) = .ok u ↔ _
      rw [outcome, Except.ok.injEq]
      split
      · next opened =>
        rw [Except.ok.injEq]
        exact ⟨fun same => ⟨same, same ▸ opened⟩, And.left⟩
      · next closed => exact iff_of_false nofun fun h => closed (h.1 ▸ h.2)
  cases asks with
  | add g => exact ⟨_, clean_grantsPath, sent⟩
  | list scope => exact ⟨_, clean_grantsPath, sent⟩
  | remove scope name => exact ⟨_, clean_grantPath, sent⟩

theorem foldl_scope_iff {own : String} (reads : Percent.decode own.toList = Utf8.encode scope) :
    (collection ++ namesOf known (kept scope.toList)).foldl pass before.dropLast =
        stem before ++ collection ++ [own] ↔
      before.dropLast = stem before ∧ kept scope.toList = scope.toList ∧
        own = written scope.toList ∧ Passes known scope.toList := by
  have short : (before.dropLast ++ collection).length ≤ (stem before ++ collection).length := by
    have le : before.dropLast.length ≤ (stem before).length := by
      rw [stem]
      split
      · exact Nat.le_refl _
      · exact (List.dropLast_sublist before).length_le
    rw [List.length_append, List.length_append]
    exact Nat.add_le_add_right le _
  rw [foldl_pass_collection, foldl_pass_eq_iff (kept_sublist _) short reads,
    List.append_cancel_right_eq]

theorem walk_route {own : String} : walk before.dropLast (namesOf known (route cs [])) =
      stem before ++ (collection ++ [own, "rolebindings"]) ↔
    (collection ++ namesOf known cs).foldl pass before.dropLast =
      stem before ++ collection ++ [own] := by
  rw [namesOf_route, List.flatMap_nil, walk_append, arrive_of_plain (by decide),
    show stem before ++ (collection ++ [own, "rolebindings"]) =
      stem before ++ collection ++ [own] ++ ["rolebindings"] by simp,
    List.append_cancel_right_eq]

theorem walk_grant_iff {own last : String} (reads : Percent.decode last.toList = Utf8.encode name) :
    walk before.dropLast
          (namesOf known (route cs [kept (trimEnd name.toList)])) =
        stem before ++ (collection ++ [own, "rolebindings", last]) ↔
      (collection ++ namesOf known cs).foldl pass before.dropLast =
          stem before ++ collection ++ [own] ∧
        kept (trimEnd name.toList) = name.toList ∧ last = written name.toList ∧
          Passes known name.toList := by
  have sub : (kept (trimEnd name.toList)).Sublist name.toList :=
    (kept_sublist _).trans (trimEnd_sublist _)
  have some : namesOf known (kept (trimEnd name.toList)) ≠ [] := by
    rw [namesOf_eq, Ne, List.map_eq_nil_iff]
    exact pieces_ne_nil _ _
  rw [namesOf_route, List.flatMap_singleton, List.append_cons, walk_further some,
    List.foldl_append, List.foldl_cons, List.foldl_nil, pass_of_plain (by decide),
    show stem before ++ (collection ++ [own, "rolebindings", last]) =
      (stem before ++ collection ++ [own] ++ ["rolebindings"]) ++ [last] by simp,
    walk_eq_iff sub reads, List.append_cancel_right_eq]

theorem Asks.below_cases (asks : c.Asks scope below attempt) :
    below = [] ∨ ∃ name, below = [name] := by
  cases asks with
  | add | list => exact .inl rfl
  | remove scope name => exact .inr ⟨name, rfl⟩

theorem Asks.leads_iff {own : String} {under : List String} (asks : c.Asks scope below attempt)
    (own_spells : Spells own scope) (under_spell : List.Forall₂ Spells under below) :
    walk before.dropLast (namesOf known
          (route (kept scope.toList) (below.map fun name => kept (trimEnd name.toList)))) =
        stem before ++ (["apis", accessGroup, "v1", "namespaces", own, "rolebindings"] ++ under) ↔
      before.dropLast = stem before ∧
        (own = written scope.toList ∧ kept scope.toList = scope.toList ∧
          Passes known scope.toList) ∧
        under = below.map (written ·.toList) ∧
          ∀ name ∈ below, kept (trimEnd name.toList) = name.toList ∧ Passes known name.toList := by
  obtain rfl | ⟨name, rfl⟩ := asks.below_cases
  · obtain rfl := List.forall₂_nil_right_iff.1 under_spell
    refine walk_route.trans ((foldl_scope_iff own_spells.reads).trans ?_)
    simp only [List.map_nil, List.not_mem_nil, false_imp_iff, implies_true, and_true]
    rw [and_left_comm (b := own = _)]
  · obtain ⟨last, rest, last_spells, none, rfl⟩ := List.forall₂_cons_right_iff.1 under_spell
    obtain rfl := List.forall₂_nil_right_iff.1 none
    refine (walk_grant_iff last_spells.reads).trans ?_
    rw [foldl_scope_iff own_spells.reads]
    simp only [List.map_singleton, List.cons.injEq, and_true, List.mem_singleton, forall_eq]
    constructor
    · rintro ⟨⟨folder, whole, rfl, passes⟩, trimmed, rfl, last_passes⟩
      exact ⟨folder, ⟨rfl, whole, passes⟩, rfl, trimmed, last_passes⟩
    · rintro ⟨folder, ⟨rfl, whole, passes⟩, rfl, trimmed, last_passes⟩
      exact ⟨⟨folder, whole, rfl, passes⟩, trimmed, rfl, last_passes⟩

/-- A request about the grants of a namespace is sent if the cluster is open. It reaches these
grants if and only if the cluster is at a folder and the names need no escape. -/
theorem grants_reached_iff (asks : c.Asks scope below attempt) :
    ((∃ u, attempt = .ok u) ↔ c.Open) ∧ ∀ u, attempt = .ok u →
      (c.AtGrants scope below u ↔ c.base.IsFolder ∧ Direct (isKnown c.base.scheme) scope ∧
        ∀ name ∈ below, Direct (isKnown c.base.scheme) name ∧
          ∀ ch ∈ name.toList.getLast?, isEdge ch = false) := by
  obtain ⟨reference, text, sent⟩ := asks.sent_iff
  constructor
  · constructor
    · rintro ⟨u, h⟩
      obtain ⟨led, host, token⟩ := (sent u).1 h
      exact ⟨exists_follow_iff.1 ⟨u, led⟩, hasHost_of_follow led ▸ host, token⟩
    · intro opened
      obtain ⟨u, led⟩ := exists_follow_iff.2 opened.rooted
      exact ⟨u, (sent u).2 ⟨led, (hasHost_of_follow led).symm ▸ opened.host, opened.token⟩⟩
  · intro u h
    obtain ⟨led, -, -⟩ := (sent u).1 h
    obtain ⟨before, rooted⟩ := exists_follow_iff.1 ⟨u, led⟩
    rw [isFolder_iff rooted]
    constructor
    · rintro ⟨own, under, own_spells, under_spell, reached⟩
      obtain ⟨noQuery, noFragment, leads⟩ := (follow_continues_iff rooted led).1 reached
      rw [text, mark_not_mem_route (by decide)] at noQuery noFragment
      rw [text, asks.leads_iff own_spells under_spell] at leads
      obtain ⟨folder, ⟨-, whole, passes⟩, -, each⟩ := leads
      rw [whole] at noQuery noFragment
      refine ⟨folder, direct_iff.2 ⟨passes, noQuery.1, noFragment.1, whole⟩, fun name hname => ?_⟩
      obtain ⟨trimmed, name_passes⟩ := each name hname
      have query := noQuery.2 _ (List.mem_map_of_mem hname)
      have fragment := noFragment.2 _ (List.mem_map_of_mem hname)
      rw [trimmed] at query fragment
      obtain ⟨name_whole, last⟩ := kept_trimEnd_eq_self.1 trimmed
      exact ⟨direct_iff.2 ⟨name_passes, query, fragment, name_whole⟩, last⟩
    · rintro ⟨folder, direct, each⟩
      have under_spell : List.Forall₂ Spells (below.map (written ·.toList)) below :=
        List.forall₂_map_left_iff.2 <| List.forall₂_same.2 fun name hname =>
          (each name hname).1.spells
      have trimmed (name : String) (hname : name ∈ below) :
          kept (trimEnd name.toList) = name.toList :=
        kept_trimEnd_eq_self.2 ⟨(direct_iff.1 (each name hname).1).2.2.2, (each name hname).2⟩
      obtain ⟨passes, query, fragment, whole⟩ := direct_iff.1 direct
      refine ⟨_, _, direct.spells, under_spell, (follow_continues_iff rooted led).2 ?_⟩
      rw [text, mark_not_mem_route (by decide), mark_not_mem_route (by decide),
        asks.leads_iff direct.spells under_spell, whole]
      refine ⟨⟨query, ?_⟩, ⟨fragment, ?_⟩, folder, ⟨rfl, rfl, passes⟩, rfl, fun name hname => ?_⟩
      · refine List.forall_mem_map.2 fun name hname => ?_
        rw [trimmed name hname]
        exact (direct_iff.1 (each name hname).1).2.1
      · refine List.forall_mem_map.2 fun name hname => ?_
        rw [trimmed name hname]
        exact (direct_iff.1 (each name hname).1).2.2.1
      · exact ⟨trimmed name hname, (each name hname).1.toPasses⟩

namespace Sample

def cluster : Cluster where
  base := ⟨"https", none, some "cluster.example", none, .rooted ["k8s", ""], none, none⟩
  token := "secret"
  requestScope := "default"
  eventScope := "default"
  rulebookName := "jitgate-config"

theorem cluster_open : cluster.Open := ⟨⟨_, rfl⟩, by decide, by decide⟩

theorem removal_reached : ∃ attempt, cluster.Asks "team-a" ["jit-1-jit"] attempt ∧
    ∃ u, attempt = .ok u ∧ cluster.AtGrants "team-a" ["jit-1-jit"] u := by
  have asks : cluster.Asks "team-a" ["jit-1-jit"] _ := .remove "team-a" "jit-1-jit"
  obtain ⟨sent, reached⟩ := grants_reached_iff asks
  obtain ⟨u, h⟩ := sent.2 cluster_open
  have direct : ∀ name ∈ ["team-a", "jit-1-jit"], Direct (isKnown cluster.base.scheme) name := by
    intro name hname
    refine direct_iff.2 ⟨⟨?_, ?_, Percent.decode_eq_iff.1 ?_, ?_⟩, ?_⟩
    all_goals
      revert name
      decide
  refine ⟨_, asks, u, h, (reached u h).2 ⟨(isFolder_iff rfl).2 rfl, direct _ (by simp), ?_⟩⟩
  intro name hname
  obtain rfl := List.mem_singleton.1 hname
  have last : "jit-1-jit".toList.getLast? = some 't' := by decide
  refine ⟨direct _ (by simp), ?_⟩
  rw [last]
  rintro ch ⟨⟩
  rfl

def astray : Request where
  name := "jit-1"
  uid := "u-1"
  version := some "1"
  spec := { Hook.Sample.spec with namespaces := ["team-a/../kube-system"], labels := .empty }
  status := .initial

theorem astray_admissible :
    Validator.Admissible Hook.Sample.answers ⟨true, false⟩ astray.spec Hook.Sample.edition :=
  { Hook.Sample.spec_admissible with scope := ⟨nofun, nofun⟩ }

/-- A request that is let in can be given access in a namespace that it does not name. -/
theorem admitted_grant_can_stray :
    Validator.Admissible Hook.Sample.answers ⟨true, false⟩ astray.spec Hook.Sample.edition ∧
      ∃ g ∈ Grant.ofRequest astray, ∃ u, (cluster.addGrant g).map (·.request.url) = .ok u ∧
        u.path = .rooted ["k8s", "apis", accessGroup, "v1", "namespaces", "kube-system",
          "rolebindings"] ∧
        ¬cluster.AtGrants g.scope [] u := by
  refine ⟨astray_admissible, _, List.mem_map_of_mem List.mem_cons_self, _, rfl, ?_⟩
  rw [and_iff_left_of_imp]
  · decide +kernel
  · rintro hpath ⟨own, under, own_spells, under_spell, ⟨before, query, fragment, rooted, same⟩, -⟩
    obtain rfl := List.forall₂_nil_right_iff.1 under_spell
    obtain rfl : ["k8s", ""] = before := Path.rooted.inj rooted
    -- the name of the namespace is there only as the end of the text
    have names := Path.rooted.inj (hpath.symm.trans (congrArg Url.path same))
    obtain rfl : "kube-system" = own := by simpa [stem] using names
    have reads := own_spells.reads
    revert reads
    decide

end Sample

end Cluster

end AccessWindow
