import AccessWindow.Proofs.Url.Place
import AccessWindow.Tracker.Service

namespace AccessWindow

open Http Text Url

namespace Url

variable {base u : Url} {known : Bool} {before names : List String} {name own : String}

theorem le_length_arrive (before : List String) (name : String) :
    before.length ≤ (arrive before name).length := by
  have shorter : before.length ≤ (back before ++ [""]).length := by
    rw [back]
    split
    · simp
    · rw [List.length_append, List.length_dropLast, List.length_singleton]
      omega
  rw [arrive]
  split
  · exact shorter
  split <;> simp

def opening (before : List String) : List String := if before = [""] then [] else before

theorem opening_of_ne (h : before ≠ [""]) : opening before = before := if_neg h

theorem eq_of_opening (h : opening before = names) (some : names ≠ []) : before = names := by
  rw [opening] at h
  split at h
  · exact absurd h.symm some
  · exact h

theorem enter_eq : enter known before name = arrive (opening before) (nameText known name) := rfl

structure Enters (known : Bool) (name : String) : Prop where
  text : nameText known name = name
  plain : isDots name = false
  some : name ≠ ""

theorem opening_foldl_enter (h : ∀ name ∈ names, Enters known name) :
    opening (names.foldl (enter known) before) = opening before ++ names := by
  induction names generalizing before with
  | nil => rw [List.foldl_nil, List.append_nil]
  | cons name names ih =>
    obtain ⟨enters, rest⟩ := List.forall_mem_cons.1 h
    have proper : opening before ++ [name] ≠ [] ++ [""] := fun same =>
      enters.some (List.singleton_inj.1 (List.append_inj' same rfl).2)
    rw [List.foldl_cons, ih rest, enter_eq, enters.text, arrive_of_plain enters.plain,
      opening_of_ne proper, List.append_assoc, List.singleton_append]

theorem foldl_enter {key : String} {front below : List String} (long : 2 ≤ front.length)
    (hfront : ∀ name ∈ front, Enters known name) (hbelow : ∀ name ∈ below, Enters known name) :
    (front ++ key :: below).foldl (enter known) before =
      arrive (opening before ++ front) (nameText known key) ++ below := by
  have le := le_length_arrive (opening before ++ front) (nameText known key)
  rw [List.length_append] at le
  have proper : arrive (opening before ++ front) (nameText known key) ≠ [""] := by
    intro same
    rw [same, List.length_singleton] at le
    omega
  refine eq_of_opening ?_ (List.append_ne_nil_of_left_ne_nil ?_ _)
  · rw [List.foldl_append, List.foldl_cons, opening_foldl_enter hbelow, enter_eq,
      opening_foldl_enter hfront, opening_of_ne proper]
  · intro none
    rw [none, List.length_nil] at le
    omega

theorem opening_closed : opening (closed before) = stem before ↔ before ≠ ["", ""] := by
  by_cases last : before.getLast? = some ""
  · obtain ⟨front, rfl⟩ := List.getLast?_eq_some_iff.1 last
    rw [stem, if_pos last, List.dropLast_concat, closed, last]
    cases front with
    | nil => simp [opening]
    | cons first rest =>
      have long : (first :: rest ++ [""]).length ≠ 1 ∧ some "" = some "" := by simp
      rw [if_pos long, List.dropLast_concat, opening]
      split
      · next same => simp [same]
      · next differ => simpa using differ
  · have whole : before ≠ [""] := fun same => last (same ▸ rfl)
    have other : before ≠ ["", ""] := fun same => last (same ▸ rfl)
    rw [stem, if_neg last, closed, if_neg fun h => last h.2, opening_of_ne whole]
    exact iff_of_true rfl other

theorem nameText_reads (known : Bool) (name : String) :
    Percent.decode (nameText known name).toList = Utf8.encodeChars (kept name.toList) := by
  rw [nameText, String.toList_ofList]
  cases known with
  | false => exact Percent.decode_encode (by decide)
  | true => exact Percent.decode_encode (by decide)

theorem nameText_spells (whole : kept name.toList = name.toList) :
    Spells (nameText known name) name := by
  have reads := nameText_reads known name
  have signs : ['/', '?', '#'].all fun c => !(if known then inKnownName else inName) c := by
    cases known <;> decide
  rw [whole, nameText, String.toList_ofList] at reads
  refine spells_of_encode (fun c _ keep hmem => ?_) reads
  have escaped := List.all_eq_true.1 signs c hmem
  rw [keep] at escaped
  cases escaped

theorem arrive_nameText_iff {key : String} {target : List String} (active : isIdle key = false)
    (reads : Percent.decode own.toList = Utf8.encode key) :
    arrive before (nameText known key) = target ++ [own] ↔
      before = target ∧ own = nameText known key ∧ kept key.toList = key.toList := by
  have proper {cs : List Char} (h : key.toList = cs) : isIdle (String.ofList cs) = false := by
    rw [← h, String.ofList_toList, active]
  cases dots : isDots (nameText known key) with
  | false =>
    rw [arrive_of_plain dots]
    constructor
    · intro h
      obtain ⟨rfl, same⟩ := List.append_inj' h rfl
      obtain rfl := List.singleton_inj.1 same
      exact ⟨rfl, rfl, encodeChars_injective ((nameText_reads known key).symm.trans reads)⟩
    · rintro ⟨rfl, rfl, -⟩
      rfl
  | true =>
    refine iff_of_false (fun h => ?_) ?_
    · -- dots leave nothing, and only the empty key is read from nothing
      obtain ⟨left, hleft⟩ : ∃ left, arrive before (nameText known key) = left ++ [""] :=
        arrive_of_dots dots
      rw [hleft] at h
      obtain rfl := List.singleton_inj.1 (List.append_inj' h rfl).2
      have nothing : [] = key.toList := encodeChars_injective reads
      cases proper nothing.symm
    · rintro ⟨-, rfl, -⟩
      cases dots_of_reads dots reads with
      | inl h => cases proper h
      | inr h => cases proper h

end Url

namespace Tracker

variable {t : Tracker} {key : String} {below : List String} {attempt : Except Fault Url} {u : Url}

inductive Asks (t : Tracker) : String → List String → Except Fault Url → Prop
  | comment (key body : String) :
      Asks t key ["comment"] ((t.commentOn key body).map (·.request.url))
  | transition (key id : String) :
      Asks t key ["transitions"] ((t.transition key id).map (·.request.url))
  | state (key : String) : Asks t key [] ((t.stateOfTicket key).map (·.request.url))

/-- The address is below that of the tracker, by the names that lead to the ticket. -/
def AtIssue (t : Tracker) (key : String) (below : List String) (u : Url) : Prop :=
  ∃ own, Spells own key ∧ t.base.Continues (["rest", "api", "2", "issue", own] ++ below) u

theorem Asks.enters (asks : t.Asks key below attempt) (known : Bool) :
    ∀ name ∈ below, Enters known name ∧ isIdle name = false := by
  have single {last : String} (h : Enters known last ∧ isIdle last = false) :
      ∀ name ∈ [last], Enters known name ∧ isIdle name = false :=
    fun _ hname => List.mem_singleton.1 hname ▸ h
  cases asks with
  | comment | transition =>
    refine single ⟨⟨?_, by decide, by decide⟩, by decide⟩
    cases known <;> decide
  | state => exact fun _ hname => by cases hname

structure Posts (send : Url → Except Fault Url) : Prop where
  sent : ∀ v, v.hasHost → ∃ query, send v = .ok { v with query }
  lost : ∀ v, v.hasHost = false → ∃ message, send v = .error (.external none message)

theorem posts_exchange {α : Type} {context method : String} {body : Option Json}
    {interpret : Response → Except Fault α} {ask : Url → Url} {place : Except Fault Url}
    (asks : ∀ v, ∃ query, ask v = { v with query }) : ∃ send, Posts send ∧
      (do
        let v ← place
        t.exchange context method (ask v) body interpret : Except Fault (Exchange α)).map
          (·.request.url) = place >>= send := by
  have outcome (v : Url) : ∃ message query,
      (t.exchange context method (ask v) body interpret).map (·.request.url) =
        if v.hasHost then .ok { v with query } else .error (.external none message) := by
    obtain ⟨query, same⟩ := asks v
    obtain ⟨message, h⟩ := @Exchange.prepare_url α context method (ask v)
      (some (basic t.username t.token)) body interpret
    refine ⟨message, query, h.trans ?_⟩
    rw [same]
    simp [hasHost]
  refine ⟨fun v => (t.exchange context method (ask v) body interpret).map (·.request.url), ?_, ?_⟩
  · constructor
    · intro v host
      obtain ⟨message, query, h⟩ := outcome v
      exact ⟨query, h.trans (if_pos host)⟩
    · intro v host
      obtain ⟨message, query, h⟩ := outcome v
      exact ⟨message, h.trans (if_neg (by simp [host]))⟩
  · cases place <;> rfl

theorem Asks.posts (asks : t.Asks key below attempt) : ∃ send, Posts send ∧
    attempt = t.base.within (issuePath key ++ below) >>= send := by
  cases asks with
  | comment | transition => exact posts_exchange fun v => ⟨v.query, rfl⟩
  | state => exact posts_exchange fun v => ⟨_, rfl⟩

theorem within_issue (hbelow : ∀ name ∈ below, isIdle name = false) :
    t.base.within (issuePath key ++ below) =
      if isIdle key then .error (.invalid ("invalid URL path segment '" ++ key ++ "'"))
      else match t.base.extend? (issuePath key ++ below) with
        | some v => .ok v
        | none => .error (.internal ("base URL '" ++ t.base.text ++ "' cannot carry a path")) := by
  have front : ∀ name ∈ ["rest", "api", "2", "issue"], isIdle name = false := by decide
  have find : (issuePath key ++ below).find? isIdle = if isIdle key then some key else none := by
    have none : below.find? isIdle = none := by
      rw [List.find?_eq_none]
      exact fun name hname => by simp [hbelow name hname]
    rw [show issuePath key ++ below = ["rest", "api", "2", "issue"] ++ (key :: below) from rfl,
      List.find?_append, List.find?_eq_none.2 fun name hname => by simp [front name hname],
      List.find?_cons, none]
    cases isIdle key <;> rfl
  rw [within, find]
  cases isIdle key <;> rfl

structure Open (t : Tracker) : Prop where
  rooted : ∃ names, t.base.path = .rooted names
  host : t.base.hasHost

def way (t : Tracker) (before : List String) (key : String) (below : List String) : List String :=
  arrive (opening (closed before) ++ ["rest", "api", "2", "issue"])
    (nameText (isKnown t.base.scheme) key) ++ below

theorem extend?_issue {before : List String} (rooted : t.base.path = .rooted before)
    (hbelow : ∀ name ∈ below, Enters (isKnown t.base.scheme) name) :
    t.base.extend? (issuePath key ++ below) =
      some { t.base with path := .rooted (t.way before key below) } := by
  have front : ∀ name ∈ ["rest", "api", "2", "issue"], Enters (isKnown t.base.scheme) name := by
    intro name hname
    constructor
    · cases isKnown t.base.scheme <;> revert name <;> decide
    · revert name
      decide
    · revert name
      decide
  have names : (["rest", "api", "2", "issue"] ++ key :: below).foldl (enter (isKnown t.base.scheme))
      (closed before) = t.way before key below := foldl_enter (by decide) front hbelow
  rw [extend?, rooted, ← names]
  rfl

theorem Asks.outcome (asks : t.Asks key below attempt) :
    (isIdle key ∧ ∃ message, attempt = .error (.invalid message)) ∨
    (isIdle key = false ∧ ¬t.Open ∧ ∃ f, attempt = .error f ∧ ∀ message, f ≠ .invalid message) ∨
    (isIdle key = false ∧ t.Open ∧ ∃ before query, t.base.path = .rooted before ∧
      attempt = .ok { t.base with path := .rooted (t.way before key below), query }) := by
  obtain ⟨send, posts, rfl⟩ := asks.posts
  have enters := asks.enters (isKnown t.base.scheme)
  rw [within_issue fun name hname => (enters name hname).2]
  cases idle : isIdle key with
  | true => exact .inl ⟨rfl, _, rfl⟩
  | false =>
    right
    cases hpath : t.base.path with
    | loose text =>
      have none : t.base.extend? (issuePath key ++ below) = none := by rw [extend?, hpath]
      rw [none]
      refine .inl ⟨rfl, fun opened => ?_, _, rfl, nofun⟩
      obtain ⟨names, rooted⟩ := opened.rooted
      cases hpath.symm.trans rooted
    | rooted before =>
      rw [extend?_issue hpath fun name hname => (enters name hname).1]
      cases host : t.base.hasHost with
      | false =>
        obtain ⟨message, lost⟩ := posts.lost
          { t.base with path := .rooted (t.way before key below) } host
        refine .inl ⟨rfl, fun opened => ?_, _, lost, nofun⟩
        cases host.symm.trans opened.host
      | true =>
        obtain ⟨query, sent⟩ := posts.sent
          { t.base with path := .rooted (t.way before key below) } host
        exact .inr ⟨rfl, ⟨⟨before, hpath⟩, host⟩, before, query, rfl, sent⟩

theorem way_eq_iff {before : List String} {own : String} (active : isIdle key = false)
    (reads : Percent.decode own.toList = Utf8.encode key) :
    t.way before key below = stem before ++ (["rest", "api", "2", "issue", own] ++ below) ↔
      before ≠ ["", ""] ∧ own = nameText (isKnown t.base.scheme) key ∧
        kept key.toList = key.toList := by
  have split : stem before ++ (["rest", "api", "2", "issue", own] ++ below) =
      stem before ++ ["rest", "api", "2", "issue"] ++ [own] ++ below := by simp
  rw [way, split, List.append_cancel_right_eq, arrive_nameText_iff active reads,
    List.append_cancel_right_eq, opening_closed]

/-- A request about a ticket is refused just if its key is no name, and else sent if the tracker is
open. It reaches the ticket if and only if there are no line ends and tabs in the key, unless the
path of the tracker is nothing but two slashes. -/
theorem ticket_reached_iff (asks : t.Asks key below attempt) :
    ((∃ message, attempt = .error (.invalid message)) ↔ isIdle key) ∧
    ((∃ u, attempt = .ok u) ↔ isIdle key = false ∧ t.Open) ∧
    ∀ u, attempt = .ok u → (t.AtIssue key below u ↔
      t.base.path ≠ .rooted ["", ""] ∧ ∀ c ∈ key.toList, isDropped c = false) := by
  obtain ⟨idle, message, rfl⟩ | ⟨active, closed, f, rfl, hf⟩ |
    ⟨active, opened, before, query, rooted, rfl⟩ := asks.outcome
  · exact ⟨iff_of_true ⟨message, rfl⟩ idle, iff_of_false nofun fun h => by simp [idle] at h, nofun⟩
  · exact ⟨iff_of_false (fun ⟨message, h⟩ => hf message (Except.error.inj h)) (by simp [active]),
      iff_of_false nofun fun h => closed h.2, nofun⟩
  · refine ⟨iff_of_false nofun (by simp [active]), iff_of_true ⟨_, rfl⟩ ⟨active, opened⟩, ?_⟩
    rintro u ⟨⟩
    rw [← kept_eq_self, rooted, Ne, Path.rooted.injEq]
    constructor
    · rintro ⟨own, spells, front, query, fragment, hfront, same⟩
      obtain rfl := Path.rooted.inj (rooted.symm.trans hfront)
      have names := Path.rooted.inj (congrArg Url.path same)
      obtain ⟨wide, -, whole⟩ := (way_eq_iff active spells.reads).1 names
      exact ⟨wide, whole⟩
    · rintro ⟨wide, whole⟩
      have spells : Spells (nameText (isKnown t.base.scheme) key) key := nameText_spells whole
      have names : t.way before key below = stem before ++ _ :=
        (way_eq_iff active spells.reads).2 ⟨wide, rfl, whole⟩
      exact ⟨_, spells, before, query, t.base.fragment, rooted, by rw [← names]⟩

namespace Sample

def tracker : Tracker where
  base := ⟨"https", none, some "tracker.example", none, .rooted ["jira", ""], none, none⟩
  username := "bot"
  token := "secret"

theorem tracker_open : tracker.Open := ⟨⟨_, rfl⟩, by decide⟩

theorem escaped_key_reached : ∃ attempt, tracker.Asks "../IAM?1%2f" ["comment"] attempt ∧
    ∃ u, attempt = .ok u ∧ tracker.AtIssue "../IAM?1%2f" ["comment"] u := by
  have asks : tracker.Asks "../IAM?1%2f" ["comment"] _ := .comment "../IAM?1%2f" "done"
  obtain ⟨-, sent, reached⟩ := ticket_reached_iff asks
  obtain ⟨u, h⟩ := sent.2 ⟨by decide +kernel, tracker_open⟩
  exact ⟨_, asks, u, h, (reached u h).2 ⟨by decide, kept_eq_self.1 (by decide)⟩⟩

/-- A key that is dots but for a line end is taken for a name, and leads away from all tickets. -/
theorem split_dots_stray : isIdle ".\n." = false ∧
    ∃ u, (tracker.transition ".\n." "21").map (·.request.url) = .ok u ∧
      u.path = .rooted ["jira", "rest", "api", "2", "", "transitions"] ∧
      ¬tracker.AtIssue ".\n." ["transitions"] u := by
  refine ⟨by decide +kernel, _, rfl, ?_⟩
  rw [and_iff_left_of_imp]
  · decide +kernel
  · rintro hpath ⟨own, spells, before, query, fragment, rooted, same⟩
    obtain rfl : ["jira", ""] = before := Path.rooted.inj rooted
    have names := Path.rooted.inj (hpath.symm.trans (congrArg Url.path same))
    simp [stem] at names

end Sample

end Tracker

end AccessWindow
