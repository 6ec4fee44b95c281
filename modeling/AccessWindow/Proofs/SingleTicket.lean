import AccessWindow.Proofs.Progress

namespace AccessWindow

open Lifecycle

variable {others : Scene → Scene → Prop} {s s' : Scene} {m : Moment}
  {ms before after : List Moment} {name : String} {past : List Turn} {r q held : Request}
  {e : Edition} {u : Request.Update} {v : Visit name} {draft : Ticket.Draft}

def Turn.opened? : Turn → Option String
  | ⟨.call (.raiseTicket _), .ok key⟩ => some key
  | _ => none

def Visit.opened (v : Visit name) : List String := v.moments.filterMap (·.said.opened?)

def openedKeys (vs : List (Visit name)) : List String := vs.flatMap Visit.opened

def Visit.RecordsTicket (v : Visit name) : Prop :=
  ∀ before m after key, v.moments = before ++ m :: after → m.said.opened? = some key →
    ∃ m ∈ after, ∃ w stored, m.said = ⟨.call (.putStatus w), .ok stored⟩

def Request.Status.Ticketless (status : Request.Status) : Prop :=
  status.phase = .fresh ∧ status.ticket = .unassigned

theorem Lifecycle.Decides.not_ticketless (h : Decides past r e u) :
    ¬(held.record u).status.Ticketless := by
  intro hu
  obtain ⟨hp, ht⟩ := hu
  cases h with
  | opened => cases ht
  | _ => cases hp

theorem Turn.exists_of_opened? {x : Turn} {key : String} (h : x.opened? = some key) :
    ∃ draft, x.1 = .call (.raiseTicket draft) := by
  obtain ⟨op, answer⟩ := x
  cases op with
  | call c =>
    cases answer with
    | error => cases c <;> cases h
    | ok =>
      cases c with
      | raiseTicket draft => exact ⟨draft, rfl⟩
      | _ => cases h
  | _ => cases h

def Inquired (name : String) (past : List Turn) (r : Request) (e : Edition) (account : String) :
    Prop :=
  past = [⟨.call (.requestNamed name), .ok r⟩, ⟨.edition, some e⟩,
    ⟨.call (.accountOf r.spec.reporter), .ok account⟩]

theorem Inquired.found {account : String} (h : Inquired name past r e account) :
    Found name past r e := by
  rw [h]
  exact List.prefix_append [_, _] _

namespace Visit

theorem inquired (hv : v.moments = before ++ m :: after)
    (hop : m.op = .call (.raiseTicket draft)) :
    ∃ r e account, Inquired name (before.map Moment.said) r e account ∧ r.status.Ticketless ∧
      draft = .ofRequest r.spec account e := by
  have permitted := v.permitted hv
  rw [hop] at permitted
  cases permitted with
  | raise hpast review hu => exact ⟨_, _, _, hpast, ⟨review.fresh, hu⟩, rfl⟩

theorem length_before_opened {key : String} (hv : v.moments = before ++ m :: after)
    (hk : m.said.opened? = some key) : before.length = 3 := by
  obtain ⟨draft, hop⟩ := Turn.exists_of_opened? hk
  obtain ⟨r, e, account, hpast, -⟩ := v.inquired hv hop
  simpa using congrArg List.length hpast

theorem opened_cases :
    v.opened = [] ∨ ∃ before m after key, v.moments = before ++ m :: after ∧
      m.said.opened? = some key ∧ v.opened = [key] := by
  cases hkeys : v.opened with
  | nil => exact .inl rfl
  | cons key keys =>
    obtain ⟨before, m, after, hv, -, hk, hrest⟩ := List.filterMap_eq_cons_iff.1 hkeys
    cases keys with
    | nil => exact .inr ⟨before, m, after, key, hv, hk, rfl⟩
    | cons key' keys =>
      obtain ⟨between, m', later, rfl, -, hk', -⟩ := List.filterMap_eq_cons_iff.1 hrest
      have hv' : v.moments = (before ++ m :: between) ++ m' :: later := by simp [hv]
      have first := v.length_before_opened hv hk
      have second := v.length_before_opened hv' hk'
      rw [List.length_append, List.length_cons] at second
      omega

end Visit

def Scene.Attended (s : Scene) (name : String) : Prop :=
  ∀ q, s.requests name = some q → ¬q.status.Ticketless

namespace Course

theorem attended (h : Course others s v.moments s')
    (status : ∀ {a b}, others a b → a.KeepsStatus name b)
    (hs : s.Attended name ∨ ∃ m ∈ v.moments, ∃ w stored,
      m.said = ⟨.call (.putStatus w), .ok stored⟩) : s'.Attended name := by
  have written {m : Moment} {status : Request.Status} (hm : m ∈ v.moments)
      (hw : m.Writes name status) : ¬status.Ticketless := by
    obtain ⟨w, hop, -, rfl⟩ := hw
    obtain ⟨before, after, hv⟩ := List.append_of_mem hm
    obtain ⟨r, e, -, -, u, held, rfl, -, dec, -⟩ := v.found_of_write hv hop
    exact dec.not_ticketless
  intro q hq
  cases hs with
  | inl hs =>
    obtain ⟨old, hold, hstatus⟩ := h.status_before status hq
    cases hstatus with
    | inl same => exact same ▸ hs old hold
    | inr hw =>
      obtain ⟨m, hm, hw⟩ := hw
      exact written hm hw
  | inr stores =>
    obtain ⟨m, hm, w, stored, hsaid⟩ := stores
    have hop : m.op = .call (.putStatus w) := congrArg Sigma.fst hsaid
    obtain ⟨before, after, hv⟩ := List.append_of_mem hm
    obtain ⟨-, -, -, hn, -⟩ := v.found_of_write hv hop
    rw [hv] at h
    obtain ⟨old, hold, hstatus⟩ := h.split.2.status_before status hq
    cases hstatus with
    | inl same =>
      rw [same, m.written hsaid (hn ▸ hold)]
      exact written hm ⟨w, hop, hn, rfl⟩
    | inr hw =>
      obtain ⟨m', hm', hw⟩ := hw
      exact written (by simp [hv, hm']) hw

theorem opened_eq_nil (h : Course others s v.moments s')
    (status : ∀ {a b}, others a b → a.KeepsStatus name b) (hs : s.Attended name) :
    v.opened = [] := by
  cases v.opened_cases with
  | inl h => exact h
  | inr opened =>
    obtain ⟨before, m, after, key, hv, hk, -⟩ := opened
    obtain ⟨draft, hop⟩ := Turn.exists_of_opened? hk
    obtain ⟨r, e, account, hpast, hr, -⟩ := v.inquired hv hop
    obtain ⟨old, hold, hstatus⟩ := h.found_status status (v.found_whole hv hpast.found)
    exact absurd (hstatus ▸ hr) (hs old hold)

end Course

theorem History.opened_once {vs : List (Visit name)} (h : History others s vs s')
    (status : ∀ {a b}, others a b → a.KeepsStatus name b)
    (records : ∀ v ∈ vs, v.RecordsTicket) :
    (openedKeys vs).length ≤ 1 ∧ (openedKeys vs = [] ∨ s'.Attended name) := by
  induction h with
  | start => exact ⟨Nat.zero_le 1, .inl rfl⟩
  | @visit vs s₁ v s₂ _ course ih =>
    have ⟨earlier, last⟩ := List.forall_mem_append.1 records
    have ⟨once, before⟩ := ih earlier
    rw [openedKeys, List.flatMap_append, List.flatMap_singleton]
    change (openedKeys vs ++ v.opened).length ≤ 1 ∧ (openedKeys vs ++ v.opened = [] ∨ _)
    cases before with
    | inr attended =>
      rw [course.opened_eq_nil status attended, List.append_nil]
      exact ⟨once, .inr (course.attended status (.inl attended))⟩
    | inl none =>
      rw [none, List.nil_append]
      cases v.opened_cases with
      | inl hnil => exact ⟨hnil ▸ Nat.zero_le 1, .inl hnil⟩
      | inr opened =>
        obtain ⟨before, m, after, key, hv, hk, hkeys⟩ := opened
        -- the step that is put on record keeps later visits from finding it without a ticket
        obtain ⟨m', hm', stores⟩ := last v (by simp) before m after key hv hk
        refine ⟨hkeys ▸ Nat.le_refl 1, .inr (course.attended status (.inr ⟨m', ?_, stores⟩))⟩
        simp [hv, hm']

/-- As long as the key of a ticket that is opened is put on record, no second ticket is opened. A
ticket is only asked for when the request was found fresh and without one, and its reporter has an
account. -/
theorem at_most_one_ticket {vs : List (Visit name)} (h : History others s vs s')
    (status : ∀ {a b}, others a b → a.KeepsStatus name b)
    (records : ∀ v ∈ vs, v.RecordsTicket) :
    (openedKeys vs).length ≤ 1 ∧
      ∀ v ∈ vs, ∀ before m after draft, v.moments = before ++ m :: after →
        m.op = .call (.raiseTicket draft) →
        ∃ r e account, Inquired name (before.map Moment.said) r e account ∧
          r.status.Ticketless ∧ draft = .ofRequest r.spec account e := by
  refine ⟨(h.opened_once status records).1, ?_⟩
  intro v _ before m after draft hv hop
  exact v.inquired hv hop

namespace Sample

def contested : Visit "jit-1" where
  keeper := keeper
  lastKnown := []
  moments := submitted.moments.take 4 ++ [
    ⟨submission, .call (.putStatus ((request .initial).record ticketing)),
      .error (.conflict "stale"), submission, .inl rfl⟩,
    ⟨submission, .sleep 2000000000, (), submission, rfl⟩] ++
    submitted.moments.take 1 ++ submitted.moments.drop 4
  result := some (.error (.external none "down"))
  talk := Program.dialogue_of_replay (by decide +kernel)

def accepting : Request.Update := ⟨.preApproved, Ticket.preApprovalMessage, .issue "IAM-1"⟩

def accepted : Request := { ticketed.record accepting with version := some "3" }

def reviewed : Visit "jit-1" where
  keeper := keeper
  lastKnown := []
  moments := [
    ⟨underReview, .call (.requestNamed "jit-1"), .ok ticketed, underReview, rfl, rfl⟩,
    ⟨underReview, .edition, some edition, underReview, rfl, rfl⟩,
    submitted.moments[5],
    ⟨underReview, .call (.commentOn "IAM-1"
        (Ticket.preApprovedNote Sample.spec edition.rulebook.comment)), .ok (), underReview, rfl⟩,
    ⟨underReview, .call (.publishEvent ⟨"jit-1", "u1", .preApproved,
      "ClusterRole 'edit' is allowed\nJira: IAM-1"⟩), .ok (), underReview, rfl⟩,
    ⟨underReview, .call (.putStatus (ticketed.record accepting)), .ok accepted,
      underReview.putRequest accepted, ticketed, some "3", rfl, rfl, rfl⟩]
  result := some (.ok (.again 86340000000000))
  talk := Program.dialogue_of_replay (by decide +kernel)

theorem contested_records : contested.RecordsTicket := by
  intro before m after key hv hk
  have hlen := contested.length_before_opened hv hk
  have hafter : contested.moments.drop 4 = after := by
    rw [hv, ← List.singleton_append, ← List.append_assoc]
    exact List.drop_left' (by simp [hlen])
  have stored : contested.moments[7] ∈ contested.moments.drop 4 :=
    List.mem_drop_iff_getElem.2 ⟨3, by decide, rfl⟩
  rw [hafter] at stored
  exact ⟨_, stored, _, _, rfl⟩

theorem reviewed_records : reviewed.RecordsTicket := by
  intro before m after key hv hk
  have opened : reviewed.opened = [] := rfl
  have hm : m ∈ reviewed.moments := by simp [hv]
  rw [List.filterMap_eq_nil_iff.1 opened m hm] at hk
  cases hk

theorem contested_opened_once :
    (openedKeys [contested, reviewed]).length ≤ 1 ∧
      ∀ v ∈ [contested, reviewed], ∀ before m after draft, v.moments = before ++ m :: after →
        m.op = .call (.raiseTicket draft) →
        ∃ r e account, Inquired "jit-1" (before.map Moment.said) r e account ∧
          r.status.Ticketless ∧ draft = .ofRequest r.spec account e := by
  have first : Course (Scene.Undisturbed "jit-1") submission contested.moments underReview :=
    .next .refl <| .next .refl <| .next .refl <| .next .refl <| .next .refl <| .next .refl <|
      .next .refl <| .next .refl <| .next .refl <| .next .refl <| .last .refl
  have second : Course (Scene.Undisturbed "jit-1") underReview reviewed.moments
      (underReview.putRequest accepted) :=
    .next .refl <| .next .refl <| .next .refl <| .next .refl <| .next .refl <| .next .refl <|
      .last .refl
  have history : History (Scene.Undisturbed "jit-1") submission ([contested] ++ [reviewed])
      (underReview.putRequest accepted) :=
    .visit (.visit .start first) second
  exact at_most_one_ticket history Scene.Undisturbed.status
    (by simpa using ⟨contested_records, reviewed_records⟩)

end Sample

end AccessWindow
