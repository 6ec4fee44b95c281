import AccessWindow.Proofs.Conduct.Failure
import AccessWindow.Proofs.Conduct.Smooth

namespace AccessWindow

open Lifecycle Program

variable {talk said : List Turn} {name key : String} {lastKnown : List String}
  {r held stored : Request} {e : Edition} {keeper : Keeper} {outcome : Outcome}

def Request.awaits (r : Request) : Option Instant :=
  match r.status.phase with
  | .preApproved => some r.opens
  | .succeeded | .unrecognized _ => some r.closes
  | .fresh | .rejected => none

theorem Enters.lands {phase : Phase} (h : Enters phase stored talk) : Lands phase talk := by
  obtain ⟨before, w, rfl, -, hw⟩ := h
  exact ⟨before, w, stored, rfl, hw⟩

theorem Lands.cons {phase : Phase} {x : Turn} (h : Lands phase talk) : Lands phase (x :: talk) :=
  (h.prepend : Lands phase ([x] ++ talk))

namespace Lifecycle

def Removes (gone : String) (talk : List Turn) : Prop :=
  ∃ before answer, talk = before ++ [⟨.call (.removeRequest gone), answer⟩]

theorem Removes.prepend {gone : String} (h : Removes gone talk) : Removes gone (said ++ talk) := by
  obtain ⟨before, answer, rfl⟩ := h
  exact ⟨said ++ before, answer, by simp⟩

theorem Removes.cons {gone : String} {x : Turn} (h : Removes gone talk) :
    Removes gone (x :: talk) :=
  (h.prepend : Removes gone ([x] ++ talk))

theorem removeRequest_removes (d : (removeRequest r).Dialogue talk (some (.ok outcome))) :
    outcome = .done ∧ Removes r.name talk := by
  obtain ⟨answer, rest, rfl, later⟩ := d.of_ask
  have last : rest = [] ∧ outcome = .done := by
    split at later
    · obtain ⟨rfl, he⟩ := later.of_done
      cases he
      exact ⟨rfl, rfl⟩
    · obtain ⟨rfl, he⟩ := later.of_done
      cases he
      exact ⟨rfl, rfl⟩
    · cases later.of_done.2
  obtain ⟨rfl, rfl⟩ := last
  exact ⟨rfl, [], answer, rfl⟩

theorem clearRejected_removes (d : (clearRejected r e).Dialogue talk (some (.ok outcome))) :
    outcome = .done ∧ Removes r.name talk := by
  obtain ⟨count, said, rest, rfl, -, second⟩ := d.of_bind_ok
  split at second
  · obtain ⟨_, said', rest, rfl, -, third⟩ := second.of_bind_ok
    obtain ⟨rfl, removes⟩ := removeRequest_removes third
    exact ⟨rfl, removes.prepend.prepend⟩
  · obtain ⟨rfl, removes⟩ := removeRequest_removes second
    exact ⟨rfl, removes.prepend⟩

inductive Lapses (r : Request) (talk : List Turn) : Outcome → Prop
  | waiting {t delay} : talk = [⟨.clock, t⟩] → r.closes.until? t = some delay →
      Lapses r talk (.again delay)
  | removed : Removes r.name talk → Lapses r talk .done

theorem expire_lapses (d : (expire r).Dialogue talk (some (.ok outcome))) :
    Lapses r talk outcome := by
  obtain ⟨t, rest, rfl, later⟩ := d.of_perform
  split at later
  · next delay hu =>
    obtain ⟨rfl, he⟩ := later.of_done
    cases he
    exact .waiting rfl hu
  · obtain ⟨count, said, rest, rfl, -, last⟩ := later.of_bind_ok
    obtain ⟨rfl, removes⟩ := removeRequest_removes last
    exact .removed removes.prepend.cons

inductive Reviewed (held : Request) (talk : List Turn) : Outcome → Prop
  | accepted {t delay} : Lands .preApproved talk → (⟨.clock, t⟩ : Turn) ∈ talk →
      held.spec.start.until? t = some delay → Reviewed held talk (.again delay)
  | refused : Lands .rejected talk → Reviewed held talk .done

theorem Reviewed.prepend (h : Reviewed held talk outcome) :
    Reviewed held (said ++ talk) outcome := by
  cases h with
  | accepted lands ht hu => exact .accepted lands.prepend (List.mem_append_right said ht) hu
  | refused lands => exact .refused lands.prepend

theorem Reviewed.cons {x : Turn} (h : Reviewed held talk outcome) :
    Reviewed held (x :: talk) outcome :=
  (h.prepend : Reviewed held ([x] ++ talk) outcome)

namespace Keeper

theorem reject_lands {reason : Event.Reason} {message : String} {ticket : TicketLink}
    (d : (keeper.reject r reason message ticket).Dialogue talk (some (.ok outcome))) :
    outcome = .done ∧ Lands .rejected talk := by
  obtain ⟨_, said, rest, rfl, -, second⟩ := d.of_bind_ok
  obtain ⟨stored, written, rest, rfl, third, last⟩ := second.of_bind_ok
  obtain ⟨rfl, he⟩ := last.of_done
  cases he
  exact ⟨rfl, by simpa using (record_enters third).lands.prepend⟩

theorem reject_reviewed {reason : Event.Reason} {message : String} {ticket : TicketLink}
    (d : (keeper.reject r reason message ticket).Dialogue talk (some (.ok outcome))) :
    Reviewed held talk outcome := by
  obtain ⟨rfl, lands⟩ := reject_lands d
  exact .refused lands

theorem awaitWindow_reviewed
    (d : (keeper.awaitWindow r key e).Dialogue talk (some (.ok outcome))) :
    Reviewed r talk outcome := by
  obtain ⟨t, rest, rfl, later⟩ := d.of_perform
  split at later
  · exact (reject_reviewed later).cons
  · next delay hu =>
    obtain ⟨⟨⟩, noted, rfl, second⟩ := later.of_call_ok
    obtain ⟨_, told, rest, rfl, -, third⟩ := second.of_bind_ok
    obtain ⟨stored, written, rest, rfl, fourth, last⟩ := third.of_bind_ok
    obtain ⟨rfl, he⟩ := last.of_done
    cases he
    have lands : Lands .preApproved (told ++ written) := (record_enters fourth).lands.prepend
    refine .accepted ?_ List.mem_cons_self hu
    rw [List.append_nil]
    exact lands.cons.cons

theorem judge_reviewed (d : (keeper.judge r key e).Dialogue talk (some (.ok outcome))) :
    Reviewed r talk outcome := by
  rw [judge] at d
  split at d
  · exact reject_reviewed d
  · split at d
    · exact reject_reviewed d
    · obtain ⟨violation, said, rest, rfl, -, second⟩ := d.of_bind_ok
      cases violation with
      | some v => exact (reject_reviewed second).prepend
      | none => exact (awaitWindow_reviewed second).prepend

theorem review_reviewed (d : (keeper.review r e).Dialogue talk (some (.ok outcome))) :
    (outcome = .done ∧ Removes r.name talk) ∨
      ∃ held, (held = r ∨ ∃ x ∈ talk, x.record? = some held) ∧ Reviewed held talk outcome := by
  rw [review] at d
  split at d
  · exact .inl (clearRejected_removes d)
  · refine .inr ?_
    split at d
    · exact ⟨r, .inl rfl, reject_reviewed d⟩
    · split at d
      · exact ⟨r, .inl rfl, judge_reviewed d⟩
      · obtain ⟨asked, said, rest, rfl, first, second⟩ := d.of_bind_ok
        cases asked with
        | some opened =>
          obtain ⟨before, w, rfl, -⟩ := requestApproval_enters first
          have stored : (⟨.call (.putStatus w), .ok opened.1⟩ : Turn) ∈
              before ++ [⟨.call (.putStatus w), .ok opened.1⟩] ++ rest := by simp
          exact ⟨opened.1, .inr ⟨_, stored, rfl⟩, (judge_reviewed second).prepend⟩
        | none =>
          obtain ⟨rfl, he⟩ := second.of_done
          cases he
          refine ⟨r, .inl rfl, .refused ?_⟩
          obtain ⟨account, said', rest, rfl, -, third⟩ := first.of_bind_ok
          cases account with
          | none =>
            obtain ⟨outcome, said, rest, rfl, fourth, last⟩ := third.of_bind_ok
            obtain ⟨rfl, -⟩ := last.of_done
            simpa using ((reject_lands fourth).2.prepend : Lands .rejected (said' ++ said))
          | some account =>
            obtain ⟨_, _, rfl, fourth⟩ := third.of_call_ok
            obtain ⟨_, _, _, -, -, last⟩ := fourth.of_bind_ok
            cases last.of_done.2

end Keeper

def Grants (talk : List Turn) (outcome : Outcome) : Prop :=
  ∃ before w stored after, talk = before ++ ⟨.call (.putStatus w), .ok stored⟩ :: after ∧
    w.status.phase = .succeeded ∧ Lapses stored after outcome

theorem Grants.prepend (h : Grants talk outcome) : Grants (said ++ talk) outcome := by
  obtain ⟨before, w, stored, after, rfl, hw, lapses⟩ := h
  exact ⟨said ++ before, w, stored, after, by simp, hw, lapses⟩

theorem Grants.cons {x : Turn} (h : Grants talk outcome) : Grants (x :: talk) outcome :=
  (h.prepend : Grants ([x] ++ talk) outcome)

inductive Opened (r : Request) (talk : List Turn) : Outcome → Prop
  | waiting {t delay} : talk = [⟨.clock, t⟩] → r.opens.until? t = some delay →
      Opened r talk (.again delay)
  | granted {outcome : Outcome} : Grants talk outcome → Opened r talk outcome
  | rejected : Lands .rejected talk → Opened r talk .done

namespace Keeper

theorem recordAccess_grants (d : (keeper.recordAccess r).Dialogue talk (some (.ok outcome))) :
    Grants talk outcome := by
  obtain ⟨stored, said, rest, rfl, first, second⟩ := d.of_bind_ok
  obtain ⟨before, w, rfl, -, hw⟩ := record_enters first
  exact ⟨before, w, stored, rest, by simp, hw, expire_lapses second⟩

theorem unapproved_opened (d : (do
    if ← holdsGrant r then
      keeper.giveAccess r
      keeper.recordAccess r
    else
      keeper.reject r .ticketNotApproved "Jira ticket has not been approved"
        r.status.ticket).Dialogue talk (some (.ok outcome))) :
    Grants talk outcome ∨ (outcome = .done ∧ Lands .rejected talk) := by
  obtain ⟨holds, said, rest, rfl, -, second⟩ := d.of_bind_ok
  split at second
  · obtain ⟨_, given, rest, rfl, -, third⟩ := second.of_bind_ok
    exact .inl (recordAccess_grants third).prepend.prepend
  · obtain ⟨rfl, lands⟩ := reject_lands second
    exact .inr ⟨rfl, lands.prepend⟩

theorem openWindow_opened (d : (keeper.openWindow r e).Dialogue talk (some (.ok outcome))) :
    Opened r talk outcome := by
  have opened_of {t : Instant} {rest : List Turn}
      (h : Grants rest outcome ∨ (outcome = .done ∧ Lands .rejected rest)) :
      Opened r (⟨.clock, t⟩ :: rest) outcome := by
    cases h with
    | inl grants => exact .granted grants.cons
    | inr rejected =>
      obtain ⟨rfl, lands⟩ := rejected
      exact .rejected lands.cons
  obtain ⟨t, rest, rfl, later⟩ := d.of_perform
  split at later
  · next delay hu =>
    obtain ⟨rfl, he⟩ := later.of_done
    cases he
    exact .waiting rfl hu
  · apply opened_of
    cases hk : r.status.ticket.key? with
    | none =>
      rw [hk] at later
      exact unapproved_opened later
    | some key =>
      rw [hk] at later
      obtain ⟨approved, asked, rest, rfl, -, second⟩ := later.of_bind_ok
      dsimp only at second
      split at second
      · obtain ⟨_, given, rest, rfl, -, third⟩ := second.of_bind_ok
        obtain ⟨_, finished, rest, rfl, -, last⟩ := third.of_bind_ok
        exact .inl (recordAccess_grants last).prepend.prepend.prepend
      · exact (unapproved_opened second).imp Grants.prepend (.imp_right Lands.prepend)

end Keeper

inductive Upshot (name : String) (talk : List Turn) : Outcome → Prop
  | gone : Missed name talk → Upshot name talk .done
  | waiting {r : Request} {e : Edition} {target t delay} : r.awaits = some target →
      talk = [⟨.call (.requestNamed name), .ok r⟩, ⟨.edition, some e⟩, ⟨.clock, t⟩] →
      target.until? t = some delay → Upshot name talk (.again delay)
  | accepted {r held : Request} {e : Edition} {x t delay} : Found name talk r e →
      r.status.phase = .fresh → Lands .preApproved talk → x ∈ talk → x.record? = some held →
      (⟨.clock, t⟩ : Turn) ∈ talk → held.spec.start.until? t = some delay →
      Upshot name talk (.again delay)
  | granted {r stored : Request} {e : Edition} {before w t delay} : Found name talk r e →
      r.status.phase = .preApproved →
      talk = before ++ [⟨.call (.putStatus w), .ok stored⟩, ⟨.clock, t⟩] →
      w.status.phase = .succeeded → stored.closes.until? t = some delay →
      Upshot name talk (.again delay)
  | rejected {r : Request} {e : Edition} : Found name talk r e →
      r.status.phase = .fresh ∨ r.status.phase = .preApproved → Lands .rejected talk →
      Upshot name talk .done
  | removed {r : Request} {e : Edition} {gone} : Found name talk r e → Removes gone talk →
      Upshot name talk .done

namespace Keeper

theorem proceed_upshot (d : (keeper.proceed r e).Dialogue talk (some (.ok outcome))) :
    Upshot name (⟨.call (.requestNamed name), .ok r⟩ :: ⟨.edition, some e⟩ :: talk) outcome := by
  have found : Found name (⟨.call (.requestNamed name), .ok r⟩ :: ⟨.edition, some e⟩ :: talk) r e :=
    List.prefix_append [_, _] talk
  have removed {gone : String} (removes : Removes gone talk) :
      Upshot name (⟨.call (.requestNamed name), .ok r⟩ :: ⟨.edition, some e⟩ :: talk) .done :=
    .removed found removes.cons.cons
  have lapsed (hp : r.status.phase = .succeeded ∨ ∃ phase, r.status.phase = .unrecognized phase)
      (lapses : Lapses r talk outcome) :
      Upshot name (⟨.call (.requestNamed name), .ok r⟩ :: ⟨.edition, some e⟩ :: talk) outcome := by
    have awaits : r.awaits = some r.closes := by
      rcases hp with hp | ⟨phase, hp⟩ <;> simp [Request.awaits, hp]
    cases lapses with
    | waiting ht hu => exact .waiting awaits (by rw [ht]) hu
    | removed removes => exact removed removes
  rw [proceed] at d
  split at d
  · obtain ⟨rfl, removes⟩ := clearRejected_removes d
    exact removed removes
  · next hp =>
    cases review_reviewed d with
    | inl gone =>
      obtain ⟨rfl, removes⟩ := gone
      exact removed removes
    | inr reviewed =>
      obtain ⟨held, hheld, reviewed⟩ := reviewed
      cases reviewed with
      | refused lands => exact .rejected found (.inl hp) lands.cons.cons
      | accepted lands ht hu =>
        cases hheld with
        | inl hheld =>
          subst hheld
          exact .accepted found hp lands.cons.cons List.mem_cons_self rfl (by simp [ht]) hu
        | inr brought =>
          obtain ⟨x, hx, hr⟩ := brought
          exact .accepted found hp lands.cons.cons (by simp [hx]) hr (by simp [ht]) hu
  · next hp =>
    cases openWindow_opened d with
    | waiting ht hu =>
      have awaits : r.awaits = some r.opens := by simp [Request.awaits, hp]
      exact .waiting awaits (by rw [ht]) hu
    | rejected lands => exact .rejected found (.inr hp) lands.cons.cons
    | granted grants =>
      obtain ⟨before, w, stored, after, rfl, hw, lapses⟩ := grants
      cases lapses with
      | waiting ht hu =>
        subst ht
        exact .granted found hp (List.append_assoc
          [⟨.call (.requestNamed name), .ok r⟩, ⟨.edition, some e⟩] before _).symm hw hu
      | removed removes =>
        exact removed removes.cons.prepend
  · next hp => exact lapsed (.inl hp) (expire_lapses d)
  · next hp => exact lapsed (.inr ⟨_, hp⟩) (expire_lapses d)

theorem reconcile_upshot
    (d : (keeper.reconcile name lastKnown).Dialogue talk (some (.ok outcome))) :
    Upshot name talk outcome := by
  obtain ⟨answer, rest, rfl, later⟩ := d.of_ask
  cases answer with
  | error f =>
    cases f with
    | notFound message =>
      obtain ⟨_, said, rest, rfl, -, last⟩ := later.of_bind_ok
      obtain ⟨rfl, he⟩ := last.of_done
      cases he
      exact .gone ⟨message, by simp⟩
    | _ => cases later.of_done.2
  | ok r =>
    obtain ⟨current, rest, rfl, last⟩ := Dialogue.of_step later
    cases current with
    | none => cases last.of_done.2
    | some e => exact proceed_upshot last

end Keeper

end Lifecycle

end AccessWindow
