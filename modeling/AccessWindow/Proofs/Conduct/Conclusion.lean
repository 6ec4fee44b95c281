import AccessWindow.Proofs.Conduct.Permission

namespace AccessWindow.Lifecycle

structure Stored (name : String) (u : Request.Update) (past : List Turn) (stored : Request) :
    Prop where
  latest : latest Turn.record? past = some stored
  named : stored.name = name
  continues : Continues past u
  written : ∃ held : Request, Heard past (.putStatus (held.record u)) (.ok stored)

def Lacking (owner : String) (scopes : List String) (past : List Turn) : Prop :=
  ∀ scope ∈ scopes, ∃ grants, Heard past (.grantsWithin scope) (.ok grants) ∧
    ∀ g ∈ grants, ¬g.belongsTo owner

inductive Concludes (name : String) (lastKnown : List String) : Outcome → List Turn → Prop
  | gone {past} : Missed name past → Cleared name lastKnown past →
      Concludes name lastKnown .done past
  | refused {past r e u stored} : Found name past r e → r.status.phase = .fresh →
      Decides past r e u → u.phase = .rejected → Stored name u past stored →
      Concludes name lastKnown .done past
  | accepted {past r e key x held t delay stored} : Found name past r e → Reviewable r e →
      InHand past r key → x ∈ past → x.record? = some held → Passed past e held →
      (⟨.clock, t⟩ : Turn) ∈ past → held.spec.start.until? t = some delay →
      Stored name ⟨.preApproved, Ticket.preApprovalMessage, .issue key⟩ past stored →
      Concludes name lastKnown (.again delay) past
  | early {past r e t delay} : Found name (past ++ [⟨.clock, t⟩]) r e →
      r.status.phase = .preApproved → Only Operation.sparesGrants past →
      r.opens.until? t = some delay →
      Concludes name lastKnown (.again delay) (past ++ [⟨.clock, t⟩])
  | unapproved {past r e stored} : Found name past r e → r.status.phase = .preApproved →
      Lacking name r.spec.namespaces past → Only Operation.sparesGrants past →
      Stored name ⟨.rejected, "Jira ticket has not been approved", r.status.ticket⟩ past stored →
      Concludes name lastKnown .done past
  | lapsing {past r e held t delay} : Found name (past ++ [⟨.clock, t⟩]) r e →
      latest Turn.record? (past ++ [⟨.clock, t⟩]) = some held → Lapsing past r held →
      held.closes.until? t = some delay →
      Concludes name lastKnown (.again delay) (past ++ [⟨.clock, t⟩])
  | removed {past answer} : Permitted name lastKnown past (.call (.removeRequest name)) →
      (answer = .ok () ∨ ∃ message, answer = .error (.notFound message)) →
      Concludes name lastKnown .done (past ++ [⟨.call (.removeRequest name), answer⟩])

inductive OpeningEnds (name : String) (r : Request) (past : List Turn) : Outcome → Prop
  | early {t delay outcome} : Only Operation.sparesGrants past → (⟨.clock, t⟩ : Turn) ∈ past →
      r.opens.until? t = some delay → OpeningEnds name r past outcome
  | unapproved {stored} : Lacking name r.spec.namespaces past → Only Operation.sparesGrants past →
      Stored name ⟨.rejected, "Jira ticket has not been approved", r.status.ticket⟩ past stored →
      OpeningEnds name r past .done
  | lapsing {before held t delay outcome} : latest Turn.record? past = some held →
      Lapsing past r held → past = before ++ [⟨.clock, t⟩] → held.closes.until? t = some delay →
      OpeningEnds name r past outcome
  | elapsed {held outcome} : latest Turn.record? past = some held → Lapsing past r held →
      Cleared name held.spec.namespaces past → OpeningEnds name r past outcome

variable {name : String} {lastKnown : List String} {past : List Turn} {r held : Request}
  {e : Edition} {u : Request.Update} {outcome : Outcome}

theorem Discarded.not_preApproved (h : Discarded r) : r.status.phase ≠ .preApproved := by
  cases h with
  | inl h => simp [h]
  | inr h => simp [h]

theorem Concludes.of_preApproved (h : Concludes name lastKnown outcome past)
    (found : Found name past r e) (hp : r.status.phase = .preApproved) :
    OpeningEnds name r past outcome := by
  have only (r' : Request) (e' : Edition) (found' : Found name past r' e') : r' = r :=
    (found'.unique found (List.prefix_refl past)).1
  cases h with
  | gone missed => exact absurd missed found.not_missed
  | refused found' hf =>
    obtain rfl := only _ _ found'
    cases hf.symm.trans hp
  | accepted found' review =>
    obtain rfl := only _ _ found'
    cases review.fresh.symm.trans hp
  | early found' _ spares hu =>
    obtain rfl := only _ _ found'
    exact .early (only_append.2 ⟨spares, only_singleton.2 rfl⟩) (by simp) hu
  | unapproved found' _ lacking spares stored =>
    obtain rfl := only _ _ found'
    exact .unapproved lacking spares stored
  | lapsing found' hl lapsing hu =>
    obtain rfl := only _ _ found'
    exact .lapsing hl (lapsing.mono (List.prefix_append _ _)) rfl hu
  | @removed before answer permitted _ =>
    have aside : Only Operation.isAside [⟨.call (.removeRequest name), answer⟩] :=
      only_singleton.2 rfl
    have hpre := List.prefix_append before [⟨.call (.removeRequest name), answer⟩]
    cases permitted with
    | discard found' hd =>
      obtain rfl := only _ _ (found'.mono hpre)
      exact absurd hp hd.not_preApproved
    | expire found' hl lapsing _ _ cleared =>
      obtain rfl := only _ _ (found'.mono hpre)
      exact .elapsed (aside.latest_record.trans hl) (lapsing.mono hpre) (cleared.append aside)

theorem Lapsing.of_preApproved (h : Lapsing past r held) (hp : r.status.phase = .preApproved) :
    ∃ x, x.status.phase = .succeeded ∧ Heard past (.putStatus x) (.ok held) := by
  cases h with
  | succeeded hs => cases hs.symm.trans hp
  | unrecognized hu => cases hu.symm.trans hp
  | granted _ hx heard => exact ⟨_, hx, heard⟩

theorem Decides.of_succeeded (h : Decides past r e u) (hu : u.phase = .succeeded) :
    u = ⟨.succeeded, Ticket.grantedMessage, r.status.ticket⟩ ∧ Provided past r ∧
      ((∃ key, Approved past r e key) ∨ Holding past r) := by
  cases h with
  | granted _ approved provided => exact ⟨rfl, provided, .inl ⟨_, approved⟩⟩
  | resumed _ holding provided => exact ⟨rfl, provided, .inr holding⟩
  | _ => cases hu

end AccessWindow.Lifecycle
