import AccessWindow.Proofs.History

namespace AccessWindow

open Lifecycle

variable {others : Scene → Scene → Prop} {s s' : Scene} {m : Moment} {before after : List Moment}
  {name : String} {past later : List Turn} {r q held : Request} {e : Edition}
  {u : Request.Update}

namespace Lifecycle

def Settled (status : Request.Status) : Prop :=
  match status.phase with
  | .fresh => status.ticket = .skipped
  | .preApproved => False
  | .succeeded | .rejected | .unrecognized _ => True

theorem Discarded.settled (h : Discarded r) : Settled r.status := by
  cases h with
  | inl h => simp [Settled, h]
  | inr h => simp [Settled, h]

theorem Decides.not_settled (h : Decides past r e u) : ¬Settled r.status := by
  cases h with
  | missing hf ht => simpa [Settled, hf] using ht
  | unknown review => simpa [Settled, review.fresh] using review.ticket
  | opened review => simpa [Settled, review.fresh] using review.ticket
  | refused review => simpa [Settled, review.fresh] using review.ticket
  | accepted review => simpa [Settled, review.fresh] using review.ticket
  | granted hp => simp [Settled, hp]
  | resumed hp => simp [Settled, hp]
  | unapproved hp => simp [Settled, hp]

theorem Continues.succeeded {x stored : Request} (h : Continues past u)
    (heard : Heard past (.putStatus x) (.ok stored)) (hx : x.status.phase = .succeeded) :
    u.phase = .succeeded := by
  cases h _ heard x rfl with
  | inl hr =>
    obtain ⟨held, rfl⟩ := hr
    exact hx
  | inr hf => simp [hx] at hf

end Lifecycle

def Scene.Closed (s : Scene) (name : String) : Prop :=
  ∀ q, s.requests name = some q → Settled q.status

theorem Visit.unsettled {v : Visit name} (hm : m ∈ v.moments)
    (acts : (∃ w, m.op = .call (.putStatus w)) ∨ ∃ g, m.op = .call (.addGrant g)) :
    ∃ r e, Found name (v.moments.map Moment.said) r e ∧ ¬Settled r.status := by
  obtain ⟨before, after, hv⟩ := List.append_of_mem hm
  cases acts with
  | inl hw =>
    obtain ⟨w, hop⟩ := hw
    obtain ⟨r, e, hf, -, u, held, -, -, dec, -⟩ := v.found_of_write hv hop
    exact ⟨r, e, v.found_whole hv hf, dec.not_settled⟩
  | inr hg =>
    obtain ⟨g, hop⟩ := hg
    obtain ⟨r, e, hf, hp, -, -⟩ := v.found_of_grant hv hop
    exact ⟨r, e, v.found_whole hv hf, by simp [Settled, hp]⟩

theorem Visit.idle_of_settled {v : Visit name} (hf : Found name (v.moments.map Moment.said) r e)
    (hs : Settled r.status) (hm : m ∈ v.moments) :
    ¬((∃ w, m.op = .call (.putStatus w)) ∨ ∃ g, m.op = .call (.addGrant g)) := by
  intro acts
  obtain ⟨r', e', hf', unsettled⟩ := v.unsettled hm acts
  obtain ⟨rfl, -⟩ := hf'.unique hf (List.prefix_refl _)
  exact unsettled hs

namespace Course

variable {v : Visit name}

theorem closed_of_found (h : Course others s v.moments s')
    (keeps : ∀ {a b}, others a b → a.KeepsStatus name b)
    (hf : Found name (v.moments.map Moment.said) r e) (hs : Settled r.status) :
    s'.Closed name := by
  intro q hq
  cases h.status_found keeps hf hq with
  | inl hq => exact hq ▸ hs
  | inr hw =>
    obtain ⟨m, hm, w, hop, -⟩ := hw
    exact absurd (.inl ⟨w, hop⟩) (v.idle_of_settled hf hs hm)

theorem closed_of_success {x stored : Request} (h : Course others s v.moments s')
    (keeps : ∀ {a b}, others a b → a.KeepsStatus name b) (hv : v.moments = before ++ m :: after)
    (hsaid : m.said = ⟨.call (.putStatus x), .ok stored⟩) (hx : x.status.phase = .succeeded) :
    s'.Closed name ∧ ∀ m ∈ after, ∀ g, m.op ≠ .call (.addGrant g) := by
  have hop : m.op = .call (.putStatus x) := congrArg Sigma.fst hsaid
  have heard {ms : List Moment} : Heard ((before ++ m :: ms).map Moment.said) (.putStatus x)
      (.ok stored) := List.mem_map.2 ⟨m, by simp, hsaid⟩
  constructor
  · intro q hq
    rw [hv] at h
    obtain ⟨old, hold, hs⟩ := h.split.2.status_before keeps hq
    cases hs with
    | inl hs =>
      obtain ⟨-, -, -, hn, -⟩ := v.found_of_write hv hop
      rw [hs, m.written hsaid (hn ▸ hold)]
      simp [Settled, hx]
    | inr hw =>
      obtain ⟨m', hm', w, hop', -, hs⟩ := hw
      obtain ⟨ms, rest, rfl⟩ := List.append_of_mem hm'
      have hv' : v.moments = (before ++ m :: ms) ++ m' :: rest := by simp [hv]
      obtain ⟨r, e, -, -, u, held, rfl, -, -, cont⟩ := v.found_of_write hv' hop'
      rw [hs]
      simp [Settled, Request.record, cont.succeeded heard hx]
  · intro m' hm' g hop'
    obtain ⟨ms, rest, rfl⟩ := List.append_of_mem hm'
    have hv' : v.moments = (before ++ m :: ms) ++ m' :: rest := by simp [hv]
    obtain ⟨-, -, -, -, silent, -⟩ := v.found_of_grant hv' hop'
    exact silent _ heard x rfl

theorem closed (h : Course others s v.moments s')
    (keeps : ∀ {a b}, others a b → a.KeepsStatus name b) (hc : s.Closed name) :
    s'.Closed name ∧ ∀ m ∈ v.moments, ∀ g, m.op ≠ .call (.addGrant g) := by
  have settled {r : Request} {e : Edition} (hf : Found name (v.moments.map Moment.said) r e) :
      Settled r.status := by
    obtain ⟨old, hold, hs⟩ := h.found_status keeps hf
    exact hs ▸ hc old hold
  constructor
  · intro q hq
    obtain ⟨old, hold, hs⟩ := h.status_before keeps hq
    cases hs with
    | inl hs => exact hs ▸ hc old hold
    | inr hw =>
      obtain ⟨m, hm, w, hop, -⟩ := hw
      obtain ⟨r, e, hf, unsettled⟩ := v.unsettled hm (.inl ⟨w, hop⟩)
      exact absurd (settled hf) unsettled
  · intro m hm g hop
    obtain ⟨r, e, hf, unsettled⟩ := v.unsettled hm (.inr ⟨g, hop⟩)
    exact unsettled (settled hf)

end Course

theorem History.closed {vs : List (Visit name)} (h : History others s vs s')
    (keeps : ∀ {a b}, others a b → a.KeepsStatus name b) (hc : s.Closed name) :
    s'.Closed name ∧ ∀ v ∈ vs, ∀ m ∈ v.moments, ∀ g, m.op ≠ .call (.addGrant g) := by
  induction h with
  | start => exact ⟨hc, by simp⟩
  | visit _ course ih =>
    have ⟨hc, past⟩ := ih
    have ⟨hc, last⟩ := course.closed keeps hc
    exact ⟨hc, List.forall_mem_append.2 ⟨past, by simpa using last⟩⟩

end AccessWindow
