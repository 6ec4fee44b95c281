import AccessWindow.Lifecycle.Reconcile
import AccessWindow.Proofs.Dialogue

namespace AccessWindow

variable {α β : Type} {past said later : List Turn}

def Heard (past : List Turn) (c : Call) (answer : Except Fault c.Answer) : Prop :=
  (⟨.call c, answer⟩ : Turn) ∈ past

theorem Heard.append {c : Call} {answer : Except Fault c.Answer} (h : Heard past c answer) :
    Heard (past ++ said) c answer := List.mem_append_left _ h

theorem Heard.prepend {c : Call} {answer : Except Fault c.Answer} (h : Heard said c answer) :
    Heard (past ++ said) c answer := List.mem_append_right _ h

theorem Heard.mono {c : Call} {answer : Except Fault c.Answer} (h : Heard past c answer)
    (hp : past <+: later) : Heard later c answer := hp.subset h

@[simp] theorem heard_last {c : Call} {answer : Except Fault c.Answer} :
    Heard (past ++ [⟨.call c, answer⟩]) c answer := by simp [Heard]

def Turn.record? : Turn → Option Request
  | ⟨.call (.requestNamed _), .ok r⟩ => some r
  | ⟨.call (.putStatus _), .ok r⟩ => some r
  | _ => none

def Turn.reading? : Turn → Option Instant
  | ⟨.clock, t⟩ => some t
  | _ => none

def latest (kind : Turn → Option β) (past : List Turn) : Option β :=
  (past.filterMap kind).getLast?

@[simp] theorem latest_append (kind : Turn → Option β) :
    latest kind (past ++ said) = (latest kind said).or (latest kind past) := by
  simp [latest, List.filterMap_append, List.getLast?_append]

@[simp] theorem latest_nil (kind : Turn → Option β) : latest kind [] = none := rfl

@[simp] theorem latest_cons (kind : Turn → Option β) (x : Turn) :
    latest kind (x :: said) = (latest kind said).or (kind x) := by
  cases h : kind x with
  | none => simp [latest, h]
  | some b => cases hl : (said.filterMap kind).getLast? <;> simp [latest, h, List.getLast?_cons, hl]

theorem latest_eq_none {kind : Turn → Option β} (h : ∀ x ∈ said, kind x = none) :
    latest kind said = none := by
  rw [latest, List.filterMap_eq_nil_iff.2 h, List.getLast?_nil]

theorem exists_of_latest {kind : Turn → Option β} {b : β} (h : latest kind past = some b) :
    ∃ x ∈ past, kind x = some b :=
  List.mem_filterMap.1 (List.mem_of_getLast? h)

def Operation.isAside : Operation → Bool
  | .clock | .call (.requestNamed _) | .call (.putStatus _) | .call (.addGrant _) => false
  | _ => true

def Only (kind : Operation → Bool) (said : List Turn) : Prop := ∀ x ∈ said, kind x.1

variable {kind : Operation → Bool}

@[simp] theorem only_nil : Only kind [] := by simp [Only]

@[simp] theorem only_singleton {x : Turn} : Only kind [x] ↔ kind x.1 := by simp [Only]

@[simp] theorem only_append : Only kind (past ++ said) ↔ Only kind past ∧ Only kind said := by
  simp only [Only, List.forall_mem_append]

theorem record?_eq_none_of_isAside {x : Turn} (h : x.1.isAside) : x.record? = none := by
  obtain ⟨op, answer⟩ := x
  cases op with
  | call c => cases c <;> first | rfl | cases h
  | _ => rfl

theorem reading?_eq_none_of_isAside {x : Turn} (h : x.1.isAside) : x.reading? = none := by
  obtain ⟨op, answer⟩ := x
  cases op with
  | clock => cases h
  | _ => rfl

theorem Only.latest_record (h : Only Operation.isAside said) :
    latest Turn.record? (past ++ said) = latest Turn.record? past := by
  rw [latest_append, latest_eq_none fun x hx => record?_eq_none_of_isAside (h x hx), Option.none_or]

theorem Only.latest_reading (h : Only Operation.isAside said) :
    latest Turn.reading? (past ++ said) = latest Turn.reading? past := by
  rw [latest_append, latest_eq_none fun x hx => reading?_eq_none_of_isAside (h x hx),
    Option.none_or]

def Operation.isGrant : Operation → Bool
  | .call (.addGrant _) => true
  | _ => false

def Operation.sparesGrants (op : Operation) : Bool := !op.isGrant

def Operation.isEntry : Operation → Bool
  | .call (.putStatus _) | .call (.requestNamed _) | .sleep _ => true
  | _ => false

theorem sparesGrants_of_isAside {op : Operation} (h : op.isAside) : op.sparesGrants := by
  cases op with
  | call c => cases c <;> first | rfl | cases h
  | _ => rfl

theorem sparesGrants_of_isEntry {op : Operation} (h : op.isEntry) : op.sparesGrants := by
  cases op with
  | call c => cases c <;> first | rfl | cases h
  | _ => rfl

theorem record?_eq_none_of_isGrant {x : Turn} (h : x.1.isGrant) : x.record? = none := by
  obtain ⟨op, answer⟩ := x
  cases op with
  | call c => cases c <;> first | rfl | cases h
  | _ => rfl

def Silent (past : List Turn) : Prop := ∀ x ∈ past, ∀ r, x.1 ≠ .call (.putStatus r)

theorem Silent.append (h : Silent past) (h' : Silent said) : Silent (past ++ said) :=
  List.forall_mem_append.2 ⟨h, h'⟩

theorem Only.silent (only : Only Operation.isAside said) : Silent said := by
  intro x hx r hr
  have := only x hx
  rw [hr] at this
  cases this

theorem Only.silent_of_grants (only : Only Operation.isGrant said) : Silent said := by
  intro x hx r hr
  have := only x hx
  rw [hr] at this
  cases this

/-- The faults that a visit bears with wherever they occur. -/
def Call.bears : Call → Fault → Bool
  | .accountOf _, f | .stateOfTicket _, f | .transition _ _, f | .removeGrant _ _, f
  | .removeRequest _, f => f.isAbsent
  | .addGrant _, f => f.isTaken
  | .publishEvent _, _ => true
  | _, _ => false

/-- A call failed in a way that a visit need not bear with, or no edition is in force. -/
def Turn.Upsets : Turn → Prop
  | ⟨.call c, .error f⟩ => c.bears f = false
  | ⟨.edition, none⟩ => True
  | _ => False

def Upset (past : List Turn) : Prop := ∃ x ∈ past, x.Upsets

theorem Upset.mono (h : Upset past) (hp : past <+: later) : Upset later := by
  obtain ⟨x, hx, hu⟩ := h
  exact ⟨x, hp.subset hx, hu⟩

theorem upset_last {c : Call} {f : Fault} (h : c.bears f = false) :
    Upset (past ++ [⟨.call c, .error f⟩]) := ⟨_, List.mem_append_right past List.mem_cons_self, h⟩

def Ends (gain : α → List Turn → Prop) : Except Fault α → List Turn → Prop
  | .ok a, past => gain a past
  | .error _, past => Upset past

/-- Since `past` only operations of one kind were performed, and a success entitles to `gain`. -/
def Adds (kind : Operation → Bool) (past : List Turn) (gain : α → List Turn → Prop)
    (result : Except Fault α) (past' : List Turn) : Prop :=
  ∃ said, past' = past ++ said ∧ Only kind said ∧ Ends (fun a _ => gain a said) result past'

variable {may : List Turn → Operation → Prop} {gain mid : α → List Turn → Prop}
  {gain' last : β → List Turn → Prop}

theorem adds_ok {a : α} (h : gain a []) : Adds kind past gain (.ok a) past :=
  ⟨[], by simp, by simp, h⟩

theorem adds_error {e : Fault} (h : Upset past) : Adds kind past gain (.error e) past :=
  ⟨[], by simp, by simp, h⟩

theorem Adds.after {result : Except Fault α} {past' : List Turn} (only : Only kind said)
    (h : Adds kind (past ++ said) (fun a said' => gain a (said ++ said')) result past') :
    Adds kind past gain result past' := by
  obtain ⟨said', rfl, only', ends⟩ := h
  exact ⟨said ++ said', by simp, only_append.2 ⟨only, only'⟩, by simpa using ends⟩

namespace Program

variable {p : Program α} {f : α → Program β}

theorem adds_perform {op : Operation} (hmay : may past op) (hkind : kind op) :
    (perform op).Abides may
      (Adds kind past fun answer said => said = [⟨op, answer⟩] ∧ Turn.Faithful ⟨op, answer⟩)
      past :=
  abides_perform.2 ⟨hmay, fun _ faithful => ⟨_, rfl, by simpa using hkind, rfl, faithful⟩⟩

theorem adds_call {c : Call} (hmay : may past (.call c)) (hkind : kind (.call c))
    (hbears : ∀ f, c.bears f = false) :
    (call c).Abides may (Adds kind past fun a said => said = [⟨.call c, .ok a⟩]) past := by
  refine abides_call.2 ⟨hmay, fun answer _ => ⟨_, rfl, by simpa using hkind, ?_⟩⟩
  cases answer with
  | ok => rfl
  | error f => exact upset_last (hbears f)

theorem adds_bind (h : p.Abides may (Adds kind past gain) past)
    (next : ∀ a said, Only kind said → gain a said →
      (f a).Abides may (Adds kind (past ++ said) fun b said' => gain' b (said ++ said'))
        (past ++ said)) :
    (p >>= f).Abides may (Adds kind past gain') past := by
  apply Abides.bind h
  · intro a past' _ added
    obtain ⟨said, rfl, only, hg⟩ := added
    apply (next a said only hg).imp
    intro result past' _ h
    exact h.after only
  · intro e past' _ added
    obtain ⟨said, rfl, only, upset⟩ := added
    exact ⟨said, rfl, only, upset⟩

theorem Abides.adds (h : p.Abides may (Adds kind past gain) past) {less : α → List Turn → Prop}
    (imp : ∀ a said, Only kind said → gain a said → less a said) :
    p.Abides may (Adds kind past less) past := by
  apply h.imp
  intro result past' _ added
  obtain ⟨said, rfl, only, ends⟩ := added
  refine ⟨said, rfl, only, ?_⟩
  cases result with
  | ok a => exact imp a said only ends
  | error => exact ends

theorem adds_ask {c : Call} (hmay : may past (.call c)) (hkind : kind (.call c)) :
    (ask c).Abides may (Adds kind past fun answer said => said = [⟨.call c, answer⟩]) past :=
  Abides.adds (adds_perform hmay hkind) fun _ _ _ h => h.1

theorem Abides.widen (h : p.Abides may (Adds kind past gain) past) {wider : Operation → Bool}
    (imp : ∀ op, kind op → wider op) :
    p.Abides may (Adds wider past fun a said => Only kind said ∧ gain a said) past := by
  apply h.imp
  intro result past' _ added
  obtain ⟨said, rfl, only, ends⟩ := added
  refine ⟨said, rfl, fun x hx => imp x.1 (only x hx), ?_⟩
  cases result with
  | ok a => exact ⟨only, ends⟩
  | error => exact ends

theorem Abides.ends (h : p.Abides may (Adds kind past gain) past)
    (imp : ∀ a said, Only kind said → gain a said → mid a (past ++ said)) :
    p.Abides may (Ends mid) past := by
  apply h.imp
  intro result past' _ added
  obtain ⟨said, rfl, only, ends⟩ := added
  cases result with
  | ok a => exact imp a said only ends
  | error => exact ends

theorem ends_bind (h : p.Abides may (Ends mid) past)
    (next : ∀ a past', past <+: past' → mid a past' → (f a).Abides may (Ends last) past') :
    (p >>= f).Abides may (Ends last) past :=
  h.bind next fun _ _ _ upset => upset

theorem adds_ends (h : p.Abides may (Adds kind past gain) past)
    (next : ∀ a said, Only kind said → gain a said →
      (f a).Abides may (Ends last) (past ++ said)) :
    (p >>= f).Abides may (Ends last) past := by
  apply h.bind
  · intro a past' _ added
    obtain ⟨said, rfl, only, hg⟩ := added
    exact next a said only hg
  · intro e past' _ added
    obtain ⟨said, rfl, -, upset⟩ := added
    exact upset

end Program

end AccessWindow
