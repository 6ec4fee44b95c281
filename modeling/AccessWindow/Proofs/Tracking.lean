import AccessWindow.Proofs.Instant
import AccessWindow.Proofs.Lookup
import AccessWindow.Schedule

namespace AccessWindow.Schedule

open Time

variable {s : Schedule} {listing : List Listed} {item : Listed} {now : Instant} {name : String}
  {task : Task} {t : Tracked} {outcome : Lifecycle.Outcome}

theorem Tracked.leaves_iff : t.leaves now ↔ t.vanished → ∀ due, t.due = some due → due ≤ now := by
  rw [leaves]
  cases hv : t.vanished
  · simp
  · cases hd : t.due <;> simp [isDue, hd]

theorem Tracked.trigger?_ne_vanished {before : Option Tracked} :
    trigger? before item now ≠ some .vanished := by
  cases before with
  | none => simp [trigger?]
  | some t =>
    simp only [trigger?]
    repeat' split
    all_goals simp

theorem Tracked.trigger?_firstSeen {before : Option Tracked} (h : ∀ t ∈ before, t.vanished) :
    trigger? before item now = some .firstSeen := by
  cases before with
  | none => rfl
  | some t => simp [trigger?, h t rfl]

theorem get?_observeItem :
    (s.observeItem now item).1.tracked.get? name =
      if name = item.name then some (.listed (s.tracked.get? item.name) item now)
      else s.tracked.get? name :=
  Dict.get?_insert

theorem mem_observeItem (h : task ∈ (s.observeItem now item).2) :
    task.name = item.name ∧ task.namespaces = item.namespaces ∧ task.trigger ≠ .vanished := by
  obtain ⟨trigger, htrigger, rfl⟩ := Option.map_eq_some_iff.1 h
  refine ⟨rfl, rfl, fun hv => ?_⟩
  obtain rfl : trigger = .vanished := hv
  exact Tracked.trigger?_ne_vanished htrigger

theorem observeItems_cons {rest : List Listed} :
    observeItems now (item :: rest) s =
      ((observeItems now rest (s.observeItem now item).1).1,
        (s.observeItem now item).2.toList ++
          (observeItems now rest (s.observeItem now item).1).2) :=
  rfl

theorem get?_observeItems_of_absent (now : Instant) (absent : ∀ item ∈ listing, item.name ≠ name) :
    (observeItems now listing s).1.tracked.get? name = s.tracked.get? name := by
  induction listing generalizing s with
  | nil => rfl
  | cons item rest ih =>
    have ⟨hitem, hrest⟩ := List.forall_mem_cons.1 absent
    rw [observeItems_cons, ih hrest, get?_observeItem, if_neg hitem.symm]

theorem get?_observeItems_of_shown (s : Schedule) (now : Instant)
    (shown : ∃ item ∈ listing, item.name = name) :
    ∃ item ∈ listing, item.name = name ∧
      ∃ t, (observeItems now listing s).1.tracked.get? name = some t ∧
        t.namespaces = item.namespaces := by
  induction listing generalizing s with
  | nil => simp at shown
  | cons item rest ih =>
    rw [observeItems_cons]
    by_cases hrest : ∃ item ∈ rest, item.name = name
    · obtain ⟨last, hlast, hn, t, ht⟩ := ih _ hrest
      exact ⟨last, List.mem_cons_of_mem item hlast, hn, t, ht⟩
    · have absent : ∀ item ∈ rest, item.name ≠ name := fun x hx hn => hrest ⟨x, hx, hn⟩
      obtain ⟨x, hx, rfl⟩ := shown
      cases List.mem_cons.1 hx with
      | inr hx => exact absurd rfl (absent x hx)
      | inl hx =>
        subst hx
        refine ⟨x, List.mem_cons_self, rfl, .listed (s.tracked.get? x.name) x now, ?_, rfl⟩
        rw [get?_observeItems_of_absent now absent, get?_observeItem, if_pos rfl]

theorem mem_observeItems (h : task ∈ (observeItems now listing s).2) :
    ∃ item ∈ listing, task.name = item.name ∧ task.namespaces = item.namespaces ∧
      task.trigger ≠ .vanished := by
  induction listing generalizing s with
  | nil => simp [observeItems] at h
  | cons item rest ih =>
    rw [observeItems_cons, List.mem_append, Option.mem_toList] at h
    cases h with
    | inl h => exact ⟨item, List.mem_cons_self, mem_observeItem h⟩
    | inr h =>
      obtain ⟨later, hlater, htask⟩ := ih h
      exact ⟨later, List.mem_cons_of_mem item hlater, htask⟩

theorem firstSeen_mem_observeItems (now : Instant) (new : ∀ t ∈ s.tracked.get? name, t.vanished)
    (shown : ∃ item ∈ listing, item.name = name) :
    ∃ item ∈ listing, item.name = name ∧
      ⟨name, item.namespaces, .firstSeen⟩ ∈ (observeItems now listing s).2 := by
  induction listing generalizing s with
  | nil => simp at shown
  | cons item rest ih =>
    rw [observeItems_cons]
    by_cases hn : item.name = name
    · subst hn
      refine ⟨item, List.mem_cons_self, rfl, List.mem_append_left _ ?_⟩
      simp [observeItem, Tracked.trigger?_firstSeen new]
    · have shown : ∃ item ∈ rest, item.name = name := by simpa [hn] using shown
      have hsame : (s.observeItem now item).1.tracked.get? name = s.tracked.get? name := by
        rw [get?_observeItem, if_neg (Ne.symm hn)]
      obtain ⟨later, hlater, hname, htask⟩ := ih (hsame ▸ new) shown
      exact ⟨later, List.mem_cons_of_mem item hlater, hname, List.mem_append_right _ htask⟩

theorem mem_gone {s : Schedule} :
    (name, t) ∈ s.gone listing now ↔
      s.tracked.get? name = some t ∧ (∀ item ∈ listing, item.name ≠ name) ∧ t.leaves now := by
  simp [gone, Dict.mem_entries]

theorem get?_observe :
    (s.observe listing now).1.tracked.get? name =
      if name ∈ ((observeItems now listing s).1.gone listing now).map Prod.fst then none
      else (observeItems now listing s).1.tracked.get? name :=
  Dict.get?_foldl_erase

theorem mem_observe :
    task ∈ (s.observe listing now).2 ↔
      task ∈ (observeItems now listing s).2 ∨
        ∃ t, (task.name, t) ∈ (observeItems now listing s).1.gone listing now ∧
          task = ⟨task.name, t.namespaces, .vanished⟩ := by
  rw [observe, List.mem_append, List.mem_map]
  refine or_congr_right ⟨?_, ?_⟩
  · rintro ⟨⟨name, t⟩, ht, rfl⟩
    exact ⟨t, ht, rfl⟩
  · rintro ⟨t, ht, htask⟩
    exact ⟨(task.name, t), ht, htask.symm⟩

theorem get?_observe_of_absent (absent : ∀ item ∈ listing, item.name ≠ name) :
    (s.observe listing now).1.tracked.get? name = some t ↔
      s.tracked.get? name = some t ∧ ¬t.leaves now := by
  have hgone : name ∈ ((observeItems now listing s).1.gone listing now).map Prod.fst ↔
      ∃ t, s.tracked.get? name = some t ∧ t.leaves now := by
    rw [List.mem_map, ← get?_observeItems_of_absent now absent]
    constructor
    · rintro ⟨⟨first, t⟩, hmem, hn⟩
      obtain rfl : first = name := hn
      exact ⟨t, (mem_gone.1 hmem).1, (mem_gone.1 hmem).2.2⟩
    · exact fun ⟨t, ht, hl⟩ => ⟨(name, t), mem_gone.2 ⟨ht, absent, hl⟩, rfl⟩
  rw [get?_observe, get?_observeItems_of_absent now absent]
  split
  · next hmem =>
    obtain ⟨t', ht', hl⟩ := hgone.1 hmem
    refine iff_of_false nofun fun h => ?_
    cases ht'.symm.trans h.1
    exact h.2 hl
  · next hmem =>
    exact ⟨fun ht => ⟨ht, fun hl => hmem (hgone.2 ⟨t, ht, hl⟩)⟩, fun h => h.1⟩

theorem mem_observe_of_absent (absent : ∀ item ∈ listing, item.name ≠ name)
    (hn : task.name = name) :
    task ∈ (s.observe listing now).2 ↔
      ∃ t, s.tracked.get? name = some t ∧ t.leaves now ∧
        task = ⟨name, t.namespaces, .vanished⟩ := by
  subst hn
  rw [mem_observe]
  constructor
  · rintro (h | ⟨t, ht, htask⟩)
    · obtain ⟨item, hitem, hn, -⟩ := mem_observeItems h
      exact absurd hn.symm (absent item hitem)
    · obtain ⟨hget, -, hl⟩ := mem_gone.1 ht
      exact ⟨t, get?_observeItems_of_absent now absent ▸ hget, hl, htask⟩
  · rintro ⟨t, ht, hl, htask⟩
    have hget := (get?_observeItems_of_absent now absent).trans ht
    exact .inr ⟨t, mem_gone.2 ⟨hget, absent, hl⟩, htask⟩

theorem get?_observe_of_shown (s : Schedule) (now : Instant)
    (shown : ∃ item ∈ listing, item.name = name) :
    ∃ item ∈ listing, item.name = name ∧
      ∃ t, (s.observe listing now).1.tracked.get? name = some t ∧
        t.namespaces = item.namespaces := by
  obtain ⟨item, hitem, hn, t, ht, hns⟩ := get?_observeItems_of_shown s now shown
  refine ⟨item, hitem, hn, t, ?_, hns⟩
  rw [get?_observe, if_neg, ht]
  rintro hgone
  obtain ⟨⟨_, t'⟩, hmem, rfl⟩ := List.mem_map.1 hgone
  exact (mem_gone.1 hmem).2.1 item hitem hn

theorem mem_observe_of_shown (shown : ∃ item ∈ listing, item.name = name)
    (h : task ∈ (s.observe listing now).2) (hn : task.name = name) :
    ∃ item ∈ listing, item.name = name ∧ task.namespaces = item.namespaces ∧
      task.trigger ≠ .vanished := by
  subst hn
  cases mem_observe.1 h with
  | inl h =>
    obtain ⟨item, hitem, hn, htask⟩ := mem_observeItems h
    exact ⟨item, hitem, hn.symm, htask⟩
  | inr h =>
    obtain ⟨t, ht, -⟩ := h
    obtain ⟨item, hitem, hn⟩ := shown
    exact absurd hn ((mem_gone.1 ht).2.1 item hitem)

@[simp] theorem pause_observe : (s.observe listing now).1.pause = s.pause := by
  have items : (observeItems now listing s).1.pause = s.pause := by
    induction listing generalizing s with
    | nil => rfl
    | cons item rest ih => exact ih
  exact items

theorem get?_noteSuccess :
    (s.noteSuccess task outcome now).tracked.get? name =
      if name = task.name then (s.tracked.get? name).map fun t =>
        { t with
          due := match outcome with
            | .done => none
            | .again delay => some (now.after delay) }
      else s.tracked.get? name := by
  simp only [noteSuccess]
  split
  · next ht =>
    by_cases h : name = task.name
    · rw [if_pos h, h, ht, Option.map_none]
    · rw [if_neg h]
  · next t ht =>
    rw [Dict.get?_insert]
    by_cases h : name = task.name
    · cases outcome <;> simp [h, ht]
    · simp [h]

theorem get?_noteFailure :
    (s.noteFailure task now).tracked.get? name =
      if name = task.name then
        some { (s.tracked.get? name).getD ⟨none, task.namespaces, none, true⟩ with
          due := some (now.after s.pause) }
      else s.tracked.get? name := by
  rw [noteFailure, Dict.get?_insert]
  by_cases h : name = task.name
  · simp [h]
  · simp [h]

@[simp] theorem pause_noteSuccess : (s.noteSuccess task outcome now).pause = s.pause := by
  simp only [noteSuccess]
  split <;> rfl

@[simp] theorem pause_noteFailure : (s.noteFailure task now).pause = s.pause := rfl

end AccessWindow.Schedule
