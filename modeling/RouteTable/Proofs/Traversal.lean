import Mathlib.Data.List.Forall2

/-!
Lists of computations that may fail, done one after another: all of them succeed, or the whole
fails.
-/

namespace RouteTable

variable {α β ε : Type*}

theorem mapM_cons_ok {f : α → Except ε β} {a : α} {b : β} {l : List α} {bs : List β}
    (ha : f a = .ok b) (hl : l.mapM f = .ok bs) : (a :: l).mapM f = .ok (b :: bs) := by
  rw [List.mapM_cons, ha, hl]
  rfl

theorem map_eq_ok_iff {f : α → β} {result : Except ε α} {b : β} :
    result.map f = .ok b ↔ ∃ a, result = .ok a ∧ f a = b := by
  cases result with
  | error e => exact iff_of_false (by intro h; cases h) (by rintro ⟨_, h, _⟩; cases h)
  | ok a => simp [Except.map]

/-- A result that passes a test is no failure. -/
theorem exists_ok_of_any {result : Except ε α} {test : α → Bool}
    (h : result.toOption.any test = true) : ∃ a, result = .ok a ∧ test a = true := by
  cases result with
  | error e => cases h
  | ok a => exact ⟨a, rfl, h⟩

theorem bind_eq_ok_iff {result : Except ε α} {next : α → Except ε β} {b : β} :
    result.bind next = .ok b ↔ ∃ a, result = .ok a ∧ next a = .ok b := by
  cases result with
  | error e => exact iff_of_false (by intro h; cases h) (by rintro ⟨_, h, _⟩; cases h)
  | ok a => exact ⟨fun h => ⟨a, rfl, h⟩, by rintro ⟨_, ⟨⟩, h⟩; exact h⟩

theorem mapM_cons_eq_ok_iff {f : α → Except ε β} {a : α} {l : List α} {bs : List β} :
    (a :: l).mapM f = .ok bs ↔ ∃ b rest, f a = .ok b ∧ l.mapM f = .ok rest ∧ bs = b :: rest := by
  constructor
  · intro h
    rw [List.mapM_cons] at h
    cases hb : f a with
    | error e =>
      rw [hb] at h
      cases h
    | ok b =>
      cases hrest : l.mapM f with
      | error e =>
        rw [hb, hrest] at h
        cases h
      | ok rest =>
        rw [hb, hrest] at h
        cases h
        exact ⟨b, rest, rfl, rfl, rfl⟩
  · rintro ⟨b, rest, hb, hrest, rfl⟩
    exact mapM_cons_ok hb hrest

/-- What holds of each single result holds along all of them. -/
theorem exists_mapM_ok {f : α → Except ε β} {R : α → β → Prop} {l : List α}
    (h : ∀ a ∈ l, ∃ b, f a = .ok b ∧ R a b) : ∃ bs, l.mapM f = .ok bs ∧ List.Forall₂ R l bs := by
  induction l with
  | nil => exact ⟨[], rfl, .nil⟩
  | cons a l ih =>
    obtain ⟨b, hb, hR⟩ := h a List.mem_cons_self
    obtain ⟨bs, hbs, hRs⟩ := ih fun x hx => h x (List.mem_cons_of_mem _ hx)
    exact ⟨b :: bs, mapM_cons_ok hb hbs, .cons hR hRs⟩

/-- One failure is enough. -/
theorem exists_mapM_error {f : α → Except ε β} {a : α} {l : List α} (hmem : a ∈ l)
    (h : ∃ e, f a = .error e) : ∃ e, l.mapM f = .error e := by
  induction l with
  | nil => cases hmem
  | cons b l ih =>
    rw [List.mapM_cons]
    cases hb : f b with
    | error e => exact ⟨e, rfl⟩
    | ok y =>
      rcases List.mem_cons.1 hmem with rfl | hmem
      · obtain ⟨e, he⟩ := h
        rw [hb] at he
        cases he
      · obtain ⟨e, he⟩ := ih hmem
        exact ⟨e, by rw [he]; rfl⟩

/-- The failure of all is the failure of one. -/
theorem exists_error_of_mapM {f : α → Except ε β} {e : ε} {l : List α}
    (h : l.mapM f = .error e) : ∃ a ∈ l, f a = .error e := by
  induction l with
  | nil => cases h
  | cons a l ih =>
    rw [List.mapM_cons] at h
    cases ha : f a with
    | error first =>
      rw [ha] at h
      cases h
      exact ⟨a, List.mem_cons_self, ha⟩
    | ok b =>
      cases hl : l.mapM f with
      | error later =>
        rw [ha, hl] at h
        cases h
        obtain ⟨other, hother, herror⟩ := ih hl
        exact ⟨other, List.mem_cons_of_mem _ hother, herror⟩
      | ok rest =>
        rw [ha, hl] at h
        cases h

theorem exists_mapM_ok_of_forall₂ {γ : Type*} {f : β → Except ε γ} {R : α → γ → Prop}
    {l : List α} {bs : List β}
    (h : List.Forall₂ (fun a b => ∃ c, f b = .ok c ∧ R a c) l bs) :
    ∃ cs, bs.mapM f = .ok cs ∧ List.Forall₂ R l cs := by
  induction h with
  | nil => exact ⟨[], rfl, .nil⟩
  | cons hfirst _ ih =>
    obtain ⟨c, hc, hR⟩ := hfirst
    obtain ⟨cs, hcs, hRs⟩ := ih
    exact ⟨c :: cs, mapM_cons_ok hc hcs, .cons hR hRs⟩

theorem exists_mem_iff_of_forall₂ {R : α → β → Prop} {p : α → Prop} {q : β → Prop} {l : List α}
    {bs : List β} (h : List.Forall₂ R l bs) (hiff : ∀ a b, R a b → (p a ↔ q b)) :
    (∃ a ∈ l, p a) ↔ ∃ b ∈ bs, q b := by
  induction h with
  | nil => simp
  | cons hfirst _ ih => simp [hiff _ _ hfirst, ih]

theorem exists_forall₂_iff {R : α → β → Prop} {l : List α} :
    (∃ bs, List.Forall₂ R l bs) ↔ ∀ a ∈ l, ∃ b, R a b := by
  induction l with
  | nil => exact iff_of_true ⟨[], .nil⟩ (by simp)
  | cons a l ih =>
    rw [List.forall_mem_cons, ← ih]
    constructor
    · rintro ⟨_, h⟩
      cases h with
      | cons hfirst hrest => exact ⟨⟨_, hfirst⟩, _, hrest⟩
    · rintro ⟨⟨b, hb⟩, bs, hbs⟩
      exact ⟨b :: bs, .cons hb hbs⟩

theorem forall₂_and_right_iff {R : α → β → Prop} {p : β → Prop} {l : List α} {bs : List β} :
    List.Forall₂ (fun a b => R a b ∧ p b) l bs ↔ List.Forall₂ R l bs ∧ ∀ b ∈ bs, p b := by
  constructor
  · intro h
    induction h with
    | nil => exact ⟨.nil, by simp⟩
    | cons hfirst _ ih => exact ⟨.cons hfirst.1 ih.1, List.forall_mem_cons.2 ⟨hfirst.2, ih.2⟩⟩
  · rintro ⟨h, hp⟩
    induction h with
    | nil => exact .nil
    | cons hfirst _ ih =>
      rw [List.forall_mem_cons] at hp
      exact .cons ⟨hfirst, hp.1⟩ (ih hp.2)

/-- One of them may have a property besides if it may at its place. -/
theorem exists_forall₂_exists_mem_iff {R : α → β → Prop} {p : β → Prop} {l : List α} :
    (∃ bs, List.Forall₂ R l bs ∧ ∃ b ∈ bs, p b) ↔
      (∀ a ∈ l, ∃ b, R a b) ∧ ∃ a ∈ l, ∃ b, R a b ∧ p b := by
  induction l with
  | nil => simp
  | cons a l ih =>
    constructor
    · rintro ⟨bs, h, b, hb, hp⟩
      refine ⟨exists_forall₂_iff.1 ⟨bs, h⟩, ?_⟩
      cases h with
      | @cons _ first _ rest hfirst hrest =>
        rcases List.mem_cons.1 hb with rfl | hb
        · exact ⟨a, List.mem_cons_self, b, hfirst, hp⟩
        · obtain ⟨-, c, hc, hR⟩ := ih.1 ⟨rest, hrest, b, hb, hp⟩
          exact ⟨c, List.mem_cons_of_mem _ hc, hR⟩
    · rintro ⟨hall, c, hc, b, hR, hp⟩
      rw [List.forall_mem_cons] at hall
      rcases List.mem_cons.1 hc with rfl | hc
      · obtain ⟨rest, hrest⟩ := exists_forall₂_iff.2 hall.2
        exact ⟨b :: rest, .cons hR hrest, b, List.mem_cons_self, hp⟩
      · obtain ⟨first, hfirst⟩ := hall.1
        obtain ⟨rest, hrest, d, hd, hpd⟩ := ih.2 ⟨hall.2, c, hc, b, hR, hp⟩
        exact ⟨first :: rest, .cons hfirst hrest, d, List.mem_cons_of_mem _ hd, hpd⟩

end RouteTable
