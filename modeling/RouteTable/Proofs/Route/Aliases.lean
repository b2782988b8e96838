import RouteTable.Route.Table
import Mathlib.Data.List.Nodup
import Mathlib.Data.List.TakeWhile

/-!
Aliases of a route table. An alias shows the index of its route between its underscores, and the
digits of a number have none, so routes with different indices have no alias in common and a table
of them passes the check for repeated aliases. Where the check does not pass, it names the first
alias that repeats one before it.
-/

namespace RouteTable

open Script

/-- The digits of the index that an alias was made from. -/
def indexDigits (shortened : String) : List Char :=
  (shortened.toList.drop 2).takeWhile Char.isDigit

theorem toList_wholeAlias (index : Nat) :
    (wholeAlias index).toList = '_' :: '_' :: Nat.toDigits 10 index := by
  simp [wholeAlias]

theorem toList_exportAlias (index position : Nat) : (exportAlias index position).toList =
    '_' :: '_' :: (Nat.toDigits 10 index ++ '_' :: Nat.toDigits 10 position) := by
  simp [exportAlias]

theorem all_isDigit_toDigits (n : Nat) : ∀ c ∈ Nat.toDigits 10 n, c.isDigit = true := by
  intro c hc
  exact Nat.isDigit_of_mem_toDigits (by decide) (by decide) hc

theorem toDigits_injective {m n : Nat} (h : Nat.toDigits 10 m = Nat.toDigits 10 n) : m = n := by
  have hm := Nat.ofDigitChars_ten_toDigits (n := m)
  rw [h, Nat.ofDigitChars_ten_toDigits] at hm
  exact hm.symm

theorem indexDigits_wholeAlias (index : Nat) :
    indexDigits (wholeAlias index) = Nat.toDigits 10 index := by
  rw [indexDigits, toList_wholeAlias]
  exact List.takeWhile_eq_self_iff.2 (all_isDigit_toDigits index)

theorem indexDigits_exportAlias (index position : Nat) :
    indexDigits (exportAlias index position) = Nat.toDigits 10 index := by
  have hunderscore : List.takeWhile Char.isDigit ('_' :: Nat.toDigits 10 position) = [] := rfl
  rw [indexDigits, toList_exportAlias]
  simp only [List.drop_succ_cons, List.drop_zero]
  rw [List.takeWhile_append_of_pos (all_isDigit_toDigits index), hunderscore, List.append_nil]

theorem exportAlias_injective {index p q : Nat} (h : exportAlias index p = exportAlias index q) :
    p = q := by
  have hlist := congrArg String.toList h
  rw [toList_exportAlias, toList_exportAlias] at hlist
  simp only [List.cons.injEq, true_and, List.append_cancel_left_eq] at hlist
  exact toDigits_injective hlist

theorem isPlainName_of_digits {shortened : String} {s : List Char}
    (h : shortened.toList = '_' :: s) (hs : ∀ c ∈ s, c.isDigit = true ∨ c = '_') :
    isPlainName shortened = true := by
  have hdigit : ∀ c : Char, c.isDigit = true → continuesPlainName c = true := by
    intro c hc
    have hascii : c.val < 0x80 := by
      simp only [Char.isDigit, Bool.and_eq_true, decide_eq_true_eq] at hc
      have hle := UInt32.le_iff_toNat_le.1 hc.2
      rw [UInt32.lt_iff_toNat_lt]
      have htop : '9'.val.toNat = 57 := rfl
      have hbound : (0x80 : UInt32).toNat = 128 := rfl
      omega
    simp [continuesPlainName, Text.isAlphanumeric, Text.isNumeric, hascii, hc]
  have hfirst : startsPlainName '_' = true := by decide
  have hunderscore : continuesPlainName '_' = true := by decide
  simp only [isPlainName, h, hfirst, Bool.true_and, List.all_eq_true]
  intro c hc
  rcases hs c hc with hc | rfl
  · exact hdigit c hc
  · exact hunderscore

/-- Aliases are written without quotes. -/
theorem isPlainName_wholeAlias (index : Nat) : isPlainName (wholeAlias index) = true := by
  apply isPlainName_of_digits (toList_wholeAlias index)
  intro c hc
  rcases List.mem_cons.1 hc with rfl | hc
  · exact Or.inr rfl
  · exact Or.inl (all_isDigit_toDigits index c hc)

theorem isPlainName_exportAlias (index position : Nat) :
    isPlainName (exportAlias index position) = true := by
  apply isPlainName_of_digits (toList_exportAlias index position)
  intro c hc
  rcases List.mem_cons.1 hc with rfl | hc
  · exact Or.inr rfl
  · rcases List.mem_append.1 hc with hc | hc
    · exact Or.inl (all_isDigit_toDigits index c hc)
    · rcases List.mem_cons.1 hc with rfl | hc
      · exact Or.inr rfl
      · exact Or.inl (all_isDigit_toDigits position c hc)

namespace RoutePlan

/-- The aliases of kept exports number their positions. -/
theorem map_snd_namedFrom (index position : Nat) (names : List String) :
    (namedFrom index position names).map Prod.snd =
      (List.range' position names.length).map (exportAlias index) := by
  induction names generalizing position with
  | nil => rfl
  | cons name rest ih =>
    simp only [namedFrom, List.map_cons, ih, List.length_cons, List.range'_succ]

theorem nodup_aliases (index : Nat) (bindings : Bindings) (sync : SyncChoice) :
    (syncPart index bindings sync).aliases.Nodup := by
  cases sync with
  | all => exact List.nodup_singleton _
  | names wanted =>
    simp only [syncPart, SyncPart.aliases, map_snd_namedFrom]
    apply List.Nodup.map_on _ List.nodup_range'
    intro p _ q _ h
    exact exportAlias_injective h

/-- Each alias of a route shows the route's index. -/
theorem indexDigits_of_mem_aliases {index : Nat} {bindings : Bindings} {sync : SyncChoice}
    {shortened : String} (h : shortened ∈ (syncPart index bindings sync).aliases) :
    indexDigits shortened = Nat.toDigits 10 index := by
  cases sync with
  | all =>
    rw [List.mem_singleton.1 h]
    exact indexDigits_wholeAlias index
  | names wanted =>
    simp only [syncPart, SyncPart.aliases, map_snd_namedFrom] at h
    obtain ⟨position, -, rfl⟩ := List.mem_map.1 h
    exact indexDigits_exportAlias index position

theorem isPlainName_of_mem_aliases {index : Nat} {bindings : Bindings} {sync : SyncChoice}
    {shortened : String} (h : shortened ∈ (syncPart index bindings sync).aliases) :
    isPlainName shortened = true := by
  cases sync with
  | all =>
    rw [List.mem_singleton.1 h]
    exact isPlainName_wholeAlias index
  | names wanted =>
    simp only [syncPart, SyncPart.aliases, map_snd_namedFrom] at h
    obtain ⟨position, -, rfl⟩ := List.mem_map.1 h
    exact isPlainName_exportAlias index position

theorem head?_of_mem_aliases {index : Nat} {bindings : Bindings} {sync : SyncChoice}
    {shortened : String} (h : shortened ∈ (syncPart index bindings sync).aliases) :
    shortened.toList.head? = some '_' := by
  cases sync with
  | all =>
    rw [List.mem_singleton.1 h, toList_wholeAlias]
    rfl
  | names wanted =>
    simp only [syncPart, SyncPart.aliases, map_snd_namedFrom] at h
    obtain ⟨position, -, rfl⟩ := List.mem_map.1 h
    rw [toList_exportAlias]
    rfl

end RoutePlan

namespace Table

theorem lookup_eq_none_iff_notMem {pairs : List (String × String)} {name : String} :
    pairs.lookup name = none ↔ name ∉ pairs.map Prod.fst := by
  simp only [List.lookup_eq_none_iff, bne_iff_ne, ne_eq, List.mem_map, not_exists, not_and]
  exact ⟨fun h pair hmem heq => h pair hmem heq.symm, fun h pair hmem heq => h pair hmem heq.symm⟩

/-- Where no alias stands twice, looking one up finds the route that it stands in. -/
theorem lookup_eq_some_iff_mem {pairs : List (String × String)}
    (hnodup : (pairs.map Prod.fst).Nodup) {name route : String} :
    pairs.lookup name = some route ↔ (name, route) ∈ pairs := by
  induction pairs with
  | nil => simp
  | cons pair rest ih =>
    obtain ⟨other, found⟩ := pair
    rw [List.map_cons, List.nodup_cons] at hnodup
    rw [List.lookup_cons, List.mem_cons, Prod.mk.injEq]
    by_cases heq : name = other
    · subst heq
      have hrest : (name, route) ∉ rest := by
        intro hmem
        exact hnodup.1 (List.mem_map.2 ⟨_, hmem, rfl⟩)
      simp [hrest, eq_comm]
    · rw [beq_eq_false_iff_ne.2 heq]
      simp only [heq, false_and, false_or]
      exact ih hnodup.2

/-- The aliases seen before and those that follow, where the next one is new. -/
theorem nodup_seen_cons {seen : List (String × String)} {pair : String × String}
    (hseen : (seen.map Prod.fst).Nodup) (hnew : seen.lookup pair.1 = none) :
    ((pair :: seen).map Prod.fst).Nodup := by
  rw [List.map_cons, List.nodup_cons]
  exact ⟨lookup_eq_none_iff_notMem.1 hnew, hseen⟩

theorem not_nodup_of_lookup {seen rest : List (String × String)} {pair : String × String}
    {first : String} (hfound : seen.lookup pair.1 = some first) :
    ¬ ((seen.reverse ++ pair :: rest).map Prod.fst).Nodup := by
  intro hnodup
  have hmem : pair.1 ∈ seen.map Prod.fst := by
    by_contra hnone
    cases hfound.symm.trans (lookup_eq_none_iff_notMem.2 hnone)
  rw [List.map_append, List.nodup_append] at hnodup
  have hseen : pair.1 ∈ seen.reverse.map Prod.fst := by simpa using hmem
  exact hnodup.2.2 _ hseen _ (by simp) rfl

/-- The check for repeated aliases passes exactly if none of them repeats one before. -/
theorem repeated?_eq_none_iff {seen pairs : List (String × String)}
    (hseen : (seen.map Prod.fst).Nodup) :
    repeated? seen pairs = none ↔ ((seen.reverse ++ pairs).map Prod.fst).Nodup := by
  induction pairs generalizing seen with
  | nil => simpa [repeated?] using hseen
  | cons pair rest ih =>
    rw [repeated?]
    split
    · rename_i first hfound
      simp only [reduceCtorEq, false_iff]
      exact not_nodup_of_lookup hfound
    · rename_i hnew
      rw [ih (nodup_seen_cons hseen hnew), List.reverse_cons, List.append_assoc,
        List.singleton_append]

/-- The check names the first alias that repeats one before, the route that has that one and the
route that repeats it. -/
theorem repeated?_eq_some_iff {seen pairs : List (String × String)}
    (hseen : (seen.map Prod.fst).Nodup) {e : TableError} :
    repeated? seen pairs = some e ↔ ∃ passed later name first second,
      pairs = passed ++ (name, second) :: later ∧
        ((seen.reverse ++ passed).map Prod.fst).Nodup ∧
        (name, first) ∈ seen.reverse ++ passed ∧ e = .repeatedAlias name first second := by
  induction pairs generalizing seen with
  | nil => simp [repeated?]
  | cons pair rest ih =>
    obtain ⟨shortened, route⟩ := pair
    rw [repeated?]
    split
    · rename_i found hfound
      constructor
      · intro h
        cases h
        refine ⟨[], rest, shortened, found, route, rfl, ?_, ?_, rfl⟩
        · simpa using hseen
        · simpa using (lookup_eq_some_iff_mem hseen).1 hfound
      · rintro ⟨passed, later, name, first, second, hsplit, hnodup, hmem, rfl⟩
        cases passed with
        | nil =>
          cases hsplit
          have hfirst : (shortened, first) ∈ seen := by simpa using hmem
          cases hfound.symm.trans ((lookup_eq_some_iff_mem hseen).2 hfirst)
          rfl
        | cons pair passed =>
          obtain ⟨rfl, -⟩ := List.cons.inj hsplit
          exact absurd hnodup (not_nodup_of_lookup hfound)
    · rename_i hnew
      rw [ih (nodup_seen_cons hseen hnew)]
      constructor
      · rintro ⟨passed, later, name, first, second, rfl, hnodup, hmem, rfl⟩
        refine ⟨(shortened, route) :: passed, later, name, first, second, rfl, ?_, ?_, rfl⟩
        · simpa using hnodup
        · simpa using hmem
      · rintro ⟨passed, later, name, first, second, hsplit, hnodup, hmem, rfl⟩
        cases passed with
        | nil =>
          cases hsplit
          have hfirst : (shortened, first) ∈ seen := by simpa using hmem
          cases hnew.symm.trans ((lookup_eq_some_iff_mem hseen).2 hfirst)
        | cons pair passed =>
          obtain ⟨rfl, rfl⟩ := List.cons.inj hsplit
          refine ⟨passed, later, name, first, second, rfl, ?_, ?_, rfl⟩
          · simpa using hnodup
          · simpa using hmem

theorem map_fst_owners (routes : List PlannedRoute) :
    (owners routes).map Prod.fst = routes.flatMap fun route => route.plan.sync.aliases := by
  have hpair : ∀ relative : String, Prod.fst ∘ (fun shortened : String => (shortened, relative)) =
      id := fun _ => rfl
  simp only [owners, List.map_flatMap, List.map_map, hpair, List.map_id]

/-- Routes with different indices have no alias in common, and none has one twice. -/
theorem nodup_aliases_of_index {routes : List PlannedRoute}
    (hindex : (routes.map fun route => route.file.index).Nodup)
    (hplan : ∀ route ∈ routes, ∃ bindings sync,
      route.plan.sync = RoutePlan.syncPart route.file.index bindings sync) :
    (routes.flatMap fun route => route.plan.sync.aliases).Nodup := by
  rw [List.nodup_flatMap]
  constructor
  · intro route hroute
    obtain ⟨bindings, sync, hsync⟩ := hplan route hroute
    rw [hsync]
    exact RoutePlan.nodup_aliases _ _ _
  · have hpairs := List.pairwise_map.1 hindex
    refine hpairs.imp_of_mem ?_
    intro first second hfirst hsecond hne
    obtain ⟨bindings, sync, hsync⟩ := hplan first hfirst
    obtain ⟨bindings', sync', hsync'⟩ := hplan second hsecond
    intro shortened hmem hmem'
    dsimp only at hmem hmem'
    rw [hsync] at hmem
    rw [hsync'] at hmem'
    have hdigits := RoutePlan.indexDigits_of_mem_aliases hmem
    have hdigits' := RoutePlan.indexDigits_of_mem_aliases hmem'
    exact hne (toDigits_injective (hdigits.symm.trans hdigits'))

theorem repeated?_owners_eq_none_iff (routes : List PlannedRoute) :
    repeated? [] (owners routes) = none ↔
      (routes.flatMap fun route => route.plan.sync.aliases).Nodup := by
  have hnone : (([] : List (String × String)).map Prod.fst).Nodup := List.nodup_nil
  rw [repeated?_eq_none_iff hnone, List.reverse_nil, List.nil_append, map_fst_owners]

/-- A table of routes with different indices passes the check for repeated aliases. -/
theorem repeated?_owners {routes : List PlannedRoute}
    (hindex : (routes.map fun route => route.file.index).Nodup)
    (hplan : ∀ route ∈ routes, ∃ bindings sync,
      route.plan.sync = RoutePlan.syncPart route.file.index bindings sync) :
    repeated? [] (owners routes) = none :=
  (repeated?_owners_eq_none_iff routes).2 (nodup_aliases_of_index hindex hplan)

end Table

end RouteTable
