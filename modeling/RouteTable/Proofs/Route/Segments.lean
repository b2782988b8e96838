import RouteTable.Proofs.Glob.Segments
import RouteTable.Route.Pattern

/-!
The pattern of a route, segment by segment. Each segment of the path is rewritten on its own, its
bracketed names being read from the left, and only the last loses its extension or becomes nothing
where it is `index`. The pattern has a slash in front of each of its segments, and the extension of
the file does not show in it.
-/

namespace RouteTable.Pattern

open Glob (slashed slashed_nil slashed_cons slashed_append intercalate_slash_cons)

/-- Whether a text starts with a bracketed name: the opening, one character or more without a
closing bracket, and the closing bracket. -/
def Opens (opening text : List Char) : Prop :=
  ∃ name after, name ≠ [] ∧ ']' ∉ name ∧ text = opening ++ (name ++ ']' :: after)

/-- A text and what comes of it when each bracketed name is written in another way, from the left
and one behind the other. -/
inductive Rewrites (opening : List Char) (written : List Char → List Char) :
    List Char → List Char → Prop where
  | nil : Rewrites opening written [] []
  | keep {c : Char} {rest result : List Char} (hnone : ¬ Opens opening (c :: rest))
      (h : Rewrites opening written rest result) :
      Rewrites opening written (c :: rest) (c :: result)
  | write {name after result : List Char} (hname : name ≠ []) (hclosed : ']' ∉ name)
      (h : Rewrites opening written after result) :
      Rewrites opening written (opening ++ (name ++ ']' :: after)) (written name ++ result)

/-- A segment and its pattern: names behind three points catch everything, the others are
parameters. -/
def SegmentPattern (segment pattern : List Char) : Prop :=
  ∃ caught, Rewrites ['[', '.', '.', '.'] (fun _ => ['*']) segment caught ∧
    Rewrites ['['] (':' :: ·) caught pattern

/-- A name without what stands behind its last point, and without the point, unless that is the
first or the last character. -/
inductive Stem : List Char → List Char → Prop where
  | cut {stem extension : List Char} (hstem : stem ≠ []) (hextension : extension ≠ [])
      (hlast : '.' ∉ extension) : Stem (stem ++ '.' :: extension) stem
  | whole {name : List Char} (h : ∀ stem extension, stem ≠ [] → extension ≠ [] →
      '.' ∉ extension → name ≠ stem ++ '.' :: extension) : Stem name name

/-- The last segment of a path and what the pattern ends with. -/
def FilePattern (file shown : List Char) : Prop :=
  ∃ pattern stem, SegmentPattern file pattern ∧ Stem pattern stem ∧
    shown = if stem = "index".toList then [] else stem

/-- A segment of a relative path, which has neither slash. -/
structure IsSegment (segment : String) : Prop where
  no_slash : '/' ∉ segment.toList
  no_backslash : '\\' ∉ segment.toList

/-- What can stand behind the last point of a file and is part of no bracketed name. -/
structure IsExtension (extension : String) : Prop extends IsSegment extension where
  ne_empty : extension ≠ ""
  no_point : '.' ∉ extension.toList
  no_closing : ']' ∉ extension.toList

def relativePath (directories : List String) (file : String) : String :=
  "./" ++ "/".intercalate (directories ++ [file])

section Brackets

variable {opening text name after : List Char} {written : List Char → List Char}

theorem bracketed?_eq_some_iff : bracketed? opening text = some (name, after) ↔
    name ≠ [] ∧ (∀ c ∈ name, isNameChar c = true) ∧ text = opening ++ (name ++ ']' :: after) := by
  constructor
  · intro h
    unfold bracketed? at h
    split at h
    · rename_i hprefix
      obtain ⟨rest, rfl⟩ := List.isPrefixOf_iff_prefix.1 hprefix
      rw [List.drop_left] at h
      split at h
      · rename_i c name' after' htake hdrop
        cases h
        refine ⟨List.cons_ne_nil _ _, ?_, ?_⟩
        · rw [← htake]
          exact fun d hd => List.all_eq_true.1 List.all_takeWhile d hd
        · rw [← htake, ← hdrop, List.takeWhile_append_dropWhile]
      · cases h
    · cases h
  · rintro ⟨hname, hchars, rfl⟩
    have htake : (name ++ ']' :: after).takeWhile isNameChar = name := by
      rw [List.takeWhile_append_of_pos hchars, List.takeWhile_cons_of_neg (by decide),
        List.append_nil]
    have hdrop : (name ++ ']' :: after).dropWhile isNameChar = ']' :: after := by
      rw [List.dropWhile_append_of_pos hchars, List.dropWhile_cons_of_neg (by decide)]
    obtain ⟨c, rest, rfl⟩ := List.exists_cons_of_ne_nil hname
    rw [bracketed?, if_pos (by simp), List.drop_left, htake, hdrop]
    rfl

/-- Within a segment, a bracketed name goes on up to the next closing bracket. -/
theorem bracketed?_of_noSlash (hname : name ≠ []) (hclosed : ']' ∉ name)
    (htext : '/' ∉ opening ++ (name ++ ']' :: after)) :
    bracketed? opening (opening ++ (name ++ ']' :: after)) = some (name, after) := by
  refine bracketed?_eq_some_iff.2 ⟨hname, fun c hc => ?_, rfl⟩
  have hbracket : c ≠ ']' := fun heq => hclosed (heq ▸ hc)
  have hslash : c ≠ '/' := by
    rintro rfl
    simp [hc] at htext
  simp [isNameChar, hbracket, hslash]

theorem opens_iff (htext : '/' ∉ text) :
    Opens opening text ↔ ∃ found, bracketed? opening text = some found := by
  constructor
  · rintro ⟨name, after, hname, hclosed, rfl⟩
    exact ⟨(name, after), bracketed?_of_noSlash hname hclosed htext⟩
  · rintro ⟨⟨name, after⟩, hfound⟩
    obtain ⟨hname, hchars, hsplit⟩ := bracketed?_eq_some_iff.1 hfound
    exact ⟨name, after, hname, fun hmem => absurd (hchars _ hmem) (by decide), hsplit⟩

theorem replaceBracketed_of_some (h : bracketed? opening text = some (name, after)) :
    replaceBracketed opening written text =
      written name ++ replaceBracketed opening written after := by
  cases text with
  | nil =>
    obtain ⟨hname, -, htext⟩ := bracketed?_eq_some_iff.1 h
    simp at htext
  | cons c rest =>
    rw [replaceBracketed]
    split
    · rename_i hfound
      cases h.symm.trans hfound
      rfl
    · rename_i hnone
      cases h.symm.trans hnone

theorem replaceBracketed_of_none {c : Char} {rest : List Char}
    (h : bracketed? opening (c :: rest) = none) :
    replaceBracketed opening written (c :: rest) =
      c :: replaceBracketed opening written rest := by
  rw [replaceBracketed]
  split
  · rename_i hfound
    cases h.symm.trans hfound
  · rfl

/-- Within a segment, replacing is rewriting. -/
theorem rewrites_replaceBracketed (htext : '/' ∉ text) :
    Rewrites opening written text (replaceBracketed opening written text) := by
  fun_induction replaceBracketed opening written text with
  | case1 => exact .nil
  | case2 c rest name after hfound ih =>
    obtain ⟨hname, hchars, hsplit⟩ := bracketed?_eq_some_iff.1 hfound
    have hclosed : ']' ∉ name := fun hmem => absurd (hchars _ hmem) (by decide)
    rw [hsplit] at htext ⊢
    exact .write hname hclosed (ih (by simp at htext; exact htext.2.2))
  | case3 c rest hnone ih =>
    have hopens : ¬ Opens opening (c :: rest) := by
      rw [opens_iff htext, hnone]
      rintro ⟨found, hfound⟩
      cases hfound
    exact .keep hopens (ih fun hmem => htext (List.mem_cons_of_mem c hmem))

theorem Rewrites.replaceBracketed_eq {result : List Char}
    (h : Rewrites opening written text result) (htext : '/' ∉ text) :
    replaceBracketed opening written text = result := by
  induction h with
  | nil => rw [replaceBracketed]
  | @keep c rest result hnone h ih =>
    rw [opens_iff htext] at hnone
    rw [replaceBracketed_of_none (Option.eq_none_iff_forall_ne_some.2 fun found hfound =>
      hnone ⟨found, hfound⟩), ih fun hmem => htext (List.mem_cons_of_mem c hmem)]
  | @write name after result hname hclosed h ih =>
    rw [replaceBracketed_of_some (bracketed?_of_noSlash hname hclosed htext), ih]
    simp only [List.mem_append, List.mem_cons, not_or] at htext
    exact htext.2.2.2

/-- A bracketed name does not go on over a slash. -/
theorem bracketed?_append_slash (tail : List Char) (htext : '/' ∉ text)
    (hopening : '/' ∉ opening) :
    bracketed? opening (text ++ '/' :: tail) =
      (bracketed? opening text).map fun found => (found.1, found.2 ++ '/' :: tail) := by
  cases hfound : bracketed? opening text with
  | some found =>
    obtain ⟨hname, hchars, rfl⟩ := bracketed?_eq_some_iff.1 hfound
    exact bracketed?_eq_some_iff.2 ⟨hname, hchars, by simp⟩
  | none =>
    refine Option.eq_none_iff_forall_ne_some.2 fun ⟨name, after⟩ hslash => ?_
    obtain ⟨hname, hchars, hsplit⟩ := bracketed?_eq_some_iff.1 hslash
    have hfront : '/' ∉ opening ++ (name ++ [']']) := by
      have hmem : '/' ∉ name := fun hmem => absurd (hchars _ hmem) (by decide)
      simp [hopening, hmem]
    have hsplit : text ++ '/' :: tail = opening ++ (name ++ [']']) ++ after := by
      simpa using hsplit
    -- The name ends within the text, since the slash behind the text is not in it.
    have hinside : ∃ rest, text = opening ++ (name ++ ']' :: rest) := by
      rcases List.append_eq_append_iff.1 hsplit with ⟨rest, hrest, htail⟩ | ⟨rest, hrest, -⟩
      · cases rest with
        | nil => exact ⟨[], by simpa using hrest.symm⟩
        | cons c rest =>
          obtain ⟨rfl, -⟩ := List.cons.inj htail
          rw [hrest] at hfront
          simp at hfront
      · exact ⟨rest, by simpa using hrest⟩
    obtain ⟨rest, rfl⟩ := hinside
    rw [bracketed?_eq_some_iff.2 ⟨hname, hchars, rfl⟩] at hfound
    cases hfound

theorem replaceBracketed_append_slash {tail : List Char} (htext : '/' ∉ text)
    (hopening : '/' ∉ opening) :
    replaceBracketed opening written (text ++ '/' :: tail) =
      replaceBracketed opening written text ++ '/' :: replaceBracketed opening written tail := by
  fun_induction replaceBracketed opening written text with
  | case1 =>
    have hnone : bracketed? opening [] = none := by
      refine Option.eq_none_iff_forall_ne_some.2 fun found hfound => ?_
      simpa using (bracketed?_eq_some_iff.1 hfound).2.2
    rw [List.nil_append, replaceBracketed_of_none, List.nil_append]
    simpa [hnone] using bracketed?_append_slash tail List.not_mem_nil hopening
  | case2 c rest name after hfound ih =>
    have hafter : '/' ∉ after := fun hmem => htext (by
      rw [(bracketed?_eq_some_iff.1 hfound).2.2]
      simp [hmem])
    have hslash := bracketed?_append_slash tail htext hopening
    rw [hfound, Option.map_some] at hslash
    rw [replaceBracketed_of_some hslash, ih hafter, List.append_assoc]
  | case3 c rest hnone ih =>
    have hslash := bracketed?_append_slash tail htext hopening
    rw [hnone, Option.map_none, List.cons_append] at hslash
    rw [List.cons_append, replaceBracketed_of_none hslash,
      ih fun hmem => htext (List.mem_cons_of_mem c hmem), List.cons_append]

/-- Replacing acts on each segment on its own. -/
theorem replaceBracketed_slashed {segments : List (List Char)} (hopening : '/' ∉ opening)
    (hsegments : ∀ segment ∈ segments, '/' ∉ segment) :
    replaceBracketed opening written (slashed segments) =
      slashed (segments.map (replaceBracketed opening written)) := by
  have hbehind : ∀ text, '/' ∉ text →
      replaceBracketed opening written (text ++ slashed segments) =
        replaceBracketed opening written text ++
          slashed (segments.map (replaceBracketed opening written)) := by
    induction segments with
    | nil => simp
    | cons segment segments ih =>
      intro text htext
      rw [slashed_cons, replaceBracketed_append_slash htext hopening,
        ih (fun other hmem => hsegments other (List.mem_cons_of_mem segment hmem)) segment
          (hsegments segment List.mem_cons_self), List.map_cons, slashed_cons]
  have hnil : replaceBracketed opening written [] = [] := by rw [replaceBracketed]
  simpa [hnil] using hbehind [] List.not_mem_nil

end Brackets

section LastSegment

variable {path extension front file stem : List Char} {c : Char}

theorem dropExtension_append (before : List Char) (hc : c ≠ '/') (hne : extension ≠ [])
    (hchars : ∀ d ∈ extension, isExtensionChar d = true) :
    dropExtension (before ++ c :: '.' :: extension) = before ++ [c] := by
  have hreverse : (before ++ c :: '.' :: extension).reverse =
      extension.reverse ++ '.' :: c :: before.reverse := by simp
  have hchars : ∀ d ∈ extension.reverse, isExtensionChar d = true :=
    fun d hd => hchars d (List.mem_reverse.1 hd)
  have htake : (before ++ c :: '.' :: extension).reverse.takeWhile isExtensionChar =
      extension.reverse := by
    rw [hreverse, List.takeWhile_append_of_pos hchars, List.takeWhile_cons_of_neg (by decide),
      List.append_nil]
  have hdrop : (before ++ c :: '.' :: extension).reverse.dropWhile isExtensionChar =
      '.' :: c :: before.reverse := by
    rw [hreverse, List.dropWhile_append_of_pos hchars, List.dropWhile_cons_of_neg (by decide)]
  obtain ⟨d, rest, hrest⟩ := List.exists_cons_of_ne_nil (List.reverse_ne_nil_iff.2 hne)
  rw [dropExtension, htake, hdrop, hrest]
  simp [hc]

theorem dropExtension_of_forall_ne (h : ∀ before c extension, c ≠ '/' → extension ≠ [] →
    (∀ d ∈ extension, isExtensionChar d = true) → path ≠ before ++ c :: '.' :: extension) :
    dropExtension path = path := by
  unfold dropExtension
  split
  · rename_i d rest c front htake hdrop
    split
    · rfl
    · rename_i hc
      refine absurd ?_ (h front.reverse c (d :: rest).reverse hc (by simp) fun e he => ?_)
      · apply List.reverse_injective
        rw [← List.takeWhile_append_dropWhile (p := isExtensionChar) (l := path.reverse), htake,
          hdrop]
        simp
      · rw [← htake] at he
        exact List.all_eq_true.1 List.all_takeWhile e (List.mem_reverse.1 he)
  · rfl

/-- What ends a path and has no slash lies in its last segment. -/
theorem ends_of_noSlash {before back : List Char} (hback : '/' ∉ back)
    (h : front ++ '/' :: file = before ++ back) : ∃ stem, file = stem ++ back := by
  rcases List.append_eq_append_iff.1 h with ⟨rest, -, hrest⟩ | ⟨rest, -, hrest⟩
  · cases rest with
    | nil =>
      rw [List.nil_append] at hrest
      exact absurd (hrest ▸ List.mem_cons_self) hback
    | cons d rest => exact ⟨rest, (List.cons.inj hrest).2⟩
  · exact absurd (by rw [hrest]; simp) hback

/-- The extension is dropped from the last segment, and from no other. -/
theorem dropExtension_of_stem (h : Stem file stem) (hfile : '/' ∉ file) :
    dropExtension (front ++ '/' :: file) = front ++ '/' :: stem := by
  cases h with
  | @cut _ extension hstem hextension hlast =>
    obtain ⟨start, c, rfl⟩ := (List.eq_nil_or_concat' stem).resolve_left hstem
    simp only [List.mem_append, List.mem_cons, List.not_mem_nil, or_false, not_or] at hfile
    obtain ⟨⟨-, hc⟩, -, hslash⟩ := hfile
    have hchars : ∀ d ∈ extension, isExtensionChar d = true := by
      intro d hd
      have hpoint : d ≠ '.' := fun heq => hlast (heq ▸ hd)
      have hslash : d ≠ '/' := fun heq => hslash (heq ▸ hd)
      simp [isExtensionChar, hpoint, hslash]
    have hdrop := dropExtension_append (front ++ '/' :: start) (Ne.symm hc) hextension
      hchars
    simpa using hdrop
  | whole hwhole =>
    refine dropExtension_of_forall_ne fun before c extension hc hne hchars hpath => ?_
    have hslash : '/' ∉ c :: '.' :: extension := by
      have hmem : '/' ∉ extension := fun hmem => absurd (hchars _ hmem) (by decide)
      simp [Ne.symm hc, hmem]
    obtain ⟨start, rfl⟩ := ends_of_noSlash hslash hpath
    have hpoint : '.' ∉ extension := fun hmem => absurd (hchars _ hmem) (by decide)
    exact hwhole (start ++ [c]) extension (by simp) hne hpoint (by simp)

/-- Only a last segment that is `index` becomes nothing. -/
theorem collapseIndex_append (hstem : '/' ∉ stem) :
    collapseIndex (front ++ '/' :: stem) =
      front ++ '/' :: if stem = "index".toList then [] else stem := by
  have hindex : "index".toList = ['i', 'n', 'd', 'e', 'x'] := by decide
  rw [collapseIndex, hindex]
  by_cases heq : stem = ['i', 'n', 'd', 'e', 'x']
  · subst heq
    rw [if_pos (by simp), if_pos rfl, ← List.singleton_append, ← List.append_assoc]
    exact List.take_left' (by simp)
  · rw [if_neg heq, if_neg]
    intro hsuffix
    obtain ⟨before, hbefore⟩ := List.isSuffixOf_iff_suffix.1 hsuffix
    have hreverse : ['i', 'n', 'd', 'e', 'x'].reverse ++ '/' :: before.reverse =
        stem.reverse ++ '/' :: front.reverse := by
      simpa using congrArg List.reverse hbefore
    have hsame := (Glob.eq_of_append_boundary (by decide) (by simpa using hstem) (.slash _)
      (.slash _) hreverse).1
    exact heq (List.reverse_injective hsame).symm

end LastSegment

section Rewriting

variable {opening text result tail : List Char} {written : List Char → List Char}

theorem Rewrites.noSlash (h : Rewrites opening written text result)
    (hwritten : ∀ name, '/' ∉ name → '/' ∉ written name) (htext : '/' ∉ text) : '/' ∉ result := by
  induction h with
  | nil => exact htext
  | keep hnone h ih =>
    simp only [List.mem_cons, not_or] at htext ⊢
    exact ⟨htext.1, ih htext.2⟩
  | write hname hclosed h ih =>
    simp only [List.mem_append, List.mem_cons, not_or] at htext ⊢
    exact ⟨hwritten _ htext.2.1, ih htext.2.2.2⟩

theorem Rewrites.ne_nil (h : Rewrites opening written text result)
    (hwritten : ∀ name, written name ≠ []) (htext : text ≠ []) : result ≠ [] := by
  cases h with
  | nil => exact htext
  | keep hnone h => exact List.cons_ne_nil _ _
  | write hname hclosed h => exact List.append_ne_nil_of_left_ne_nil (hwritten _) _

/-- What has no closing bracket opens nothing, and closes nothing in front of it. -/
theorem opens_of_append (htail : ']' ∉ tail) (h : Opens opening (text ++ tail)) :
    Opens opening text := by
  obtain ⟨name, after, hname, hclosed, hsplit⟩ := h
  have hsplit : text ++ tail = (opening ++ name) ++ ']' :: after := by simpa using hsplit
  rcases List.append_eq_append_iff.1 hsplit with ⟨rest, -, hrest⟩ | ⟨rest, htext, hrest⟩
  · exact absurd (by rw [hrest]; simp) htail
  · cases rest with
    | nil =>
      rw [List.nil_append] at hrest
      exact absurd (hrest ▸ List.mem_cons_self) htail
    | cons c rest =>
      obtain ⟨rfl, -⟩ := List.cons.inj hrest
      exact ⟨name, rest, hname, hclosed, by simpa using htext⟩

theorem rewrites_self (htext : ']' ∉ text) : Rewrites opening written text text := by
  induction text with
  | nil => exact .nil
  | cons c rest ih =>
    refine .keep ?_ (ih fun hmem => htext (List.mem_cons_of_mem c hmem))
    rintro ⟨name, after, -, -, hsplit⟩
    exact htext (by rw [hsplit]; simp)

/-- What stands behind the last closing bracket is kept. -/
theorem Rewrites.append (h : Rewrites opening written text result) (htail : ']' ∉ tail) :
    Rewrites opening written (text ++ tail) (result ++ tail) := by
  induction h with
  | nil => exact rewrites_self htail
  | keep hnone h ih => exact .keep (fun hopens => hnone (opens_of_append htail hopens)) ih
  | write hname hclosed h ih => simpa using Rewrites.write hname hclosed ih

end Rewriting

section Segment

variable {segment pattern file stem tail : List Char}

theorem SegmentPattern.eq (h : SegmentPattern segment pattern) (hsegment : '/' ∉ segment) :
    parameters (catchAlls segment) = pattern := by
  obtain ⟨caught, hcaught, hpattern⟩ := h
  rw [catchAlls, hcaught.replaceBracketed_eq hsegment]
  exact hpattern.replaceBracketed_eq (hcaught.noSlash (by simp) hsegment)

theorem segmentPattern_parameters (hsegment : '/' ∉ segment) :
    SegmentPattern segment (parameters (catchAlls segment)) := by
  have hcaught : Rewrites ['[', '.', '.', '.'] (fun _ => ['*']) segment (catchAlls segment) :=
    rewrites_replaceBracketed hsegment
  exact ⟨_, hcaught, rewrites_replaceBracketed (hcaught.noSlash (by simp) hsegment)⟩

theorem SegmentPattern.noSlash (h : SegmentPattern segment pattern) (hsegment : '/' ∉ segment) :
    '/' ∉ pattern := by
  obtain ⟨caught, hcaught, hpattern⟩ := h
  exact hpattern.noSlash (by simp) (hcaught.noSlash (by simp) hsegment)

theorem SegmentPattern.ne_nil (h : SegmentPattern segment pattern) (hsegment : segment ≠ []) :
    pattern ≠ [] := by
  obtain ⟨caught, hcaught, hpattern⟩ := h
  exact hpattern.ne_nil (by simp) (hcaught.ne_nil (by simp) hsegment)

theorem SegmentPattern.append (h : SegmentPattern segment pattern) (htail : ']' ∉ tail) :
    SegmentPattern (segment ++ tail) (pattern ++ tail) := by
  obtain ⟨caught, hcaught, hpattern⟩ := h
  exact ⟨caught ++ tail, hcaught.append htail, hpattern.append htail⟩

/-- Both kinds of bracketed names are rewritten in each segment on its own. -/
theorem parameters_catchAlls_slashed {segments patterns : List (List Char)}
    (hsegments : ∀ segment ∈ segments, '/' ∉ segment)
    (hpatterns : List.Forall₂ SegmentPattern segments patterns) :
    parameters (catchAlls (slashed segments)) = slashed patterns := by
  have hcaught : ∀ segment ∈ segments.map catchAlls, '/' ∉ segment := by
    simp only [List.mem_map]
    rintro _ ⟨segment, hmem, rfl⟩
    exact (rewrites_replaceBracketed (hsegments segment hmem)).noSlash (by simp)
      (hsegments segment hmem)
  have heach : (segments.map catchAlls).map parameters = patterns := by
    clear hcaught
    induction hpatterns with
    | nil => rfl
    | cons hpattern hpatterns ih =>
      rw [List.map_cons, List.map_cons, hpattern.eq (hsegments _ List.mem_cons_self),
        ih fun segment hmem => hsegments segment (List.mem_cons_of_mem _ hmem)]
  calc parameters (catchAlls (slashed segments))
      = parameters (slashed (segments.map catchAlls)) :=
        congrArg parameters (replaceBracketed_slashed (by decide) hsegments)
    _ = slashed ((segments.map catchAlls).map parameters) :=
        replaceBracketed_slashed (by decide) hcaught
    _ = slashed patterns := by rw [heach]

theorem noSlash_of_patterns {segments patterns : List (List Char)}
    (hsegments : ∀ segment ∈ segments, '/' ∉ segment)
    (hpatterns : List.Forall₂ SegmentPattern segments patterns) :
    ∀ pattern ∈ patterns, '/' ∉ pattern := by
  induction hpatterns with
  | nil => simp
  | cons hpattern hpatterns ih =>
    simp only [List.forall_mem_cons] at hsegments ⊢
    exact ⟨hpattern.noSlash hsegments.1, ih hsegments.2⟩

theorem exists_stem (file : List Char) : ∃ stem, Stem file stem := by
  by_cases h : ∃ stem extension, stem ≠ [] ∧ extension ≠ [] ∧ '.' ∉ extension ∧
      file = stem ++ '.' :: extension
  · obtain ⟨stem, extension, hstem, hextension, hlast, rfl⟩ := h
    exact ⟨stem, .cut hstem hextension hlast⟩
  · exact ⟨file, .whole fun stem extension hstem hextension hlast heq =>
      h ⟨stem, extension, hstem, hextension, hlast, heq⟩⟩

theorem Stem.isPrefix (h : Stem file stem) : stem <+: file := by
  cases h with
  | cut => exact List.prefix_append _ _
  | whole => exact List.prefix_rfl

end Segment

section Path

variable {directories : List String} {file : String} {names : List (List Char)}
  {shown : List Char}

theorem toList_relativePath (directories : List String) (file : String) :
    (relativePath directories file).toList =
      '.' :: slashed ((directories ++ [file]).map String.toList) := by
  have hdot : "./".toList = ['.', '/'] := by decide
  have hslash : "/".toList = ['/'] := by decide
  have hjoined : '/' :: ['/'].intercalate ((directories ++ [file]).map String.toList) =
      slashed ((directories ++ [file]).map String.toList) := by
    obtain ⟨segment, segments, hsegments⟩ := List.exists_cons_of_ne_nil
      (show (directories ++ [file]).map String.toList ≠ [] by simp)
    rw [hsegments, intercalate_slash_cons, slashed_cons]
  rw [relativePath, String.toList_append, String.toList_intercalate, hdot, hslash, ← hjoined]
  rfl

theorem map_slashes_relativePath
    (hsegments : ∀ segment ∈ directories ++ [file], IsSegment segment) :
    ((relativePath directories file).toList.map fun c => if c = '\\' then '/' else c) =
      (relativePath directories file).toList := by
  have hkept : ∀ c ∈ (relativePath directories file).toList, c ≠ '\\' := by
    rw [toList_relativePath]
    intro c hc
    simp only [slashed, List.mem_cons, List.mem_flatMap, List.mem_map] at hc
    obtain rfl | ⟨_, ⟨segment, hmem, rfl⟩, rfl | hc⟩ := hc
    · decide
    · decide
    · exact fun heq => (hsegments segment hmem).no_backslash (heq ▸ hc)
  conv_rhs => rw [← List.map_id (relativePath directories file).toList]
  exact List.map_congr_left fun c hc => if_neg (hkept c hc)

theorem count_slashed {segments : List (List Char)}
    (hsegments : ∀ segment ∈ segments, '/' ∉ segment) :
    (slashed segments).count '/' = segments.length := by
  induction segments with
  | nil => rfl
  | cons segment segments ih =>
    rw [slashed_cons, List.count_cons_self, List.count_append,
      List.count_eq_zero.2 (hsegments segment List.mem_cons_self),
      ih fun other hmem => hsegments other (List.mem_cons_of_mem segment hmem), Nat.zero_add,
      List.length_cons]

/-- The pattern, from the patterns of the directories and of the file. -/
theorem ofPath_relativePath (hsegments : ∀ segment ∈ directories ++ [file], IsSegment segment)
    (hnames : List.Forall₂ SegmentPattern (directories.map String.toList) names)
    (hfile : FilePattern file.toList shown) :
    ofPath (relativePath directories file) = String.ofList (slashed (names ++ [shown])) := by
  obtain ⟨pattern, stem, hpattern, hstem, rfl⟩ := hfile
  have hslashes : ∀ segment ∈ (directories ++ [file]).map String.toList, '/' ∉ segment := by
    simp only [List.mem_map]
    rintro _ ⟨segment, hmem, rfl⟩
    exact (hsegments segment hmem).no_slash
  have hrooted : rooted ((relativePath directories file).toList) =
      slashed ((directories ++ [file]).map String.toList) := by
    rw [toList_relativePath]
    obtain ⟨segment, segments, hcons⟩ := List.exists_cons_of_ne_nil
      (show (directories ++ [file]).map String.toList ≠ [] by simp)
    rw [hcons]
    rfl
  have hpatterns : List.Forall₂ SegmentPattern ((directories ++ [file]).map String.toList)
      (names ++ [pattern]) := by
    rw [List.map_append]
    exact List.rel_append hnames (.cons hpattern .nil)
  have hpatternSlash : '/' ∉ pattern := hpattern.noSlash (hslashes _ (by simp))
  have hstemSlash : '/' ∉ stem := fun hmem => hpatternSlash (hstem.isPrefix.subset hmem)
  have hlast : ∀ last : List Char, slashed (names ++ [last]) = slashed names ++ '/' :: last := by
    simp
  rw [ofPath, map_slashes_relativePath hsegments, hrooted,
    parameters_catchAlls_slashed hslashes hpatterns, hlast, hlast,
    dropExtension_of_stem hstem hpatternSlash, collapseIndex_append hstemSlash]

theorem exists_patterns (hsegments : ∀ segment ∈ directories ++ [file], IsSegment segment) :
    ∃ names shown, List.Forall₂ SegmentPattern (directories.map String.toList) names ∧
      FilePattern file.toList shown := by
  have hnames : List.Forall₂ SegmentPattern (directories.map String.toList)
      ((directories.map String.toList).map fun segment => parameters (catchAlls segment)) := by
    rw [List.forall₂_map_right_iff, List.forall₂_same]
    simp only [List.mem_map]
    rintro _ ⟨segment, hmem, rfl⟩
    exact segmentPattern_parameters (hsegments segment (by simp [hmem])).no_slash
  have hpattern := segmentPattern_parameters (hsegments file (by simp)).no_slash
  obtain ⟨stem, hstem⟩ := exists_stem (parameters (catchAlls file.toList))
  exact ⟨_, _, hnames, _, stem, hpattern, hstem, rfl⟩

theorem FilePattern.noSlash (h : FilePattern file.toList shown) (hfile : '/' ∉ file.toList) :
    '/' ∉ shown := by
  obtain ⟨pattern, stem, hpattern, hstem, rfl⟩ := h
  split
  · exact List.not_mem_nil
  · exact fun hmem => hpattern.noSlash hfile (hstem.isPrefix.subset hmem)

/-- The pattern of a file with an extension is that of its name without the extension, whichever
extension it is. -/
theorem filePattern_extension {base extension : String} (hextension : IsExtension extension)
    {pattern : List Char} (hbase : base ≠ "") (hpattern : SegmentPattern base.toList pattern) :
    FilePattern (base ++ "." ++ extension).toList
      (if pattern = "index".toList then [] else pattern) := by
  have hdot : ".".toList = ['.'] := by decide
  refine ⟨pattern ++ '.' :: extension.toList, pattern, ?_, ?_, rfl⟩
  · rw [String.toList_append, String.toList_append, hdot, List.append_assoc, List.singleton_append]
    exact hpattern.append (by simp [hextension.no_closing])
  · exact .cut (hpattern.ne_nil (by simpa using hbase)) (by simpa using hextension.ne_empty)
      hextension.no_point

/-- The pattern of a relative path acts segment by segment: behind a slash each, it has the patterns
of the directories, and last that of the file. So it starts with a slash, has one slash for each
segment, and does not depend on the extension of the file. -/
theorem ofPath_segmentwise (directories : List String) (file : String)
    (hsegments : ∀ segment ∈ directories ++ [file], IsSegment segment) :
    (∃ names shown, List.Forall₂ SegmentPattern (directories.map String.toList) names ∧
      FilePattern file.toList shown) ∧
    (∀ names shown, List.Forall₂ SegmentPattern (directories.map String.toList) names →
      FilePattern file.toList shown →
      ofPath (relativePath directories file) = String.ofList (slashed (names ++ [shown]))) ∧
    (∃ rest, ofPath (relativePath directories file) = "/" ++ rest) ∧
    (ofPath (relativePath directories file)).toList.count '/' = directories.length + 1 ∧
    ∀ base extension other, file = base ++ "." ++ extension → base ≠ "" →
      IsExtension extension → IsExtension other →
      ofPath (relativePath directories (base ++ "." ++ other)) =
        ofPath (relativePath directories file) := by
  obtain ⟨names, shown, hnames, hfile⟩ := exists_patterns hsegments
  have hpattern := ofPath_relativePath hsegments hnames hfile
  refine ⟨⟨names, shown, hnames, hfile⟩,
    fun names shown hnames hfile => ofPath_relativePath hsegments hnames hfile, ?_, ?_, ?_⟩
  · have hfirst : ∃ rest, slashed (names ++ [shown]) = '/' :: rest := by
      cases names with
      | nil => exact ⟨_, rfl⟩
      | cons name names => exact ⟨_, rfl⟩
    obtain ⟨rest, hrest⟩ := hfirst
    refine ⟨String.ofList rest, String.toList_injective ?_⟩
    simp [hpattern, hrest]
  · have hnoSlash : ∀ last ∈ names ++ [shown], '/' ∉ last := by
      simp only [List.mem_append, List.mem_singleton]
      rintro last (hmem | rfl)
      · refine noSlash_of_patterns ?_ hnames last hmem
        simp only [List.mem_map]
        rintro _ ⟨segment, hsegment, rfl⟩
        exact (hsegments segment (by simp [hsegment])).no_slash
      · exact hfile.noSlash (hsegments file (by simp)).no_slash
    rw [hpattern, String.toList_ofList, count_slashed hnoSlash, List.length_append,
      ← hnames.length_eq, List.length_map, List.length_singleton]
  · rintro base extension other rfl hbase hextension hother
    have hsegment : IsSegment base ∧ IsSegment (base ++ "." ++ other) := by
      obtain ⟨hslash, hbackslash⟩ := hsegments (base ++ "." ++ extension) (by simp)
      simp only [String.toList_append, List.mem_append, not_or] at hslash hbackslash
      refine ⟨⟨hslash.1.1, hbackslash.1.1⟩, ?_, ?_⟩
      · simp [hslash.1.1, hother.no_slash]
      · simp [hbackslash.1.1, hother.no_backslash]
    have hothers : ∀ segment ∈ directories ++ [base ++ "." ++ other], IsSegment segment := by
      simp only [List.mem_append, List.mem_singleton]
      rintro segment (hmem | rfl)
      · exact hsegments segment (by simp [hmem])
      · exact hsegment.2
    have hbasePattern := segmentPattern_parameters hsegment.1.no_slash
    rw [ofPath_relativePath hothers hnames (filePattern_extension hother hbase hbasePattern),
      ofPath_relativePath hsegments hnames (filePattern_extension hextension hbase hbasePattern)]

/-- A file with two points, below a directory: only the last extension goes. -/
theorem ofPath_segmentwise_catchAll :
    (∀ segment ∈ ["docs"] ++ ["[...slug].d.ts"], IsSegment segment) ∧
    List.Forall₂ SegmentPattern (["docs"].map String.toList) ["docs".toList] ∧
    FilePattern "[...slug].d.ts".toList "*.d".toList ∧
    ofPath "./docs/[...slug].d.ts" = "/docs/*.d" := by
  have hsegments : ∀ segment ∈ ["docs"] ++ ["[...slug].d.ts"], IsSegment segment := by
    simp only [List.cons_append, List.nil_append, List.forall_mem_cons, List.not_mem_nil,
      false_implies, implies_true, and_true]
    exact ⟨⟨by decide, by decide⟩, ⟨by decide, by decide⟩⟩
  have hnames : List.Forall₂ SegmentPattern (["docs"].map String.toList) ["docs".toList] :=
    .cons ⟨_, rewrites_self (by decide), rewrites_self (by decide)⟩ .nil
  have hcaught : Rewrites ['[', '.', '.', '.'] (fun _ => ['*']) "[...slug].d.ts".toList
      "*.d.ts".toList :=
    @Rewrites.write _ _ "slug".toList _ _ (by decide) (by decide) (rewrites_self (by decide))
  have hstem : Stem "*.d.ts".toList "*.d".toList :=
    @Stem.cut "*.d".toList "ts".toList (by decide) (by decide) (by decide)
  have hfile : FilePattern "[...slug].d.ts".toList "*.d".toList :=
    ⟨_, _, ⟨_, hcaught, rewrites_self (by decide)⟩, hstem, by decide⟩
  refine ⟨hsegments, hnames, hfile, ?_⟩
  exact (ofPath_segmentwise ["docs"] "[...slug].d.ts" hsegments).2.1 _ _ hnames hfile

end Path

end RouteTable.Pattern
