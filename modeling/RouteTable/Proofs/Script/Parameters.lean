import RouteTable.Exports.Collect
import RouteTable.Proofs.Script.Commented

/-!
Lists of type parameters where an operand may stand. What the `<` in front of one is read as depends
on its first parameter alone: on the name, and on the character or the word behind the name.
-/

namespace RouteTable.Script

open Cursor Text

/-- A type parameter in a list: its name between white space, and the texts behind its `extends` and
behind its `=`. -/
structure TypeParameter where
  front : List Char
  name : List Char
  gap : List Char
  constraint : Option (List Char)
  default : Option (List Char)

namespace TypeParameter

/-- What follows the name of a parameter and the white space behind it. -/
def bounds (parameter : TypeParameter) : List Char :=
  parameter.constraint.elim [] ("extends".toList ++ ·) ++ parameter.default.elim [] ('=' :: ·)

def text (parameter : TypeParameter) : List Char :=
  parameter.front ++ (parameter.name ++ (parameter.gap ++ parameter.bounds))

/-- A name is kept apart by white space, a byte order mark included, and by the marks of a list. Any
spelling of one will do, with escapes or without. -/
structure IsWritten (parameter : TypeParameter) : Prop where
  front : ∀ c ∈ parameter.front, isSpacing c = true
  gap : ∀ c ∈ parameter.gap, isSpacing c = true
  named : parameter.name ≠ []
  name : ∀ c ∈ parameter.name, isSpacing c = false ∧ c ∉ ['<', '>', ',', '=']
  apart : parameter.constraint.isSome = true → parameter.gap ≠ []

end TypeParameter

/-- A list of type parameters without its brackets. A comma may follow the last one, with white
space behind it. -/
structure ParameterList where
  first : TypeParameter
  others : List TypeParameter
  trailing : Option (List Char)

namespace ParameterList

def furtherText (list : ParameterList) : List Char :=
  list.others.flatMap (',' :: ·.text) ++ list.trailing.elim [] (',' :: ·)

def text (list : ParameterList) : List Char :=
  list.first.text ++ list.furtherText

/-- What has to follow the name of the first parameter for the list to be found: a comma, or
`extends` and a space. -/
def goesOn (list : ParameterList) : Bool :=
  match list.first.constraint, list.first.default with
  | some bound, _ => bound.head? == some ' '
  | none, some _ => false
  | none, none => !list.others.isEmpty || list.trailing.isSome

/-- Whether the `<` in front of a list is found to open one. No byte order mark may stand behind the
first name, and the name has to be spelled without escapes. In front of the name a byte order mark
will do, and so will the first character of a name that no tag can have. -/
def isRecognized (list : ParameterList) : Bool :=
  list.first.front.contains '\uFEFF' || !list.first.name.head?.any isNameStart ||
    list.first.name.all isTagNamePart && !list.first.gap.contains '\uFEFF' && list.goesOn

end ParameterList

section Lookahead

variable {gap rest : List Char}

/-- White space without a byte order mark is passed. -/
theorem dropWhile_isBlank (hgap : ∀ c ∈ gap, isSpacing c = true) (hmark : '\uFEFF' ∉ gap)
    (hrest : rest.head?.any isBlank = false) : (gap ++ rest).dropWhile isBlank = rest := by
  rw [List.dropWhile_append_of_pos fun c hc => isBlank_of_isSpacing (hgap c hc) (by grind)]
  cases rest with
  | nil => rfl
  | cons c s => exact List.dropWhile_cons_of_neg (by simpa using hrest)

/-- The first byte order mark in white space is not passed. -/
theorem head?_dropWhile_isBlank (hgap : ∀ c ∈ gap, isSpacing c = true) (hmark : '\uFEFF' ∈ gap)
    (rest : List Char) : ((gap ++ rest).dropWhile isBlank).head? = some '\uFEFF' := by
  induction gap with
  | nil => cases hmark
  | cons c s ih =>
    rw [List.forall_mem_cons] at hgap
    rw [List.cons_append]
    by_cases hc : c = '\uFEFF'
    · rw [hc]
      rfl
    · rw [List.dropWhile_cons_of_pos (isBlank_of_isSpacing hgap.1 hc)]
      exact ih hgap.2 ((List.mem_cons.1 hmark).resolve_left (Ne.symm hc))

theorem continuesParameters_gap (hgap : ∀ c ∈ gap, isSpacing c = true)
    (hrest : rest.head?.any isBlank = false) :
    continuesParameters (gap ++ rest) = (!gap.contains '\uFEFF' && continuesParameters rest) := by
  by_cases hmark : '\uFEFF' ∈ gap
  · obtain ⟨s, hs⟩ := List.head?_eq_some_iff.1 (head?_dropWhile_isBlank hgap hmark rest)
    simp [continuesParameters, hs, hmark, List.isPrefixOf]
  · have hnone : rest.dropWhile isBlank = rest :=
      dropWhile_isBlank (List.forall_mem_nil _) List.not_mem_nil hrest
    simp [continuesParameters, dropWhile_isBlank hgap hmark hrest, hnone, hmark]

/-- The part of a name from its first character on that no tag can have. -/
theorem dropWhile_isTagNamePart_name {name : List Char}
    (hname : ∀ c ∈ name, isSpacing c = false ∧ c ∉ ['<', '>', ',', '='])
    (hparts : ¬ name.all isTagNamePart = true) :
    ∃ d s, name.dropWhile isTagNamePart = d :: s ∧ isBlank d = false ∧ d ≠ ',' ∧ d ≠ 'e' := by
  have hleft : name.dropWhile isTagNamePart ≠ [] := by
    rwa [ne_eq, List.dropWhile_eq_nil_iff, ← List.all_eq_true]
  obtain ⟨d, s, hs⟩ := List.exists_cons_of_ne_nil hleft
  have hmem : d ∈ name := (List.dropWhile_sublist isTagNamePart).subset (hs ▸ List.mem_cons_self)
  have hpart : isTagNamePart d = false := by
    have hhead := List.head?_dropWhile_not isTagNamePart name
    rw [hs] at hhead
    simpa using hhead
  refine ⟨d, s, hs, ?_, ?_, ?_⟩
  · have hspacing := (hname d hmem).1
    simp only [isSpacing, Bool.or_eq_false_iff] at hspacing
    exact hspacing.1.2
  · rintro rfl
    exact (hname ',' hmem).2 (by decide)
  · rintro rfl
    revert hpart
    decide

/-- In front of a name, a `<` opens no element if the name is that of a type parameter by what
follows it. -/
theorem opensElement_named {front name : List Char} (hfront : ∀ c ∈ front, isSpacing c = true)
    (hnamed : name ≠ []) (hname : ∀ c ∈ name, isSpacing c = false ∧ c ∉ ['<', '>', ',', '='])
    (hrest : rest.head?.any isTagNamePart = false) :
    opensElement ('<' :: (front ++ (name ++ rest))) =
      !(front.contains '\uFEFF' || !name.head?.any isNameStart ||
        name.all isTagNamePart && continuesParameters rest) := by
  by_cases hmark : '\uFEFF' ∈ front
  · obtain ⟨s, hs⟩ := List.head?_eq_some_iff.1
      (head?_dropWhile_isBlank hfront hmark (name ++ rest))
    have hstart : isNameStart '\uFEFF' = false := by
      rw [← Bool.not_eq_true]
      intro hname
      have hpart := isTagNamePart_of_isNameStart hname (by decide)
      rw [isTagNamePart_eq_false_of_isSpacing (by decide)] at hpart
      cases hpart
    simp [opensElement, hs, hmark, hstart]
  · obtain ⟨c, s, rfl⟩ := List.exists_cons_of_ne_nil hnamed
    obtain ⟨hspacing, hplain⟩ := hname c List.mem_cons_self
    have hblank : isBlank c = false := by
      simp only [isSpacing, Bool.or_eq_false_iff] at hspacing
      exact hspacing.1.2
    have hend : (c == '>') = false := by
      rw [beq_eq_false_iff_ne]
      rintro rfl
      exact hplain (by decide)
    have hfirst : ((c :: s) ++ rest).head?.any isBlank = false := by simp [hblank]
    have hpassed := dropWhile_isBlank hfront hmark hfirst
    have hbehind : ((c :: s) ++ rest).dropWhile isTagNamePart =
        if (c :: s).all isTagNamePart = true then rest
        else (c :: s).dropWhile isTagNamePart ++ rest := by
      split
      · rename_i hparts
        rw [List.all_eq_true] at hparts
        rw [List.dropWhile_append_of_pos hparts]
        cases rest with
        | nil => rfl
        | cons d t => exact List.dropWhile_cons_of_neg (by simpa using hrest)
      · rename_i hparts
        refine dropWhile_append_of_ne_nil ?_ rest
        rwa [ne_eq, List.dropWhile_eq_nil_iff, ← List.all_eq_true]
    by_cases hparts : (c :: s).all isTagNamePart = true
    · rw [if_pos hparts] at hbehind
      simp only [List.cons_append] at hpassed hbehind
      simp only [opensElement, List.tail_cons, List.cons_append, hpassed, hbehind]
      simp [hend, hmark, hparts, continuesParameters]
    · rw [if_neg hparts] at hbehind
      obtain ⟨d, t, hd, hdblank, hcomma, he⟩ := dropWhile_isTagNamePart_name hname hparts
      rw [hd] at hbehind
      simp only [List.cons_append] at hpassed hbehind
      simp only [opensElement, List.tail_cons, List.cons_append, hpassed, hbehind]
      simp [hend, hmark, hparts, hdblank, hcomma, Ne.symm he, List.isPrefixOf]

end Lookahead

section Lists

variable {list : ParameterList}

/-- Behind the bounds of its last parameter, a list goes on with a comma or ends. -/
theorem furtherText_cases (list : ParameterList) (rest : List Char) :
    ∃ c s, list.furtherText ++ '>' :: rest = c :: s ∧
      c = if !list.others.isEmpty || list.trailing.isSome then ',' else '>' := by
  obtain ⟨first, others, trailing⟩ := list
  cases others with
  | cons => exact ⟨_, _, rfl, rfl⟩
  | nil =>
    cases trailing with
    | none => exact ⟨_, _, rfl, rfl⟩
    | some => exact ⟨_, _, rfl, rfl⟩

/-- What stands behind the name of the first parameter tells whether the list is found. -/
theorem continuesParameters_bounds (list : ParameterList) (rest : List Char) :
    ∃ c s, list.first.bounds ++ (list.furtherText ++ '>' :: rest) = c :: s ∧
      isBlank c = false ∧ (list.first.constraint.isSome = true ∨ isTagNamePart c = false) ∧
        continuesParameters (c :: s) = list.goesOn := by
  obtain ⟨d, t, hfurther, hd⟩ := furtherText_cases list rest
  have hmarks : isBlank '=' = false ∧ isBlank ',' = false ∧ isBlank '>' = false ∧
      isBlank 'e' = false := by decide
  have hparts : isTagNamePart '=' = false ∧ isTagNamePart ',' = false ∧
      isTagNamePart '>' = false := by decide +kernel
  cases hconstraint : list.first.constraint with
  | some bound =>
    have hspace : [' '].isPrefixOf
        (bound ++ (list.first.default.elim [] ('=' :: ·) ++ d :: t)) =
          (bound.head? == some ' ') := by
      cases bound with
      | cons b bound => simp [List.isPrefixOf, eq_comm]
      | nil =>
        cases list.first.default with
        | some value => simp [List.isPrefixOf]
        | none => split at hd <;> simp [List.isPrefixOf, hd]
    refine ⟨'e', "xtends".toList ++ (bound ++ (list.first.default.elim [] ('=' :: ·) ++ d :: t)),
      ?_, hmarks.2.2.2, .inl rfl, ?_⟩
    · simp [TypeParameter.bounds, hconstraint, hfurther]
    · simpa [ParameterList.goesOn, continuesParameters, hconstraint, hmarks, List.isPrefixOf]
        using hspace
  | none =>
    cases hdefault : list.first.default with
    | some value =>
      refine ⟨'=', value ++ (d :: t), ?_, hmarks.1, .inr hparts.1, ?_⟩
      · simp [TypeParameter.bounds, hconstraint, hdefault, hfurther]
      · simp [ParameterList.goesOn, continuesParameters, hconstraint, hdefault, hmarks,
          List.isPrefixOf]
    | none =>
      refine ⟨d, t, ?_, ?_⟩
      · simp [TypeParameter.bounds, hconstraint, hdefault, hfurther]
      · split at hd <;>
          simp_all [ParameterList.goesOn, continuesParameters, List.isPrefixOf]

/-- Which lists of type parameters a `<` is found to open, rather than an element. -/
theorem opensElement_list (hlist : list.first.IsWritten) (rest : List Char) :
    opensElement ('<' :: (list.text ++ '>' :: rest)) = !list.isRecognized := by
  obtain ⟨c, s, hafter, hblank, hpart, hgoes⟩ := continuesParameters_bounds list rest
  have hparts : list.text ++ '>' :: rest =
      list.first.front ++ (list.first.name ++ (list.first.gap ++ c :: s)) := by
    rw [← hafter]
    simp [ParameterList.text, TypeParameter.text]
  have hhead : (list.first.gap ++ c :: s).head?.any isTagNamePart = false := by
    cases hgap : list.first.gap with
    | nil =>
      have hunbound : ¬ list.first.constraint.isSome = true := fun h => hlist.apart h hgap
      simpa using hpart.resolve_left hunbound
    | cons d t =>
      have hspacing := hlist.gap d (hgap ▸ List.mem_cons_self)
      simpa using isTagNamePart_eq_false_of_isSpacing hspacing
  rw [hparts, opensElement_named hlist.front hlist.named hlist.name hhead,
    continuesParameters_gap hlist.gap (by simpa using hblank), hgoes, ParameterList.isRecognized,
    Bool.and_assoc]

/-- In front of a list of type parameters, a `<` is a punctuator of its own. -/
theorem punctuator?_less {s : List Char} (hs : s.head?.any (['<', '='].contains ·) = false) :
    punctuator? ('<' :: s) = some ['<'] := by
  have hlong : longPunctuators.find? (·.isPrefixOf ('<' :: s)) = none := by
    have hseconds : ∀ text ∈ longPunctuators, (text.head?.any (· != '<') ||
        text.tail.head?.any (['<', '='].contains ·)) = true := by
      decide
    rw [List.find?_eq_none]
    intro text htext hprefix
    obtain ⟨behind, hbehind⟩ := List.isPrefixOf_iff_prefix.1 hprefix
    have hsecond := hseconds text htext
    rcases text with _ | ⟨c, _ | ⟨d, text⟩⟩
    · cases hsecond
    · cases hbehind
      cases hsecond
    · cases hbehind
      exact absurd hsecond (by simpa using hs)
  simp only [punctuator?, hlong]
  rfl

theorem head?_text (hlist : list.first.IsWritten) (rest : List Char) :
    (list.text ++ rest).head?.any (['<', '='].contains ·) = false := by
  have hspacing : ∀ c, isSpacing c = true → ['<', '='].contains c = false := by
    intro c hc
    rw [← Bool.not_eq_true, List.contains_iff_mem]
    intro hmem
    simp only [List.mem_cons, List.not_mem_nil, or_false] at hmem
    rcases hmem with rfl | rfl <;> revert hc <;> decide
  rw [ParameterList.text, TypeParameter.text]
  cases hfront : list.first.front with
  | cons c s => simpa using hspacing c (hlist.front c (hfront ▸ List.mem_cons_self))
  | nil =>
    obtain ⟨c, s, hname⟩ := List.exists_cons_of_ne_nil hlist.named
    have hplain := (hlist.name c (hname ▸ List.mem_cons_self)).2
    simp only [List.mem_cons, List.not_mem_nil, or_false, not_or] at hplain
    simp [hname, hplain]

end Lists

/-- Which lists of type parameters are not read as elements. Where reading a source comes to a list,
the `<` in front of it is a punctuator unless an operand may stand there and the list is not
recognized. Then an element is read in its place, and if that fails, no exports are collected. -/
theorem readsToken_parameters_iff {source : String} {embedded freshLine : Bool}
    {before : List Token} {opened : List OpenBracket} {cursor place : Cursor}
    {list : ParameterList} {rest : List Char}
    (hreading : Reading source (.script embedded before opened cursor))
    (hspacing : Gives (spacing cursor) freshLine place)
    (hplace : place.rest = '<' :: (list.text ++ '>' :: rest)) (hlist : list.first.IsWritten) :
    (ReadsToken embedded before opened cursor ⟨.punctuator, "<", place.position, freshLine⟩
        place.next ↔ (awaitsOperand before = true → list.isRecognized = true)) ∧
      ((awaitsOperand before = true → list.isRecognized = true) → Reading source (.script embedded
        (⟨.punctuator, "<", place.position, freshLine⟩ :: before) opened place.next)) ∧
      (awaitsOperand before = true → list.isRecognized = false →
        Reading source (.element place.next) ∧
          (∀ e, (Reader.element place.next).Fails e → Exports.collectSource source =
            ⟨[], some ⟨e.position, .lexical e.rule⟩⟩) ∧
          ∀ after, Gives (readElement place.next) () after → ReadsToken embedded before opened
            cursor ⟨.element, "", place.position, freshLine⟩ after) := by
  obtain ⟨p, s⟩ := place
  obtain rfl : s = _ := hplace
  have hopens := opensElement_list hlist rest
  have hlexeme : ReadsLexeme embedded opened cursor freshLine
      ⟨p, '<' :: (list.text ++ '>' :: rest)⟩ :=
    ⟨hspacing, _, _, rfl, by simp⟩
  have htoken (hrecognized : awaitsOperand before = true → list.isRecognized = true) :
      ReadsToken embedded before opened cursor ⟨.punctuator, "<", p, freshLine⟩
        (Cursor.next ⟨p, '<' :: (list.text ++ '>' :: rest)⟩) := by
    have hplain : (awaitsOperand before && opensElement
        ('<' :: (list.text ++ '>' :: rest))) = false := by
      cases hawaits : awaitsOperand before with
      | false => rfl
      | true => rw [hopens, hrecognized hawaits]; rfl
    obtain ⟨hlt, hread⟩ := Written.readLexeme_of_map
      (readLexeme_less hplain (punctuator?_less (head?_text hlist _)) p)
    exact ⟨_, hlexeme, rfl, hlt, hread⟩
  refine ⟨⟨?_, htoken⟩, fun h => hreading.tail (.further (htoken h) (trackBrackets_plain rfl rfl)),
    ?_⟩
  · rintro ⟨start, ⟨hspaced, -⟩, -, hlt, hread⟩ hawaits
    obtain ⟨-, rfl⟩ := hspacing.unique hspaced
    rcases readLexeme_angle hawaits hread with ⟨-, hkind, -⟩ | ⟨hnone, -⟩
    · cases hkind
    · simpa [hopens] using hnone
  · intro hawaits hmissed
    rw [hmissed, Bool.not_false] at hopens
    have hreads : Reading source (.element (Cursor.next ⟨p, '<' :: (list.text ++ '>' :: rest)⟩)) :=
      (hreading.tail (.lexeme hlexeme)).tail (.element hawaits hopens)
    refine ⟨hreads, fun e hfails => ?_, fun after hgives => ?_⟩
    · rw [Exports.collectSource, readTokens_eq_error_of_reading hreads hfails]
    · obtain ⟨hlt, hread⟩ := Written.readLexeme_of_map (readLexeme_element hawaits hopens hgives)
      exact ⟨_, hlexeme, rfl, hlt, hread⟩

/-- The parameters of `<T, U extends` and a line break and `T,>`. -/
def boundedPair : ParameterList where
  first := ⟨[], ['T'], [], none, none⟩
  others := [⟨[' '], ['U'], [' '], some "\n  T".toList, none⟩]
  trailing := some []

/-- In front of two parameters a `<` is a punctuator, whatever stands behind the second one. -/
theorem readsToken_parameters_pair :
    ∃ (before : List Token) (opened : List OpenBracket) (cursor place : Cursor),
      Reading "f = <T, U extends\n  T,>(x: T) => x" (.script false before opened cursor) ∧
        awaitsOperand before = true ∧
          place.rest = '<' :: (boundedPair.text ++ '>' :: "(x: T) => x".toList) ∧
            ReadsToken false before opened cursor ⟨.punctuator, "<", place.position, false⟩
              place.next := by
  have hlegible : Written.AllLegible " <T, U extends\n  T,>(x: T) => x".toList []
      (.start "f = <T, U extends\n  T,>(x: T) => x")
      [.plain .name "" "f", .plain .punctuator " " "="] :=
    Written.allLegible_of_arePlain (by decide +kernel)
  have hstart : Reading "f = <T, U extends\n  T,>(x: T) => x"
      (.script false [] [] (.start "f = <T, U extends\n  T,>(x: T) => x")) := .refl
  obtain ⟨opened, ⟨p, s⟩, hrest, hreading⟩ := reading_of_allLegible hstart hlegible rfl rfl
  obtain rfl : s = " <T, U extends\n  T,>(x: T) => x".toList := hrest
  have hgap : Written.GapRead [' '] "<T, U extends\n  T,>(x: T) => x".toList :=
    Written.gapRead_spaces rfl (by decide)
  have hname : isSpacing 'T' = false ∧ 'T' ∉ ['<', '>', ',', '='] := by decide
  have hfirst : boundedPair.first.IsWritten :=
    ⟨by simp [boundedPair], by simp [boundedPair], by simp [boundedPair],
      List.forall_mem_singleton.2 hname, by simp [boundedPair]⟩
  exact ⟨_, opened, _, _, hreading, by decide, rfl,
    (readsToken_parameters_iff hreading (Written.spacing_of_skipSpacing (hgap p)) rfl hfirst).1.2
      fun _ => by decide +kernel⟩

/-- The text of a child that nothing opens or closes runs to the end. -/
theorem readChildren_eq_error {opened p : Position} {name : String} {s : List Char}
    (hangle : '<' ∉ s) (hbrace : '\x7b' ∉ s) : readChildren opened name ⟨p, s⟩ =
      .error ⟨opened, if name.isEmpty then .unterminatedFragment
        else .unterminatedChildren name⟩ := by
  induction s generalizing p with
  | nil => rw [readChildren]
  | cons c s ih =>
    rw [List.mem_cons, not_or] at hangle hbrace
    exact Reader.fails_of_calls (.childText (Ne.symm hbrace.1) (Ne.symm hangle.1))
      (ih hangle.2 hbrace.2)

theorem gives_spacing {gap rest : List Char} (hgap : Written.GapRead gap rest) (p : Position) :
    ∃ q, Gives (spacing ⟨p, gap ++ rest⟩) (gap.any isLineTerminator) ⟨q, rest⟩ := by
  obtain ⟨q, hbehind⟩ := advance_append p gap rest
  exact ⟨q, Written.spacing_of_skipSpacing (by rw [hgap p, hbehind])⟩

section Misread

variable {opened : Position} {name : String} {s rest : List Char}

/-- Behind its name, a tag goes on with its attributes. -/
theorem calls_tagName (hsettled : settled s = true) (hend : ['>'].isPrefixOf s = false)
    (hname : s.dropWhile isTagNamePart = rest) (p : Position) :
    ∃ q, Reader.Calls (.element ⟨p, s⟩)
      (.attributes p (String.ofList (s.takeWhile isTagNamePart)) ⟨q, rest⟩) := by
  have hspacing := Written.spacing_of_skipSpacing (skipSpacing_of_settled hsettled false p)
  have hcall := Reader.Calls.tagName hspacing hend
  rw [Cursor.eq_of_rest ((rest_skipWhile _ _).trans hname)] at hcall
  exact ⟨_, hcall⟩

/-- A word behind white space in a tag is read as an attribute without a value. -/
theorem calls_bareName {c : Char} {gap further : List Char} (hgap : Written.GapRead gap (c :: s))
    (hstart : isNameStart c = true) (hc : c ≠ '\\')
    (hword : (c :: s).dropWhile isTagNamePart = further ++ rest)
    (hfurther : Written.GapRead further rest) (hvalue : ['='].isPrefixOf rest = false)
    (p : Position) :
    ∃ q, Reader.Calls (.attributes opened name ⟨p, gap ++ c :: s⟩)
      (.attributes opened name ⟨q, rest⟩) := by
  obtain ⟨q, hspacing⟩ := gives_spacing hgap p
  obtain ⟨q', hbehind⟩ := gives_spacing hfurther
    (Cursor.skipWhile isTagNamePart ⟨q, c :: s⟩).position
  rw [← Cursor.eq_of_rest ((rest_skipWhile _ _).trans hword)] at hbehind
  have hnames : NamesAttribute ⟨p, gap ++ c :: s⟩ ⟨q', rest⟩ :=
    ⟨_, _, q, c, s, hspacing, hstart, hc, hbehind⟩
  exact ⟨q', .bareName hnames hvalue⟩

/-- An element whose text nothing opens or closes is not closed. -/
theorem readAttributes_eq_error (hopens : '<' ∉ s) (hbrace : '\x7b' ∉ s) (p : Position) :
    readAttributes opened name ⟨p, '>' :: s⟩ = .error ⟨opened,
      if name.isEmpty then .unterminatedFragment else .unterminatedChildren name⟩ := by
  have hsettled : settled ('>' :: s) = true := by
    have hangle : isSpacing '>' = false := by decide
    simp [settled, List.isPrefixOf, hangle]
  have hspacing := Written.spacing_of_skipSpacing (skipSpacing_of_settled hsettled false p)
  exact Reader.fails_of_calls (.tagEnd hspacing) (readChildren_eq_error hopens hbrace)

end Misread

/-- A parameter bounded on the next line is taken for an element that is never closed. -/
theorem readElement_boundBelow (p : Position) :
    readElement ⟨p, "T extends\n  object>(x: T) => x;".toList⟩ =
      .error ⟨p, .unterminatedChildren "T"⟩ := by
  have hspace : Written.GapRead [' '] "extends\n  object>(x: T) => x;".toList :=
    Written.gapRead_spaces rfl (by decide)
  have hline : Written.GapRead "\n  ".toList "object>(x: T) => x;".toList :=
    Written.gapRead_spaces rfl (by decide)
  have hnone : Written.GapRead [] "object>(x: T) => x;".toList :=
    Written.gapRead_spaces rfl (by decide)
  have hend : Written.GapRead [] ">(x: T) => x;".toList :=
    Written.gapRead_spaces rfl (by decide)
  have hfirst : "T extends\n  object>(x: T) => x;".toList.dropWhile isTagNamePart =
      " extends\n  object>(x: T) => x;".toList := by
    decide +kernel
  -- The words of the bound are read as attributes, and the function as the element's text.
  obtain ⟨q, hname⟩ := calls_tagName (by decide) (by decide) hfirst p
  obtain ⟨q', hextends⟩ := @calls_bareName p "T" _ _ _ _ _ hspace (by decide) (by decide)
    (by decide +kernel) hline (by decide) q
  obtain ⟨q'', hobject⟩ := @calls_bareName p "T" _ _ _ _ _ hnone (by decide) (by decide)
    (by decide +kernel) hend (by decide) q'
  have hclosed : (Reader.attributes p "T" ⟨q'', ">(x: T) => x;".toList⟩).Fails
      ⟨p, .unterminatedChildren "T"⟩ := readAttributes_eq_error (by decide) (by decide) q''
  exact Reader.fails_of_calls hname (Reader.fails_of_calls hextends
    (Reader.fails_of_calls hobject hclosed))

/-- A list that is valid on one line fails if its bound stands on the next. -/
theorem collectSource_boundBelow :
    ∃ p, Exports.collectSource "export const f = <T extends\n  object>(x: T) => x;" =
      ⟨[], some ⟨p, .lexical (.unterminatedChildren "T")⟩⟩ := by
  have hlegible : Written.AllLegible " <T extends\n  object>(x: T) => x;".toList []
      (.start "export const f = <T extends\n  object>(x: T) => x;")
      [.plain .name "" "export", .plain .name " " "const", .plain .name " " "f",
        .plain .punctuator " " "="] :=
    Written.allLegible_of_arePlain (by decide +kernel)
  have hstart : Reading "export const f = <T extends\n  object>(x: T) => x;"
      (.script false [] [] (.start "export const f = <T extends\n  object>(x: T) => x;")) := .refl
  obtain ⟨opened, ⟨p, s⟩, hrest, hreading⟩ := reading_of_allLegible hstart hlegible rfl rfl
  obtain rfl : s = " <T extends\n  object>(x: T) => x;".toList := hrest
  have hgap : Written.GapRead [' '] ('<' :: "T extends\n  object>(x: T) => x;".toList) :=
    Written.gapRead_spaces rfl (by decide)
  obtain ⟨q, hangle⟩ := gives_spacing hgap p
  have helement := (hreading.tail (.lexeme ⟨hangle, _, _, rfl, rfl⟩)).tail
    (.element (by decide) (by decide +kernel))
  have hread := readTokens_eq_error_of_reading helement (readElement_boundBelow (q.step '<' _))
  exact ⟨q.step '<' "T extends\n  object>(x: T) => x;".toList, by rw [Exports.collectSource, hread]⟩

end RouteTable.Script
