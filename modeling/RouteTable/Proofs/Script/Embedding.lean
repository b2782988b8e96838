import RouteTable.Proofs.Exports.Reach
import RouteTable.Proofs.Script.Angles
import RouteTable.Proofs.Script.Mirror
import RouteTable.Proofs.Script.Plain
import RouteTable.Proofs.Script.Sole

/-!
Scripts in literals. A script without escapes that is read on its own is read the same way between
the braces of a template or of an element, up to the closing brace in its next line, whatever stands
behind that. Templates and elements that hold such scripts are one token each, in which the scan for
exports finds nothing.
-/

namespace RouteTable.Script

open Cursor

section Closed

/-- A character that a text does not have ends it where it is looked for. -/
theorem isPrefixOf_append_cons {text : List Char} {c : Char} (hc : c ∉ text) (v r : List Char) :
    text.isPrefixOf (v ++ c :: r) = text.isPrefixOf v := by
  induction v generalizing text with
  | nil =>
    cases text with
    | nil => rfl
    | cons d text =>
      have hd : (d == c) = false := by
        rw [beq_eq_false_iff_ne]
        rintro rfl
        exact hc List.mem_cons_self
      simp [List.isPrefixOf, hd]
  | cons e v ih =>
    cases text with
    | nil => rfl
    | cons d text =>
      have htext : c ∉ text := fun hmem => hc (List.mem_cons_of_mem d hmem)
      rw [List.cons_append, List.isPrefixOf, List.isPrefixOf, ih htext]

theorem dropWhile_isBlank_closing (behind : List Char) :
    ('\n' :: '\x7d' :: behind).dropWhile Text.isBlank = '\x7d' :: behind := by
  have hblank : Text.isBlank '\n' = true := by decide
  have hbrace : Text.isBlank '\x7d' = false := by decide
  simp [hblank, hbrace]

/-- Behind a name and white space, a text goes on as before or has its closing brace. -/
theorem dropWhile_name_closing (s behind : List Char) :
    ∃ c r, ((s ++ '\n' :: '\x7d' :: behind).dropWhile isTagNamePart).dropWhile Text.isBlank =
        (s.dropWhile isTagNamePart).dropWhile Text.isBlank ++ c :: r ∧ (c = '\n' ∨ c = '\x7d') := by
  have hline : isTagNamePart '\n' = false := isTagNamePart_eq_false_of_isSpacing (by decide)
  by_cases hparts : s.dropWhile isTagNamePart = []
  · have hbehind : ('\n' :: '\x7d' :: behind).dropWhile isTagNamePart = '\n' :: '\x7d' :: behind :=
      List.dropWhile_cons_of_neg (by simp [hline])
    refine ⟨'\x7d', behind, ?_, .inr rfl⟩
    rw [dropWhile_append_of_eq_nil hparts, hbehind, dropWhile_isBlank_closing, hparts]
    rfl
  · rw [dropWhile_append_of_ne_nil hparts]
    by_cases hblank : (s.dropWhile isTagNamePart).dropWhile Text.isBlank = []
    · refine ⟨'\x7d', behind, ?_, .inr rfl⟩
      rw [dropWhile_append_of_eq_nil hblank, dropWhile_isBlank_closing, hblank]
      rfl
    · exact ⟨'\n', '\x7d' :: behind, dropWhile_append_of_ne_nil hblank _, .inl rfl⟩

/-- A closing brace in the next line does not change what a `<` opens. -/
theorem opensElement_closing (s behind : List Char) :
    opensElement ('<' :: (s ++ '\n' :: '\x7d' :: behind)) = opensElement ('<' :: s) := by
  by_cases hstart : s.dropWhile Text.isBlank = []
  · have hname : isNameStart '\x7d' = false := by decide +kernel
    simp [opensElement, dropWhile_append_of_eq_nil hstart, dropWhile_isBlank_closing, hstart, hname]
  · obtain ⟨c, r, hafter, hc⟩ := dropWhile_name_closing (s.dropWhile Text.isBlank) behind
    have hcomma : ∀ v : List Char, ((v ++ c :: r).head? == some ',') = (v.head? == some ',') := by
      intro v
      cases v with
      | nil => rcases hc with rfl | rfl <;> rfl
      | cons d v => rfl
    have hextends : c ∉ "extends ".toList := by
      rcases hc with rfl | rfl <;> decide
    obtain ⟨d, v, hd⟩ := List.exists_cons_of_ne_nil hstart
    rw [hd, List.cons_append] at hafter
    simp only [opensElement, List.tail_cons, dropWhile_append_of_ne_nil hstart, hd,
      List.cons_append, hafter, hcomma, isPrefixOf_append_cons hextends]

end Closed

/-- A text without escapes, and the same text with a closing brace in its next line. -/
def Lockstep.closed (behind : List Char) : Lockstep where
  Related cursor cursor' :=
    '\\' ∉ cursor.rest ∧ cursor'.rest = cursor.rest ++ '\n' :: '\x7d' :: behind
  bound := 0
  closing := some behind
  cons := by
    rintro p c s ⟨p', rest'⟩ ⟨hplain, hrest⟩
    cases hrest
    exact ⟨p', _, rfl, fun _ => ⟨fun hmem => hplain (List.mem_cons_of_mem c hmem), rfl⟩⟩
  nil := by
    rintro p cursor' ⟨-, hrest⟩
    exact hrest
  escape := by
    rintro p s cursor' ⟨hplain, -⟩
    exact absurd List.mem_cons_self hplain
  opens := by
    rintro p s cursor' ⟨-, hrest⟩ -
    rw [hrest]
    exact opensElement_closing s behind

/-- Whether a source can stand between braces: it is accepted on its own, has no escapes and no line
for the interpreter. -/
structure Embeddable (source : String) : Prop where
  accepted : ∃ tokens, readTokens source = .ok tokens
  plain : '\\' ∉ source.toList
  script : ['#', '!'].isPrefixOf source.toList = false

section Scripts

variable {source : String} {tokens : List Token} {start : Cursor} {rest : List Char}

/-- A source is read the same way in front of a closing brace in its next line, up to and over that
brace. -/
theorem gives_tokensFrom_closed (hsource : Embeddable source)
    (hread : readTokens source = .ok tokens)
    (hstart : start.rest = source.toList ++ '\n' :: '\x7d' :: rest) :
    ∃ inner last, Gives (tokensFrom true [] [] start) inner last ∧
      inner.map shape = tokens.map shape ∧ start.Leads (source.toList ++ ['\n', '\x7d']) last ∧
        last.rest = rest := by
  have hline : skipInterpreterLine (.start source) = .start source := by
    rw [skipInterpreterLine, startsWith]
    exact if_neg (Bool.eq_false_iff.1 hsource.script)
  rw [Written.readTokens_eq_readOn, hline, Written.readOn] at hread
  rcases htokens : tokensFrom false [] [] (.start source) with e | ⟨⟨read, after⟩, hle⟩
  · rw [htokens] at hread
    cases hread
  · rw [htokens] at hread
    cases hread
    obtain ⟨inner, last, hinner, hshapes, hlast⟩ :=
      Reader.mirrors (.closed rest) (.script false [] [] (.start source)) (.inr rfl) [] [] start _ _
        rfl rfl ⟨hsource.plain, hstart⟩ ⟨hle, htokens⟩ (Nat.zero_le _)
    have hlast : last.rest = rest := hlast
    obtain ⟨passed, hpassed⟩ := Reader.passesText (.script true [] [] start) last ⟨inner, hinner⟩
    have hwhole : passed = source.toList ++ ['\n', '\x7d'] := by
      have hrest := hpassed.rest
      dsimp only [Reader.cursor] at hrest
      rw [hstart, hlast] at hrest
      have hparts : passed ++ rest = source.toList ++ ['\n', '\x7d'] ++ rest := by
        simpa using hrest.symm
      exact List.append_cancel_right hparts
    rw [hwhole] at hpassed
    exact ⟨inner, last, hinner, hshapes, hpassed, hlast⟩

/-- A script between braces is its source, in front of the closing brace in its next line. -/
def braced (source : String) : List Char :=
  '\x7b' :: (source.toList ++ ['\n', '\x7d'])

theorem gives_tokensFrom_braced (hsource : Embeddable source)
    (hstart : start.rest = (braced source).tail ++ rest) :
    ∃ inner last, Gives (tokensFrom true [] [] start) inner last ∧ last.rest = rest := by
  obtain ⟨tokens, hread⟩ := hsource.accepted
  have hclosed : start.rest = source.toList ++ '\n' :: '\x7d' :: rest := by
    simpa [braced] using hstart
  obtain ⟨inner, last, hinner, -, -, hlast⟩ := gives_tokensFrom_closed hsource hread hclosed
  exact ⟨inner, last, hinner, hlast⟩

end Scripts

section Templates

/-- A script in a template, with the text behind it. -/
structure Interpolation where
  source : String
  chunk : String

/-- Whether a text stands for itself in a template. -/
structure IsChunk (chunk : String) : Prop where
  quote : '\x60' ∉ chunk.toList
  plain : '\\' ∉ chunk.toList
  script : ¬ ['$', '\x7b'] <:+: chunk.toList

/-- What a template has behind its first text. -/
def interpolated : List Interpolation → List Char
  | [] => ['\x60']
  | part :: parts =>
    '$' :: (braced part.source ++ (part.chunk.toList ++ interpolated parts))

/-- The template literal in which texts and scripts alternate. -/
def templateText (first : String) (parts : List Interpolation) : String :=
  String.ofList ('\x60' :: (first.toList ++ interpolated parts))

/-- Whether a template is closed at the end of a text. -/
def ClosesTemplate (s : List Char) : Prop :=
  ∀ opened (cursor : Cursor), cursor.rest = s →
    ∃ after, Gives (readTemplateLiteral opened cursor) () after ∧ after.rest = []

theorem closesTemplate_quote : ClosesTemplate ['\x60'] := by
  rintro opened ⟨p, _⟩ rfl
  exact ⟨Cursor.next ⟨p, ['\x60']⟩, Reader.Reads.templateEnd.leaves, rfl⟩

theorem ClosesTemplate.cons {c : Char} {s : List Char} (h : ClosesTemplate s) (hquote : c ≠ '\x60')
    (hplain : c ≠ '\\') (hscript : c = '$' → s.head? ≠ some '\x7b') : ClosesTemplate (c :: s) := by
  rintro opened ⟨p, _⟩ rfl
  obtain ⟨after, hread, hend⟩ := h opened (Cursor.next ⟨p, c :: s⟩) rfl
  have hmark : ¬ (c = '$' ∧ s.head? = some '\x7b') := not_and.2 hscript
  exact ⟨after, (Reader.Reads.templateText hquote hplain hmark hread).leaves, hend⟩

/-- A text that stands for itself is passed up to the next script or the end. -/
theorem ClosesTemplate.append {chunk s : List Char} (h : ClosesTemplate s) (hquote : '\x60' ∉ chunk)
    (hplain : '\\' ∉ chunk) (hscript : ¬ ['$', '\x7b'] <:+: chunk) (hs : s.head? ≠ some '\x7b') :
    ClosesTemplate (chunk ++ s) := by
  induction chunk with
  | nil => exact h
  | cons c chunk ih =>
    rw [List.infix_cons_iff, not_or] at hscript
    rw [List.mem_cons, not_or] at hquote hplain
    refine (ih hquote.2 hplain.2 hscript.2).cons (Ne.symm hquote.1) (Ne.symm hplain.1) ?_
    rintro rfl hhead
    rcases chunk with _ | ⟨d, chunk⟩
    · exact hs hhead
    · obtain rfl : d = '\x7b' := by simpa using hhead
      exact hscript.1 ⟨chunk, rfl⟩

/-- A script in a template is passed as a whole. -/
theorem ClosesTemplate.script {source : String} {s : List Char} (h : ClosesTemplate s)
    (hsource : Embeddable source) : ClosesTemplate ('$' :: (braced source ++ s)) := by
  rintro opened ⟨p, _⟩ rfl
  have hstart : (Cursor.advance 2 ⟨p, '$' :: (braced source ++ s)⟩).rest =
      (braced source).tail ++ s := by
    simp [braced]
  obtain ⟨inner, last, hscript, hlast⟩ := gives_tokensFrom_braced hsource hstart
  obtain ⟨after, hread, hend⟩ := h opened last hlast
  exact ⟨after, (Reader.Reads.templateScript hscript hread).leaves, hend⟩

theorem closesTemplate_interpolated {parts : List Interpolation}
    (hparts : ∀ part ∈ parts, Embeddable part.source ∧ IsChunk part.chunk) :
    ClosesTemplate (interpolated parts) := by
  induction parts with
  | nil => exact closesTemplate_quote
  | cons part parts ih =>
    obtain ⟨⟨hsource, hchunk⟩, hothers⟩ := List.forall_mem_cons.1 hparts
    have hhead : (interpolated parts).head? ≠ some '\x7b' := by
      cases parts <;> simp [interpolated]
    exact ((ih hothers).append hchunk.quote hchunk.plain hchunk.script hhead).script hsource

/-- A template that holds scripts is a single token. -/
theorem readTokens_templateText {first : String} {parts : List Interpolation}
    (hfirst : IsChunk first)
    (hparts : ∀ part ∈ parts, Embeddable part.source ∧ IsChunk part.chunk) :
    readTokens (templateText first parts) = .ok [⟨.template, "", .start, false⟩] := by
  have hhead : (interpolated parts).head? ≠ some '\x7b' := by
    cases parts <;> simp [interpolated]
  have hcloses := (closesTemplate_interpolated hparts).append hfirst.quote hfirst.plain
    hfirst.script hhead
  generalize hbody : first.toList ++ interpolated parts = body at hcloses
  obtain ⟨after, hread, hend⟩ := hcloses .start (Cursor.next ⟨.start, '\x60' :: body⟩) rfl
  have hsource : (templateText first parts).toList = '\x60' :: body := by
    rw [templateText, String.toList_ofList, hbody]
  exact readTokens_of_lexeme hsource rfl (by simp [settled, List.isPrefixOf]; decide) (by decide)
    (readLexeme_template hread) hend

end Templates

section Elements

/-- The element with a script as its only child. -/
def elementText (source : String) : String :=
  String.ofList ('<' :: 'a' :: '>' :: (braced source ++ ['<', '/', 'a', '>']))

variable {opened : Position} {s : List Char} {cursor : Cursor}

/-- The name of the tag is passed up to the bracket behind it. -/
theorem skipWhile_tagName (hs : cursor.rest = 'a' :: '>' :: s) :
    cursor.skipWhile isTagNamePart = cursor.next ∧ cursor.takeWhile isTagNamePart = ['a'] := by
  obtain ⟨p, rest⟩ := cursor
  obtain rfl : rest = 'a' :: '>' :: s := hs
  have hname : isTagNamePart 'a' = true := by decide +kernel
  have hend : isTagNamePart '>' = false := by decide +kernel
  simp [skipWhile, takeWhile, skipFrom, Cursor.next, hname, hend]

theorem settled_of_ne {c : Char} (hspacing : isSpacing c = false) (hslash : c ≠ '/') :
    settled (c :: s) = true := by
  have hmark : ¬ '/' = c := Ne.symm hslash
  simp [settled, List.isPrefixOf, hspacing, hmark]

theorem gives_spacing_of_ne {c : Char} (hspacing : isSpacing c = false) (hslash : c ≠ '/')
    (p : Position) (s : List Char) : Gives (spacing ⟨p, c :: s⟩) false ⟨p, c :: s⟩ :=
  gives_spacing_of_settled (settled_of_ne hspacing hslash)

/-- The closing tag at the end of a text ends the element. -/
theorem readChildren_closing (hrest : cursor.rest = ['<', '/', 'a', '>']) :
    ∃ last, Gives (readChildren opened (String.ofList ['a']) cursor) () last ∧ last.rest = [] := by
  obtain ⟨p, rest⟩ := cursor
  obtain rfl : rest = ['<', '/', 'a', '>'] := hrest
  generalize hopens : Cursor.next ⟨p, ['<', '/', 'a', '>']⟩ = start
  have hslash : start.rest = ['/', 'a', '>'] := by simp [← hopens]
  have hname : start.next.rest = ['a', '>'] := by simp [hslash]
  have hend : start.next.next.rest = ['>'] := by simp [hslash]
  obtain ⟨hskip, htake⟩ := skipWhile_tagName hname
  have hbehind : Gives (spacing (start.next.skipWhile isTagNamePart)) false start.next.next := by
    rw [hskip]
    exact gives_spacing_of_settled (by rw [hend]; decide)
  have hclosing : Gives (closingTag (String.ofList ['a']) start.next) () start.next.next.next := by
    refine gives_closingTag_iff.2 ⟨_, _, _, _, gives_spacing_of_settled ?_,
      congrArg String.ofList htake, hbehind, ?_, rfl⟩
    · rw [hname]
      decide
    · rw [startsWith, hend]
      decide
  have hspacing : Gives (spacing start) false start := by
    refine gives_spacing_of_settled ?_
    rw [hslash]
    decide
  rw [← hopens] at hspacing
  refine ⟨start.next.next.next, (Reader.Reads.closing hspacing ?_ ?_).leaves, ?_⟩
  · rw [startsWith, hopens, hslash]
    decide
  · rw [hopens]
    exact hclosing
  · rw [rest_next, hend]
    rfl

/-- The element with a script as its only child is read as a whole. -/
theorem readElement_script {source : String} (hsource : Embeddable source)
    (hrest : cursor.rest = 'a' :: '>' :: (braced source ++ ['<', '/', 'a', '>'])) :
    ∃ last, Gives (readElement cursor) () last ∧ last.rest = [] := by
  obtain ⟨hskip, htake⟩ := skipWhile_tagName hrest
  obtain ⟨p, rest⟩ := cursor
  obtain rfl : rest = 'a' :: '>' :: (braced source ++ ['<', '/', 'a', '>']) := hrest
  have hscript : (Cursor.next
      ⟨p, 'a' :: '>' :: (braced source ++ ['<', '/', 'a', '>'])⟩).next.next.rest =
        (braced source).tail ++ ['<', '/', 'a', '>'] := rfl
  obtain ⟨inner, after, hinner, hafter⟩ := gives_tokensFrom_braced hsource hscript
  obtain ⟨last, hclosing, hlast⟩ := readChildren_closing hafter
  have hchildren := (Reader.Reads.childScript hinner hclosing).leaves
  have hattributes :=
    (Reader.Reads.tagEnd (gives_spacing_of_ne (by decide) (by decide) _ _) hchildren).leaves
  refine ⟨last, (Reader.Reads.tagName (gives_spacing_of_ne ?_ ?_ _ _) rfl ?_).leaves, hlast⟩
  · decide
  · decide
  · rw [htake, hskip]
    exact hattributes

/-- An element with a script as its only child is a single token. -/
theorem readTokens_elementText {source : String} (hsource : Embeddable source) :
    readTokens (elementText source) = .ok [⟨.element, "", .start, false⟩] := by
  have htext : (elementText source).toList =
      '<' :: 'a' :: '>' :: (braced source ++ ['<', '/', 'a', '>']) := String.toList_ofList
  generalize hbody : braced source ++ ['<', '/', 'a', '>'] = body at htext
  have hstart : (Cursor.next ⟨.start, '<' :: 'a' :: '>' :: body⟩).rest =
      'a' :: '>' :: (braced source ++ ['<', '/', 'a', '>']) := by
    rw [hbody]
    rfl
  obtain ⟨last, hread, hlast⟩ := readElement_script hsource hstart
  have hopens : opensElement ('<' :: 'a' :: '>' :: body) = true := by
    have hblank : Text.isBlank 'a' = false ∧ Text.isBlank '>' = false := by decide
    have hname : isNameStart 'a' = true ∧ isTagNamePart 'a' = true ∧ isTagNamePart '>' = false := by
      decide +kernel
    simp [opensElement, List.isPrefixOf, hblank, hname]
  exact readTokens_of_lexeme htext rfl (settled_of_ne (by decide) (by decide)) (by decide)
    (readLexeme_element rfl hopens hread) hlast

end Elements

/-- A module that is a literal exports nothing. -/
theorem collectSource_of_literal {source : String} {token : Token}
    (hread : readTokens source = .ok [token])
    (hkind : token.kind = .template ∨ token.kind = .element) :
    Exports.collectSource source = ⟨[], none⟩ := by
  have hplain : Exports.startsExport (Exports.depthAfter 0 token) none token = false := by
    rcases hkind with hkind | hkind <;> simp [Exports.startsExport, Token.isName, hkind]
  have hscan : Exports.scan [token] = pure () := by
    rw [Exports.scan, Exports.scanFrom_pass rfl hplain]
    exact Exports.scanFrom_end rfl _
  rw [Exports.collectSource, hread]
  simp only [Exports.collect, hscan]
  rfl

/-- Scripts stay within their literals. A source without escapes and without a line for the
interpreter that is accepted on its own is read the same way up to and over a closing brace in its
next line, whatever stands behind that. Templates in which such scripts alternate with texts, and
elements with such a script as their child, are single tokens, and the scan for exports finds
nothing in them. -/
theorem readTokens_embedded :
    (∀ source tokens rest start, Embeddable source → readTokens source = .ok tokens →
        start.rest = source.toList ++ '\n' :: '\x7d' :: rest →
          ∃ inner last, Gives (tokensFrom true [] [] start) inner last ∧
            inner.map shape = tokens.map shape ∧
              start.Leads (source.toList ++ ['\n', '\x7d']) last ∧ last.rest = rest) ∧
      (∀ first parts, IsChunk first →
        (∀ part ∈ parts, Embeddable part.source ∧ IsChunk part.chunk) →
          readTokens (templateText first parts) = .ok [⟨.template, "", .start, false⟩] ∧
            Exports.collectSource (templateText first parts) = ⟨[], none⟩) ∧
      ∀ source, Embeddable source →
        readTokens (elementText source) = .ok [⟨.element, "", .start, false⟩] ∧
          Exports.collectSource (elementText source) = ⟨[], none⟩ := by
  refine ⟨?_, ?_, ?_⟩
  · intro source tokens rest start hsource hread hstart
    exact gives_tokensFrom_closed hsource hread hstart
  · intro first parts hfirst hparts
    have hread := readTokens_templateText hfirst hparts
    exact ⟨hread, collectSource_of_literal hread (.inl rfl)⟩
  · intro source hsource
    have hread := readTokens_elementText hsource
    exact ⟨hread, collectSource_of_literal hread (.inr rfl)⟩

def writtenBlock : List Written :=
  [.plain .punctuator "" "\x7b", .plain .name "" "a", .plain .punctuator "" "\x7d"]

/-- The closing brace of a block is not taken for that of the script around it. -/
theorem readTokens_embedded_block :
    (∃ inner last, Gives (tokensFrom true [] [] (.start "\x7ba\x7d\n\x7d\x60")) inner last ∧
        inner.map shape = [(.punctuator, "\x7b", false), (.name, "a", false),
          (.punctuator, "\x7d", false)] ∧ last.rest = ['\x60']) ∧
      readTokens "\x60sum $\x7b\x7ba\x7d\n\x7d.\x60" = .ok [⟨.template, "", .start, false⟩] ∧
        readTokens "<a>\x7b\x7ba\x7d\n\x7d</a>" = .ok [⟨.element, "", .start, false⟩] := by
  have hplain : Written.writesPlainly "\x7ba\x7d" writtenBlock [] = true := by decide +kernel
  have hread := Written.readTokens_of_writesPlainly hplain
  have hblock : Embeddable "\x7ba\x7d" := ⟨⟨_, hread⟩, by decide, by decide⟩
  obtain ⟨hscript, htemplate, helement⟩ := readTokens_embedded
  obtain ⟨inner, last, hinner, hshapes, -, hlast⟩ :=
    hscript _ _ ['\x60'] (.start "\x7ba\x7d\n\x7d\x60") hblock hread (by decide)
  have hchunk : IsChunk "sum " := ⟨by decide, by decide, by decide⟩
  have hpoint : IsChunk "." := ⟨by decide, by decide, by decide⟩
  have hparts : ∀ part ∈ [Interpolation.mk "\x7ba\x7d" "."],
      Embeddable part.source ∧ IsChunk part.chunk := by
    intro part hpart
    obtain rfl := List.mem_singleton.1 hpart
    exact ⟨hblock, hpoint⟩
  exact ⟨⟨inner, last, hinner, hshapes, hlast⟩, (htemplate "sum " _ hchunk hparts).1,
    (helement _ hblock).1⟩

end RouteTable.Script
