import RouteTable.Proofs.Script.Blame
import RouteTable.Proofs.Script.Brackets
import RouteTable.Proofs.Script.Plain
import RouteTable.Proofs.Script.Reading

/-!
The brackets of a script. The tokens of a source nest properly, and an error about brackets names
the first closer that does not fit among the tokens of the script it stands in, or the innermost
bracket of that script that is open where the text ends.
-/

namespace RouteTable.Script

/-- The readers that reading a source calls. -/
def Reading (source : String) : Reader → Prop :=
  Relation.ReflTransGen Reader.Calls (.script false [] [] (skipInterpreterLine (.start source)))

/-- Whether reading a source comes to a closer, behind the tokens `read` of the script it stands in:
the source itself, or one within a template or an element. -/
def MeetsCloser (source : String) (read : List Token) (closer : Token) : Prop :=
  closer.isCloser = true ∧ ∃ embedded before opened cursor after, before.reverse = read ∧
    Reading source (.script embedded before opened cursor) ∧
      ReadsToken embedded before opened cursor closer after

/-- Whether reading a source comes to the end of the text, behind the tokens `read` of the script it
is in. -/
def MeetsEnd (source : String) (read : List Token) : Prop :=
  ∃ embedded before opened cursor, before.reverse = read ∧
    Reading source (.script embedded before opened cursor) ∧ AtEnd cursor

/-- Whether the open brackets that a script is read with are those of its tokens. -/
def Reader.Tracks : Reader → Prop
  | .script _ before opened _ => trackAll [] before.reverse = .ok opened
  | _ => True

theorem tracks_of_calls {caller called : Reader} (h : Reader.Calls caller called)
    (htracks : caller.Tracks) : called.Tracks := by
  cases h with
  | @further embedded before opened stillOpened cursor after token h htrack =>
    have hbefore : trackAll [] before.reverse = .ok opened := htracks
    rw [Reader.Tracks, List.reverse_cons, trackAll_append hbefore, trackAll_singleton]
    exact htrack
  | templateScript | attributeScript | valueScript | childScript => rfl
  | _ => trivial

/-- Every script that is read is read with the open brackets of its tokens. -/
theorem tracks_of_reading {source : String} {reader : Reader} (h : Reading source reader) :
    reader.Tracks := by
  induction h with
  | refl => rfl
  | tail _ hcall ih => exact tracks_of_calls hcall ih

theorem trackAll_of_tokensFrom {embedded : Bool} {before tokens : List Token}
    {opened : List OpenBracket} {cursor last : Cursor}
    (h : Gives (tokensFrom embedded before opened cursor) tokens last) :
    trackAll opened tokens = .ok [] := by
  rcases tokensFrom_cases h with ⟨_, _, -, rfl, rfl, -⟩ |
    ⟨token, after, stillOpened, further, rfl, htoken, htrack, hfurther⟩
  · rfl
  · have hlt : after.remaining < cursor.remaining := by
      obtain ⟨start, hlexeme, -, hlt, -⟩ := htoken
      exact Nat.lt_of_lt_of_le hlt hlexeme.1.1
    rw [trackAll_cons htrack]
    exact trackAll_of_tokensFrom hfurther
termination_by cursor.remaining
decreasing_by
  exact hlt

/-- The tokens of a source nest properly. -/
theorem wellNested_of_readTokens {source : String} {tokens : List Token}
    (h : readTokens source = .ok tokens) : WellNested tokens := by
  rw [wellNested_iff_trackAll]
  rw [readTokens] at h
  split at h
  · rename_i last hle hok
    cases h
    exact trackAll_of_tokensFrom ⟨hle, hok⟩
  · cases h

theorem readTokens_eq_error_iff {source : String} {e : LexicalError} :
    readTokens source = .error e ↔
      (Reader.script false [] [] (skipInterpreterLine (.start source))).Fails e := by
  rw [readTokens, Reader.Fails]
  split
  · rename_i hok
    simp [hok]
  · rename_i herror
    simp [herror]

/-- The failure of a reader that reading a source comes to is that of the source. -/
theorem readTokens_eq_error_of_reading {source : String} {reader : Reader} {e : LexicalError}
    (h : Reading source reader) (hfails : reader.Fails e) : readTokens source = .error e := by
  rw [readTokens_eq_error_iff]
  induction h with
  | refl => exact hfails
  | tail _ hcall ih => exact ih (Reader.fails_of_calls hcall hfails)

theorem readTokens_eq_error_iff_faults {source : String} {e : LexicalError}
    (hrule : e.rule.isBracket = true) :
    readTokens source = .error e ↔ ∃ reader, Reading source reader ∧ reader.Faults e := by
  rw [readTokens_eq_error_iff, Reader.fails_iff hrule]
  rfl

/-- What is wrong with a closer that the open brackets do not fit. -/
theorem trackBrackets_eq_error {read openers : List Token} {token : Token} {e : LexicalError}
    (h : Opens read openers) (htrack : trackBrackets (openers.map Token.bracket) token = .error e) :
    token.isCloser = true ∧ ¬ StartsNested (read ++ [token]) ∧
      (openers = [] ∧ e = ⟨token.position, .unopened token.mark⟩ ∨
        ∃ opener outer, openers = opener :: outer ∧
          e = ⟨token.position, .mismatched token.mark opener.mark opener.position⟩) := by
  have hstops : ¬ StartsNested (read ++ [token]) := by
    rw [startsNested_iff_trackAll, trackAll_append (trackAll_of_opens h), trackAll_singleton,
      htrack]
    rintro ⟨opened, hopened⟩
    cases hopened
  have hcloser : token.isCloser = true := by
    by_cases hopener : token.isOpener = true
    · rw [trackBrackets_opener hopener] at htrack
      cases htrack
    · rw [Bool.not_eq_true] at hopener
      cases hcloser : token.isCloser with
      | true => rfl
      | false =>
        rw [trackBrackets_plain hopener hcloser] at htrack
        cases htrack
  refine ⟨hcloser, hstops, ?_⟩
  cases h with
  | nested h =>
    rw [List.map_nil, trackBrackets_unopened hcloser] at htrack
    cases htrack
    exact .inl ⟨rfl, rfl⟩
  | @opener before inner outer opener h hopener hinner =>
    rw [List.map_cons] at htrack
    by_cases hpair : IsPair opener token
    · rw [trackBrackets_pair hpair] at htrack
      cases htrack
    · rw [trackBrackets_mismatched hopener hcloser hpair] at htrack
      cases htrack
      exact .inr ⟨opener, outer, rfl, rfl⟩

/-- An error about brackets is about a closer that the open brackets do not fit, or about the
innermost bracket that is open where the text ends. -/
theorem bracket_error_cases {source : String} {e : LexicalError} (hrule : e.rule.isBracket = true)
    (h : readTokens source = .error e) :
    (∃ read closer, MeetsCloser source read closer ∧ ¬ StartsNested (read ++ [closer]) ∧
      (WellNested read ∧ e = ⟨closer.position, .unopened closer.mark⟩ ∨
        ∃ innermost, StartsNested read ∧ LeavesOpen read innermost ∧
          e = ⟨closer.position,
            .mismatched closer.mark innermost.mark innermost.position⟩)) ∨
      ∃ read innermost, MeetsEnd source read ∧ LeavesOpen read innermost ∧
        e = ⟨innermost.position, .unclosed innermost.mark⟩ := by
  obtain ⟨reader, hreading, hfaults⟩ := (readTokens_eq_error_iff_faults hrule).1 h
  have htracks := tracks_of_reading hreading
  cases hfaults with
  | @closer embedded before opened cursor after token e htoken htrack =>
    obtain ⟨openers, hopens, rfl⟩ := opens_of_trackAll htracks
    obtain ⟨hcloser, hstops, hwrong⟩ := trackBrackets_eq_error hopens htrack
    have hmeets : MeetsCloser source before.reverse token :=
      ⟨hcloser, embedded, before, _, cursor, after, rfl, hreading, htoken⟩
    refine .inl ⟨before.reverse, token, hmeets, hstops, ?_⟩
    rcases hwrong with ⟨rfl, rfl⟩ | ⟨innermost, outer, rfl, rfl⟩
    · exact .inl ⟨wellNested_iff_opens.2 hopens, rfl⟩
    · have hopen := (leavesOpen_iff htracks).2 ⟨outer, hopens, rfl⟩
      exact .inr ⟨innermost, startsNested_of_opens hopens, hopen, rfl⟩
  | @unclosed embedded before bracket outer cursor hend =>
    obtain ⟨openers, hopens, hopened⟩ := opens_of_trackAll htracks
    rcases openers with _ | ⟨innermost, others⟩
    · cases hopened
    · cases hopened
      have hopen := (leavesOpen_iff htracks).2 ⟨others, hopens, rfl⟩
      have hmeets : MeetsEnd source before.reverse :=
        ⟨embedded, before, _, cursor, rfl, hreading, hend⟩
      exact .inr ⟨before.reverse, innermost, hmeets, hopen, rfl⟩

/-- An unopened closer is the first one that does not fit, with no bracket open before it. -/
theorem readTokens_eq_unopened_iff {source : String} {position : Position} {mark : Char} :
    readTokens source = .error ⟨position, .unopened mark⟩ ↔
      ∃ read closer, MeetsCloser source read closer ∧
        WellNested read ∧ ¬ StartsNested (read ++ [closer]) ∧
          closer.position = position ∧ closer.mark = mark := by
  constructor
  · intro h
    obtain ⟨read, closer, hmeets, hstops, ⟨hnested, he⟩ | ⟨_, -, -, he⟩⟩ | ⟨_, _, -, -, he⟩ :=
      bracket_error_cases rfl h
    · cases he
      exact ⟨read, closer, hmeets, hnested, hstops, rfl, rfl⟩
    · cases he
    · cases he
  · rintro ⟨_, closer, ⟨hcloser, embedded, before, opened, cursor, after, rfl, hreading, h⟩,
      hnested, -, rfl, rfl⟩
    have htracks := tracks_of_reading hreading
    rw [Reader.Tracks, trackAll_of_wellNested hnested] at htracks
    cases htracks
    exact (readTokens_eq_error_iff_faults rfl).2
      ⟨_, hreading, .closer h (trackBrackets_unopened hcloser)⟩

/-- A mismatched closer is the first one that does not fit, and its error cites the innermost
bracket that is open before it. -/
theorem readTokens_eq_mismatched_iff {source : String} {position opened : Position}
    {mark opener : Char} :
    readTokens source = .error ⟨position, .mismatched mark opener opened⟩ ↔
      ∃ read closer innermost, MeetsCloser source read closer ∧
        StartsNested read ∧ ¬ StartsNested (read ++ [closer]) ∧ LeavesOpen read innermost ∧
          closer.position = position ∧ closer.mark = mark ∧
            innermost.position = opened ∧ innermost.mark = opener := by
  constructor
  · intro h
    obtain ⟨read, closer, hmeets, hstops, ⟨-, he⟩ | ⟨innermost, hstarts, hopen, he⟩⟩ |
      ⟨_, _, -, -, he⟩ := bracket_error_cases rfl h
    · cases he
    · cases he
      exact ⟨read, closer, innermost, hmeets, hstarts, hstops, hopen, rfl, rfl, rfl, rfl⟩
    · cases he
  · rintro ⟨_, closer, innermost, ⟨hcloser, embedded, before, opened, cursor, after, rfl, hreading,
      h⟩, -, hstops, hopen, rfl, rfl, rfl, rfl⟩
    have htracks := tracks_of_reading hreading
    rw [Reader.Tracks] at htracks
    obtain ⟨outer, -, rfl⟩ := (leavesOpen_iff htracks).1 hopen
    obtain ⟨_, _, -, hopener, -⟩ := hopen
    refine (readTokens_eq_error_iff_faults rfl).2
      ⟨_, hreading, .closer h (trackBrackets_mismatched hopener hcloser ?_)⟩
    intro hpair
    apply hstops
    rw [startsNested_iff_trackAll, trackAll_append htracks, trackAll_singleton, List.map_cons,
      trackBrackets_pair hpair]
    exact ⟨_, rfl⟩

/-- An unclosed bracket is the innermost one that is open where the text ends. -/
theorem readTokens_eq_unclosed_iff {source : String} {position : Position} {mark : Char} :
    readTokens source = .error ⟨position, .unclosed mark⟩ ↔
      ∃ read innermost, MeetsEnd source read ∧ LeavesOpen read innermost ∧
        innermost.position = position ∧ innermost.mark = mark := by
  constructor
  · intro h
    obtain ⟨_, _, -, -, ⟨-, he⟩ | ⟨_, -, -, he⟩⟩ | ⟨read, innermost, hmeets, hopen, he⟩ :=
      bracket_error_cases rfl h
    · cases he
    · cases he
    · cases he
      exact ⟨read, innermost, hmeets, hopen, rfl, rfl⟩
  · rintro ⟨_, innermost, ⟨embedded, before, opened, cursor, rfl, hreading, hend⟩, hopen, rfl,
      rfl⟩
    have htracks := tracks_of_reading hreading
    rw [Reader.Tracks] at htracks
    obtain ⟨outer, -, rfl⟩ := (leavesOpen_iff htracks).1 hopen
    exact (readTokens_eq_error_iff_faults rfl).2 ⟨_, hreading, .unclosed hend⟩

/-- Brackets are balanced, and errors about them point at the culprit. The tokens of a source nest
properly. It is refused over a closer exactly where that is the first one at which the tokens of the
script it stands in stop being the beginning of a properly nested word, with the innermost bracket
open there, if any, and over an open bracket exactly where that is the innermost one open in the
script that the text ends in. -/
theorem readTokens_brackets (source : String) :
    (∀ tokens, readTokens source = .ok tokens → WellNested tokens) ∧
    (∀ position mark, readTokens source = .error ⟨position, .unopened mark⟩ ↔
      ∃ read closer, MeetsCloser source read closer ∧
        WellNested read ∧ ¬ StartsNested (read ++ [closer]) ∧
          closer.position = position ∧ closer.mark = mark) ∧
    (∀ position mark opened opener,
      readTokens source = .error ⟨position, .mismatched mark opener opened⟩ ↔
        ∃ read closer innermost, MeetsCloser source read closer ∧
          StartsNested read ∧ ¬ StartsNested (read ++ [closer]) ∧ LeavesOpen read innermost ∧
            closer.position = position ∧ closer.mark = mark ∧
              innermost.position = opened ∧ innermost.mark = opener) ∧
    (∀ position mark, readTokens source = .error ⟨position, .unclosed mark⟩ ↔
      ∃ read innermost, MeetsEnd source read ∧ LeavesOpen read innermost ∧
        innermost.position = position ∧ innermost.mark = mark) :=
  ⟨fun _ => wellNested_of_readTokens, fun _ _ => readTokens_eq_unopened_iff,
    fun _ _ _ _ => readTokens_eq_mismatched_iff, fun _ _ => readTokens_eq_unclosed_iff⟩

/-- The tokens of `f()` as they are written. -/
def writtenCall : List Written :=
  [.plain .name "" "f", .plain .punctuator "" "(", .plain .punctuator "" ")"]

/-- The tokens in front of the last one of `f(]`. -/
def brokenCall : List Token :=
  [⟨.name, "f", ⟨1, 1⟩, false⟩, ⟨.punctuator, "(", ⟨1, 2⟩, false⟩]

/-- The last token of `f(]`. -/
def strayCloser : Token :=
  ⟨.punctuator, "]", ⟨1, 3⟩, false⟩

theorem meetsCloser_strayCloser : MeetsCloser "f(]" brokenCall strayCloser := by
  have hname : (Written.plain .name "" "f").Legible [] ['(', ']'] :=
    Written.legible_of_isPlain (by decide +kernel)
  have hopener : (Written.plain .punctuator "" "(").Legible [brokenCall[0]] [']'] :=
    Written.legible_of_isPlain (by decide +kernel)
  have hcloser : (Written.plain .punctuator "" "]").Legible brokenCall.reverse [] :=
    Written.legible_of_isPlain (by decide +kernel)
  have hstart : skipInterpreterLine (.start "f(]") = ⟨⟨1, 1⟩, ['f', '(', ']']⟩ := rfl
  have hfirst : ReadsToken false [] [] ⟨⟨1, 1⟩, ['f', '(', ']']⟩ brokenCall[0]
      ⟨⟨1, 2⟩, ['(', ']']⟩ := Written.readsToken_of_legible rfl hname []
  have hsecond : ReadsToken false [brokenCall[0]] [] ⟨⟨1, 2⟩, ['(', ']']⟩ brokenCall[1]
      ⟨⟨1, 3⟩, [']']⟩ := Written.readsToken_of_legible rfl hopener []
  have hlast : ReadsToken false brokenCall.reverse [brokenCall[1].bracket] ⟨⟨1, 3⟩, [']']⟩
      strayCloser ⟨⟨1, 4⟩, []⟩ := Written.readsToken_of_legible rfl hcloser _
  have hreading : Reading "f(]"
      (.script false brokenCall.reverse [brokenCall[1].bracket] ⟨⟨1, 3⟩, [']']⟩) := by
    rw [Reading, hstart]
    exact .tail (.tail .refl (.further hfirst rfl)) (.further hsecond rfl)
  exact ⟨rfl, _, _, _, _, _, List.reverse_reverse _, hreading, hlast⟩

/-- A call is read and nests properly. With a square bracket at its end it is refused over that,
and the error cites the parenthesis. -/
theorem readTokens_brackets_call :
    readTokens "f()" = .ok (Written.tokens (.start "f()") writtenCall) ∧
      WellNested (Written.tokens (.start "f()") writtenCall) ∧
      readTokens "f(]" = .error ⟨⟨1, 3⟩, .mismatched ']' '(' ⟨1, 2⟩⟩ := by
  have hplain : Written.writesPlainly "f()" writtenCall [] = true := by decide +kernel
  have hread := Written.readTokens_of_writesPlainly hplain
  have hstarts : StartsNested brokenCall := startsNested_iff_trackAll.2 ⟨_, rfl⟩
  have hstops : ¬ StartsNested (brokenCall ++ [strayCloser]) := by
    rw [startsNested_iff_trackAll]
    rintro ⟨opened, hopened⟩
    cases hopened
  have hopen : LeavesOpen brokenCall brokenCall[1] := ⟨[brokenCall[0]], [], rfl, rfl, .nil⟩
  refine ⟨hread, (readTokens_brackets "f()").1 _ hread, ?_⟩
  rw [(readTokens_brackets "f(]").2.2.1]
  exact ⟨brokenCall, strayCloser, brokenCall[1], meetsCloser_strayCloser, hstarts, hstops, hopen,
    rfl, rfl, rfl, rfl⟩

end RouteTable.Script
