import RouteTable.Command.Depfile
import RouteTable.Pass.Notice
import RouteTable.Proofs.Text.Utf8
import RouteTable.Text.Blank

/-!
Reading a rule as Make reads it: names with gaps between them, those of the targets up to a colon.
The rule of a dependency file is read back as the target and what it depends on, whatever spaces and
other characters with a meaning in rules the paths have.
-/

namespace RouteTable

open Text

namespace Path

theorem ofString_shown {path : Path} (h : (Utf8.decode? path.bytes).isSome) :
    ofString path.shown = path := by
  obtain ⟨text, htext⟩ := Option.isSome_iff_exists.1 h
  rw [ofString, shown, String.toList_ofList, Utf8.decodeLossy_of_decode? htext,
    Utf8.encode_of_decode? htext]

/-- Whether a path is a text without backslashes, and with no blanks but spaces. -/
structure IsPlain (path : Path) : Prop where
  isText : (Utf8.decode? path.bytes).isSome
  ne_nil : path.bytes ≠ []
  plain : ∀ c ∈ path.shown.toList, c ≠ '\\' ∧ (isBlank c → c = ' ')

theorem isPlain_iff {path : Path} : path.IsPlain ↔ (Utf8.decode? path.bytes).isSome ∧
    path.bytes ≠ [] ∧ ∀ c ∈ path.shown.toList, c ≠ '\\' ∧ (isBlank c → c = ' ') :=
  ⟨fun h => ⟨h.isText, h.ne_nil, h.plain⟩, fun ⟨htext, hne, hplain⟩ => ⟨htext, hne, hplain⟩⟩

instance (path : Path) : Decidable path.IsPlain :=
  let _ : Decidable (∀ c ∈ path.shown.toList, c ≠ '\\' ∧ (isBlank c → c = ' ')) :=
    List.decidableBAll _ _
  decidable_of_iff _ isPlain_iff.symm

theorem IsPlain.ne_backslash_and_line {path : Path} (h : path.IsPlain) :
    ∀ c ∈ path.shown.toList, c ≠ '\\' ∧ c ≠ '\n' := by
  intro c hc
  obtain ⟨hbackslash, hblank⟩ := h.plain c hc
  refine ⟨hbackslash, ?_⟩
  rintro rfl
  exact absurd (hblank (by decide)) (by decide)

theorem IsPlain.toList_shown_ne_nil {path : Path} (h : path.IsPlain) : path.shown.toList ≠ [] := by
  intro hnil
  apply h.ne_nil
  rw [← ofString_shown h.isText, ofString, hnil]
  rfl

end Path

namespace Command.Depfile

/-- What a place in a rule means: a character of a name, a gap between names, or a colon. -/
inductive Mark where
  | char (c : Char)
  | gap
  | colon
deriving DecidableEq

namespace Mark

def ofChar (c : Char) : Mark :=
  if c = ':' then .colon else .char c

def char? : Mark → Option Char
  | .char c => some c
  | .colon => some ':'
  | .gap => none

theorem ofChar_ne_gap (c : Char) : ofChar c ≠ .gap := by
  rw [ofChar]
  split <;> simp

theorem filterMap_char?_map_ofChar (chars : List Char) :
    (chars.map ofChar).filterMap char? = chars := by
  have hchar (c : Char) : char? (ofChar c) = some c := by
    rw [ofChar]
    split
    · rename_i hcolon
      rw [hcolon]
      rfl
    · rfl
  induction chars with
  | nil => rfl
  | cons c rest ih => rw [List.map_cons, List.filterMap_cons_some (hchar c), ih]

end Mark

def before (mark : Mark) (read : Option (List Mark × List Char)) : Option (List Mark × List Char) :=
  read.map fun (marks, rest) => (mark :: marks, rest)

/-- The marks up to a line break that no backslash is in front of, and what follows it. With a
backslash, a line break is a gap, and a space, a number sign or a colon is a character of a name; so
is the second of two dollar signs. A comment or a reference to a variable is no part of a rule. -/
def marks? : List Char → Option (List Mark × List Char)
  | [] => none
  | '\n' :: rest => some ([], rest)
  | '\\' :: '\n' :: rest => before .gap (marks? rest)
  | '\\' :: ' ' :: rest => before (.char ' ') (marks? rest)
  | '\\' :: '#' :: rest => before (.char '#') (marks? rest)
  | '\\' :: ':' :: rest => before (.char ':') (marks? rest)
  | '$' :: '$' :: rest => before (.char '$') (marks? rest)
  | '$' :: _ => none
  | '#' :: _ => none
  | ' ' :: rest => before .gap (marks? rest)
  | ':' :: rest => before .colon (marks? rest)
  | c :: rest => before (.char c) (marks? rest)

def pathOf (chars : List Char) : Path :=
  .ofString (String.ofList chars)

def names (marks : List Mark) : List Path :=
  ((marks.splitOn .gap).filter (!·.isEmpty)).map fun name => pathOf (name.filterMap Mark.char?)

structure Rule where
  targets : List Path
  prerequisites : List Path

/-- Reads a rule, and gives the text after it. The first colon ends the targets. -/
def readRule? (text : List Char) : Option (Rule × List Char) :=
  match marks? text with
  | none => none
  | some (marks, rest) =>
    match marks.dropWhile (· != .colon) with
    | [] => none
    | _ :: after => some (⟨names (marks.takeWhile (· != .colon)), names after⟩, rest)

section Marks

theorem marks?_escapedChar {c : Char} (hbackslash : c ≠ '\\') (hline : c ≠ '\n')
    (rest : List Char) :
    marks? (escapedChar c ++ rest) = before (Mark.ofChar c) (marks? rest) := by
  by_cases hspace : c = ' '
  · subst hspace
    rfl
  by_cases hnumber : c = '#'
  · subst hnumber
    rfl
  by_cases hdollar : c = '$'
  · subst hdollar
    rfl
  by_cases hcolon : c = ':'
  · subst hcolon
    rfl
  · simp [escapedChar, Mark.ofChar, marks?, hbackslash, hspace, hnumber, hdollar, hcolon]

/-- An escaped name is read back as its characters. -/
theorem marks?_escaped {chars : List Char} (h : ∀ c ∈ chars, c ≠ '\\' ∧ c ≠ '\n')
    (rest : List Char) :
    marks? (chars.flatMap escapedChar ++ rest) =
      (marks? rest).map fun read => (chars.map Mark.ofChar ++ read.1, read.2) := by
  induction chars with
  | nil => simp
  | cons c chars ih =>
    obtain ⟨hc, hchars⟩ := List.forall_mem_cons.1 h
    rw [List.flatMap_cons, List.append_assoc, marks?_escapedChar hc.1 hc.2, ih hchars, before,
      Option.map_map]
    rfl

/-- What stands between two names of a rule is read as gaps. -/
theorem marks?_separator (rest : List Char) :
    marks? (separator ++ rest) =
      (marks? rest).map fun read => (List.replicate 4 .gap ++ read.1, read.2) := by
  change before .gap (before .gap (before .gap (before .gap (marks? rest)))) = _
  simp only [before, Option.map_map]
  rfl

end Marks

section Names

variable {chars : List Char}

theorem names_gap (marks : List Mark) : names (.gap :: marks) = names marks := by
  rw [names, List.splitOn, List.splitOnP_cons_eq_if_modifyHead, if_pos (beq_self_eq_true _)]
  rfl

theorem names_gaps (n : Nat) (marks : List Mark) :
    names (List.replicate n .gap ++ marks) = names marks := by
  induction n with
  | zero => rfl
  | succ n ih => rw [List.replicate_succ, List.cons_append, names_gap, ih]

theorem beq_gap_of_mem {mark : Mark} (h : mark ∈ chars.map Mark.ofChar) :
    (mark == .gap) = false := by
  obtain ⟨c, -, rfl⟩ := List.mem_map.1 h
  exact beq_false_of_ne (Mark.ofChar_ne_gap c)

variable (hne : chars ≠ [])
include hne

theorem names_cons {rest : List (List Mark)} :
    (((chars.map Mark.ofChar :: rest).filter (!·.isEmpty)).map fun name =>
      pathOf (name.filterMap Mark.char?)) =
    pathOf chars :: ((rest.filter (!·.isEmpty)).map fun name =>
      pathOf (name.filterMap Mark.char?)) := by
  have hkeep : (!(chars.map Mark.ofChar).isEmpty) = true := by simpa using hne
  rw [List.filter_cons_of_pos (p := fun name : List Mark => !name.isEmpty) hkeep, List.map_cons,
    Mark.filterMap_char?_map_ofChar]

theorem names_map_ofChar : names (chars.map Mark.ofChar) = [pathOf chars] := by
  rw [names, List.splitOn, List.splitOnP_eq_singleton fun _ => beq_gap_of_mem, names_cons hne]
  rfl

theorem names_map_ofChar_append (marks : List Mark) :
    names (chars.map Mark.ofChar ++ .gap :: marks) = pathOf chars :: names marks := by
  rw [names, List.splitOn, List.splitOnP_append_cons_of_forall_mem (fun _ => beq_gap_of_mem) _
    (beq_self_eq_true _), names_cons hne]
  rfl

end Names

def prerequisiteMarks (paths : List Path) : List Mark :=
  paths.flatMap fun path => List.replicate 4 .gap ++ path.shown.toList.map Mark.ofChar

theorem names_prerequisiteMarks {paths : List Path} (h : ∀ path ∈ paths, path.IsPlain) :
    names (prerequisiteMarks paths) = paths := by
  have hpath {path : Path} (h : path.IsPlain) : pathOf path.shown.toList = path := by
    rw [pathOf, String.ofList_toList, Path.ofString_shown h.isText]
  induction paths with
  | nil => rfl
  | cons path rest ih =>
    obtain ⟨hfirst, hrest⟩ := List.forall_mem_cons.1 h
    rw [prerequisiteMarks, List.flatMap_cons, List.append_assoc, names_gaps]
    rcases rest with _ | ⟨second, rest⟩
    · rw [List.flatMap_nil, List.append_nil, names_map_ofChar hfirst.toList_shown_ne_nil,
        hpath hfirst]
    · -- The first of the gaps in front of the second name ends the first.
      obtain ⟨marks, hmarks⟩ : ∃ marks, prerequisiteMarks (second :: rest) = .gap :: marks :=
        ⟨_, rfl⟩
      have hothers := ih hrest
      rw [hmarks, names_gap] at hothers
      change names (path.shown.toList.map Mark.ofChar ++ prerequisiteMarks (second :: rest)) = _
      rw [hmarks, names_map_ofChar_append hfirst.toList_shown_ne_nil, hothers, hpath hfirst]

theorem marks?_prerequisites {paths : List Path} (h : ∀ path ∈ paths, path.IsPlain) :
    marks? (paths.flatMap (fun path => separator ++ escaped path) ++ ['\n']) =
      some (prerequisiteMarks paths, []) := by
  induction paths with
  | nil => rfl
  | cons path rest ih =>
    obtain ⟨hfirst, hrest⟩ := List.forall_mem_cons.1 h
    have hmarks := marks?_escaped hfirst.ne_backslash_and_line
      (rest.flatMap (fun path => separator ++ escaped path) ++ ['\n'])
    rw [List.flatMap_cons, List.append_assoc, List.append_assoc, marks?_separator, escaped, hmarks,
      ih hrest]
    rfl

theorem marks?_text {target : Path} {paths : List Path} (htarget : target.IsPlain)
    (hplain : ∀ path ∈ paths, path.IsPlain) :
    marks? (text target paths).toList =
      some (target.shown.toList.map Mark.ofChar ++ .colon :: prerequisiteMarks paths, []) := by
  have hcolon (rest : List Char) : marks? (':' :: rest) = before .colon (marks? rest) := rfl
  rw [text, String.toList_ofList, List.append_assoc, escaped,
    marks?_escaped htarget.ne_backslash_and_line, List.cons_append, hcolon,
    marks?_prerequisites hplain]
  rfl

/-- The rule of a dependency file is read back as its one target and the paths that the result
depends on, directories first, and nothing is left behind the rule. -/
theorem readRule?_text {α : Type} (pass : Pass α) {target : Path} (htarget : target.IsPlain)
    (hcolon : ':' ∉ target.shown.toList) (hplain : ∀ path ∈ pass.dependencies, path.IsPlain) :
    readRule? (text target pass.dependencies).toList =
      some (⟨[target], pass.directories ++ pass.files⟩, []) := by
  have hname : ∀ mark ∈ target.shown.toList.map Mark.ofChar, (mark != .colon) = true := by
    intro mark hmark
    obtain ⟨c, hc, rfl⟩ := List.mem_map.1 hmark
    have hne : c ≠ ':' := fun heq => hcolon (heq ▸ hc)
    rw [Mark.ofChar, if_neg hne]
    rfl
  rw [readRule?, marks?_text htarget hplain]
  dsimp only
  rw [List.dropWhile_append_of_pos hname, List.takeWhile_append_of_pos hname]
  rw [List.dropWhile_cons_of_neg (by simp), List.takeWhile_cons_of_neg (by simp), List.append_nil]
  dsimp only
  rw [names_map_ofChar htarget.toList_shown_ne_nil, names_prerequisiteMarks hplain, pathOf,
    String.ofList_toList, Path.ofString_shown htarget.isText]
  rfl

section Marked

def markedTarget : Path :=
  .ofString "out dir/#r.js"

/-- A pass that depends on paths with characters that have a meaning in rules. -/
def markedPass : Pass Unit :=
  ⟨[.directory (.ofString "/my  routes"), .event (.discovered 2),
    .file (.ofString "/my  routes/a:b"), .file (.ofString "/my  routes/$#")], .ok ()⟩

/-- Runs of blanks, number and dollar signs, and the colon of a dependency are read back. -/
theorem readRule?_text_marked :
    text markedTarget markedPass.dependencies =
      "out\\ dir/\\#r.js: \\\n  /my\\ \\ routes" ++
        " \\\n  /my\\ \\ routes/a:b \\\n  /my\\ \\ routes/$$\\#\n" ∧
    markedTarget.IsPlain ∧ ':' ∉ markedTarget.shown.toList ∧
    (∀ path ∈ markedPass.dependencies, path.IsPlain) ∧
    readRule? (text markedTarget markedPass.dependencies).toList =
      some (⟨[markedTarget], [.ofString "/my  routes", .ofString "/my  routes/a:b",
        .ofString "/my  routes/$#"]⟩, []) := by
  have htarget : markedTarget.IsPlain := by decide +kernel
  have hcolon : ':' ∉ markedTarget.shown.toList := by decide +kernel
  have hplain : ∀ path ∈ markedPass.dependencies, path.IsPlain := by decide +kernel
  have hread := readRule?_text markedPass htarget hcolon hplain
  exact ⟨by decide +kernel, htarget, hcolon, hplain, hread⟩

end Marked

end Command.Depfile

end RouteTable
