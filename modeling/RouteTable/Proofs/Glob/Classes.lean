import RouteTable.Proofs.Glob.Compile
import RouteTable.Proofs.Regex.Classes

/-!
Classes of globs keep their members. A class written with escapes, with ranges of letters and
digits, and with single characters takes exactly the characters that its members take, whatever
these characters mean in a regular expression; and the class of a regular expression that it is
written as, by a second reader of the same text, is read as the same set.
-/

namespace RouteTable.Glob

inductive ClassMember where
  | escaped (c : Char)
  | range (low high : Char)
  | single (c : Char)
deriving DecidableEq

namespace ClassMember

def text : ClassMember → List Char
  | escaped c => ['\\', c]
  | range low high => [low, '-', high]
  | single c => [c]

/-- The first and the last character that a member takes. -/
def ends : ClassMember → Char × Char
  | escaped c => (c, c)
  | range low high => (low, high)
  | single c => (c, c)

def Takes (member : ClassMember) (c : Char) : Prop :=
  match member with
  | escaped d => c = d
  | range low high => low ≤ c ∧ c ≤ high
  | single d => c = d

/-- Whether a member may stand in a class, and a closing bracket only in first place. -/
def Fits (first : Bool) : ClassMember → Prop
  | escaped c => c ≠ '/'
  | range low high =>
    Text.isAlphanumeric low = true ∧ Text.isAlphanumeric high = true ∧ low ≤ high
  | single c => c ∉ ['-', '/', '\\'] ∧ (c = ']' → first = true)

instance : (member : ClassMember) → (c : Char) → Decidable (member.Takes c)
  | escaped d, c => inferInstanceAs (Decidable (c = d))
  | range low high, c => inferInstanceAs (Decidable (low ≤ c ∧ c ≤ high))
  | single d, c => inferInstanceAs (Decidable (c = d))

instance (first : Bool) : (member : ClassMember) → Decidable (member.Fits first)
  | escaped c => inferInstanceAs (Decidable (c ≠ '/'))
  | range low high =>
    inferInstanceAs (Decidable (Text.isAlphanumeric low = true ∧ Text.isAlphanumeric high = true ∧
      low ≤ high))
  | single c =>
    inferInstanceAs (Decidable (c ∉ ['-', '/', '\\'] ∧ (c = ']' → first = true)))

end ClassMember

/-- A class of a glob as it is written, with its mark if it is negated. -/
structure WrittenClass where
  mark : Option Char
  first : ClassMember
  others : List ClassMember

namespace WrittenClass

def members (written : WrittenClass) : List ClassMember :=
  written.first :: written.others

def body (written : WrittenClass) : List Char :=
  written.mark.toList ++ (written.members.flatMap ClassMember.text ++ [']'])

def text (written : WrittenClass) : List Char :=
  '[' :: written.body

def negated (written : WrittenClass) : Bool :=
  written.mark.isSome

/-- Whether a class takes a character: one of its members does, or none if it is negated. -/
def Takes (written : WrittenClass) (c : Char) : Prop :=
  if written.negated then ∀ member ∈ written.members, ¬ member.Takes c
  else ∃ member ∈ written.members, member.Takes c

instance (written : WrittenClass) (c : Char) : Decidable (written.Takes c) :=
  inferInstanceAs (Decidable (if written.negated then ∀ member ∈ written.members, ¬ member.Takes c
    else ∃ member ∈ written.members, member.Takes c))

/-- A class whose members may stand where they do. A class that is not negated does not start with
a character that would negate it. -/
structure WellFormed (written : WrittenClass) : Prop where
  mark : ∀ c ∈ written.mark, c = '!' ∨ c = '^'
  unmarked : written.mark = none → ∀ c, written.first = .single c → c ≠ '!' ∧ c ≠ '^'
  first : written.first.Fits true
  others : ∀ member ∈ written.others, member.Fits false

end WrittenClass

/-- A character as a regular expression takes it literally anywhere. -/
def escapedCharacter (c : Char) : List Char :=
  if c ∈ Regex.metaCharacters then ['\\', c] else [c]

/-- A character that was not escaped in a class, as it is written in a class of a regular
expression. -/
def classCharacter (c : Char) : List Char :=
  if c ∈ ['[', ']', '&', '~'] then ['\\', c] else [c]

/-- Reads the members of a class up to and over its closing bracket, and writes them as members of a
class of a regular expression. -/
def membersExpression (first : Bool) : List Char → Except Fault (List Char × List Char)
  | [] => .error .unclosedClass
  | '\\' :: [] => .error .danglingClassEscape
  | '\\' :: c :: s => do
    let (text, rest) ← membersExpression false s
    pure (escapedCharacter c ++ text, rest)
  | c :: s =>
    if c == ']' && !first then pure ([']'], s)
    else do
      let (text, rest) ← membersExpression false s
      pure (classCharacter c ++ text, rest)

/-- Reads a class after its opening bracket, and writes it as a class of a regular expression. -/
def classExpression : List Char → Except Fault (List Char × List Char)
  | '!' :: s => (membersExpression true s).map fun (text, rest) => ('^' :: text, rest)
  | '^' :: s => (membersExpression true s).map fun (text, rest) => ('^' :: text, rest)
  | s => membersExpression true s

namespace ClassMember

def read : ClassMember → List Member
  | escaped c => [.character c]
  | range low high => [.character low, .dash, .character high]
  | single c => [.character c]

def expression : ClassMember → List Char
  | escaped c => escapedCharacter c
  | range low high => classCharacter low ++ '-' :: classCharacter high
  | single c => classCharacter c

end ClassMember

section Reading

variable {first : Bool} {member : ClassMember} {members : List ClassMember} {s : List Char}

/-- A letter or a digit is none of the marks of a class. -/
theorem ne_of_isAlphanumeric {c d : Char} (h : Text.isAlphanumeric c = true)
    (hd : d ∈ ['\\', '[', ']', '&', '-', '~', '/', '!', '^']) : c ≠ d := by
  rintro rfl
  have hall : ['\\', '[', ']', '&', '-', '~', '/', '!', '^'].all (!Text.isAlphanumeric ·) =
      true := by decide +kernel
  have hnot := List.all_eq_true.1 hall c hd
  rw [h] at hnot
  cases hnot

theorem classMembers_plain {c : Char} (hbackslash : c ≠ '\\') (hbracket : c = ']' → first = true) :
    classMembers first (c :: s) = (classMembers false s).map fun read =>
      ((if c == '-' then .dash else .character c) :: read.1, read.2) := by
  have hopen : ¬ (c == ']' && !first) = true := by simpa using hbracket
  rw [classMembers, if_neg hopen]
  · cases classMembers false s <;> rfl
  · exact fun h _ => hbackslash h
  · exact fun _ _ h _ => hbackslash h

theorem membersExpression_plain {c : Char} (hbackslash : c ≠ '\\')
    (hbracket : c = ']' → first = true) :
    membersExpression first (c :: s) = (membersExpression false s).map fun written =>
      (classCharacter c ++ written.1, written.2) := by
  have hopen : ¬ (c == ']' && !first) = true := by simpa using hbracket
  rw [membersExpression, if_neg hopen]
  · cases membersExpression false s <;> rfl
  · exact fun h _ => hbackslash h
  · exact fun _ _ h _ => hbackslash h

theorem classMembers_member (h : member.Fits first) (s : List Char) :
    classMembers first (member.text ++ s) = (classMembers false s).map fun read =>
      (member.read ++ read.1, read.2) := by
  cases member with
  | escaped c =>
    change classMembers first ('\\' :: c :: s) = _
    rw [classMembers]
    cases classMembers false s <;> rfl
  | range low high =>
    have hlow : low ≠ '-' := ne_of_isAlphanumeric h.1 (by decide)
    have hhigh : high ≠ '-' := ne_of_isAlphanumeric h.2.1 (by decide)
    change classMembers first (low :: '-' :: high :: s) = _
    rw [classMembers_plain (ne_of_isAlphanumeric h.1 (by decide))
        fun hc => absurd hc (ne_of_isAlphanumeric h.1 (by decide)),
      classMembers_plain (by decide) (by decide),
      classMembers_plain (ne_of_isAlphanumeric h.2.1 (by decide))
        fun hc => absurd hc (ne_of_isAlphanumeric h.2.1 (by decide))]
    cases classMembers false s <;> simp [Except.map, ClassMember.read, hlow, hhigh]
  | single c =>
    have hplain := h.1
    simp only [List.mem_cons, List.not_mem_nil, or_false, not_or] at hplain
    change classMembers first (c :: s) = _
    rw [classMembers_plain hplain.2.2 h.2]
    cases classMembers false s <;> simp [Except.map, ClassMember.read, hplain]

theorem membersExpression_member (h : member.Fits first) (s : List Char) :
    membersExpression first (member.text ++ s) = (membersExpression false s).map fun written =>
      (member.expression ++ written.1, written.2) := by
  cases member with
  | escaped c =>
    change membersExpression first ('\\' :: c :: s) = _
    rw [membersExpression]
    cases membersExpression false s <;> rfl
  | range low high =>
    change membersExpression first (low :: '-' :: high :: s) = _
    rw [membersExpression_plain (ne_of_isAlphanumeric h.1 (by decide))
        fun hc => absurd hc (ne_of_isAlphanumeric h.1 (by decide)),
      membersExpression_plain (by decide) (by decide),
      membersExpression_plain (ne_of_isAlphanumeric h.2.1 (by decide))
        fun hc => absurd hc (ne_of_isAlphanumeric h.2.1 (by decide))]
    cases membersExpression false s <;> simp [Except.map, ClassMember.expression, classCharacter]
  | single c =>
    have hplain := h.1
    simp only [List.mem_cons, List.not_mem_nil, or_false, not_or] at hplain
    change membersExpression first (c :: s) = _
    rw [membersExpression_plain hplain.2.2 h.2]
    rfl

/-- Members one after another, up to the bracket that closes the class, by a reader that reads each
of them in front of whatever follows it. -/
theorem reads_members {α : Type} {reader : Bool → List Char → Except Fault (List α × List Char)}
    {image : ClassMember → List α} {last : List α}
    (hmember : ∀ (first : Bool) (member : ClassMember) (s : List Char), member.Fits first →
      reader first (member.text ++ s) = (reader false s).map fun read =>
        (image member ++ read.1, read.2))
    (hclose : ∀ rest, reader false (']' :: rest) = .ok (last, rest))
    (h : ∀ member ∈ members, member.Fits false) (rest : List Char) :
    reader false (members.flatMap ClassMember.text ++ ']' :: rest) =
      .ok (members.flatMap image ++ last, rest) := by
  induction members with
  | nil => exact hclose rest
  | cons member members ih =>
    obtain ⟨hfits, hothers⟩ := List.forall_mem_cons.1 h
    rw [List.flatMap_cons, List.append_assoc, hmember _ _ _ hfits, ih hothers, List.flatMap_cons,
      List.append_assoc]
    rfl

end Reading

section Members

variable {first : Bool} {member : ClassMember} {members : List ClassMember} {c : Char}

theorem ClassMember.Fits.le (h : member.Fits first) : member.ends.1 ≤ member.ends.2 := by
  cases member with
  | range low high => exact h.2.2
  | _ => exact Char.le_refl _

theorem contains_ranges (negated : Bool) (ranges : Ranges) (c : Char) :
    CharSet.contains ⟨negated, ranges, []⟩ c = (negated != Regex.inRanges ranges c) := by
  rw [CharSet.contains, List.any_nil, Bool.not_false, Bool.and_true]
  rfl

theorem ClassMember.takes_iff : member.Takes c ↔ member.ends.1 ≤ c ∧ c ≤ member.ends.2 := by
  have hone (d : Char) : c = d ↔ d ≤ c ∧ c ≤ d :=
    ⟨fun h => h ▸ ⟨Char.le_refl _, Char.le_refl _⟩, fun h => Char.le_antisymm h.2 h.1⟩
  cases member with
  | range low high => exact Iff.rfl
  | _ => exact hone _

theorem inRanges_ends_iff :
    Regex.inRanges (members.map ClassMember.ends) c = true ↔
      ∃ member ∈ members, member.Takes c := by
  simp only [Regex.inRanges, List.any_map, List.any_eq_true, Function.comp_apply, Bool.and_eq_true,
    decide_eq_true_eq, ClassMember.takes_iff]

/-- The characters that are read of members join to no other ranges than theirs. -/
theorem unions_members (h : ∀ member ∈ members, member.ends.1 ≤ member.ends.2) :
    unions (members.flatMap ClassMember.read) = .ok (members.map ClassMember.ends, []) := by
  induction members with
  | nil => rfl
  | cons member members ih =>
    obtain ⟨hle, hothers⟩ := List.forall_mem_cons.1 h
    have hrest := ih hothers
    have hdash : ∀ s, members.flatMap ClassMember.read ≠ .dash :: s := by
      intro s
      cases members with
      | nil => simp
      | cons next members => cases next <;> simp [ClassMember.read]
    cases member with
    | range low high =>
      rw [List.flatMap_cons, ClassMember.read]
      simp only [List.cons_append, List.nil_append]
      rw [unions, if_pos (show low ≤ high from hle), hrest]
      rfl
    | _ =>
      rw [List.flatMap_cons, ClassMember.read, List.singleton_append, unions, hrest]
      · rfl
      · exact fun _ _ hs => hdash _ hs

theorem charSet_members (negated : Bool) (hne : members ≠ [])
    (h : ∀ member ∈ members, member.ends.1 ≤ member.ends.2) :
    charSet negated (members.flatMap ClassMember.read) =
      .ok ⟨negated, members.map ClassMember.ends, []⟩ := by
  obtain ⟨member, others, rfl⟩ := List.exists_cons_of_ne_nil hne
  obtain ⟨d, rest, hread⟩ : ∃ d rest,
      (member :: others).flatMap ClassMember.read = .character d :: rest := by
    cases member <;> exact ⟨_, _, rfl⟩
  have hunions := unions_members h
  rw [hread] at hunions ⊢
  simp [charSet, hunions, bind, Except.bind, pure, Except.pure]

theorem writesLiteral_escapedCharacter (c : Char) :
    Regex.WritesLiteral c (escapedCharacter c) := by
  unfold escapedCharacter
  split
  next hmeta => exact .escaped hmeta
  next hmeta =>
    refine .plain fun hmem => hmeta ?_
    have hall : ['\\', '[', ']', '&', '-', '~'] ⊆ Regex.metaCharacters := by decide
    exact hall hmem

theorem writesLiteral_classCharacter (hc : c ≠ '\\' ∧ c ≠ '-') :
    Regex.WritesLiteral c (classCharacter c) := by
  unfold classCharacter
  split
  next hmem =>
    have hall : ['[', ']', '&', '~'] ⊆ Regex.metaCharacters := by decide
    exact .escaped (hall hmem)
  next hmem =>
    refine .plain ?_
    simp only [List.mem_cons, List.not_mem_nil, or_false, not_or] at hmem ⊢
    exact ⟨hc.1, hmem.1, hmem.2.1, hmem.2.2.1, hc.2, hmem.2.2.2⟩

/-- A member is written as an item that takes the same characters. -/
theorem ClassMember.Fits.writesItem (h : member.Fits first) :
    Regex.WritesItem member.ends member.expression := by
  cases member with
  | escaped c => exact .single (writesLiteral_escapedCharacter c)
  | range low high =>
    have hplain {c : Char} (hc : Text.isAlphanumeric c = true) : c ≠ '\\' ∧ c ≠ '-' :=
      ⟨ne_of_isAlphanumeric hc (by decide), ne_of_isAlphanumeric hc (by decide)⟩
    exact .range (writesLiteral_classCharacter (hplain h.1))
      (writesLiteral_classCharacter (hplain h.2.1)) h.2.2
  | single c =>
    have hplain := h.1
    simp only [List.mem_cons, List.not_mem_nil, or_false, not_or] at hplain
    exact .single (writesLiteral_classCharacter ⟨hplain.2.2, hplain.1⟩)

end Members

section Closed

/-- A class whose members can be read is closed. -/
theorem exists_classBody_of_classMembers {first : Bool} {s : List Char}
    {result : List Member × List Char} (h : classMembers first s = .ok result) :
    ∃ text, classBody first s = some (text, result.2) := by
  fun_induction classMembers first s generalizing result with
  | case1 => cases h
  | case2 => cases h
  | case3 first c s ih =>
    obtain ⟨inner, hinner, hresult⟩ := bind_eq_ok_iff.1 h
    cases hresult
    obtain ⟨text, htext⟩ := ih hinner
    exact ⟨_, by rw [classBody, htext]; rfl⟩
  | case4 first c s hlone hescape hc =>
    cases h
    exact ⟨[c], by rw [classBody_plain (ne_backslash hlone hescape), if_pos hc]⟩
  | case5 first c s hlone hescape hc ih =>
    obtain ⟨inner, hinner, hresult⟩ := bind_eq_ok_iff.1 h
    cases hresult
    obtain ⟨text, htext⟩ := ih hinner
    exact ⟨_, by rw [classBody_plain (ne_backslash hlone hescape), if_neg hc, htext]; rfl⟩

theorem exists_classText_of_readClass {s : List Char} {result : (Bool × List Member) × List Char}
    (h : readClass s = .ok result) : ∃ text, classText s = some (text, result.2) := by
  unfold readClass at h
  split at h
  · obtain ⟨inner, hinner, rfl⟩ := map_eq_ok_iff.1 h
    obtain ⟨text, htext⟩ := exists_classBody_of_classMembers hinner
    exact ⟨'!' :: text, by rw [classText, htext]; rfl⟩
  · obtain ⟨inner, hinner, rfl⟩ := map_eq_ok_iff.1 h
    obtain ⟨text, htext⟩ := exists_classBody_of_classMembers hinner
    exact ⟨'^' :: text, by rw [classText, htext]; rfl⟩
  next hmark hcaret =>
    obtain ⟨inner, hinner, rfl⟩ := map_eq_ok_iff.1 h
    rw [classText]
    · exact exists_classBody_of_classMembers hinner
    · exact hmark
    · exact hcaret

/-- A class that is a segment of its own is the whole expression of its glob. -/
theorem compile_class {body : List Char} {negated : Bool} {members : List Member} {set : CharSet}
    (hread : readClass body = .ok ((negated, members), [])) (hslash : '/' ∉ body)
    (hset : charSet negated members = .ok set) : compile ('[' :: body) = .ok (.one set) := by
  obtain ⟨text, htext⟩ := exists_classText_of_readClass hread
  obtain rfl : body = text := by simpa using classText_append htext
  have hspellings : spellings ('[' :: body) = some ['[' :: body] := by
    have hbody : spellings ('[' :: body ++ []) = _ := spellings_class htext
    rw [List.append_nil, spellings] at hbody
    rw [hbody]
    simp
  have htrimmed : trimmed ('[' :: body) = '[' :: body := rfl
  have hsplit : splitSlashes ('[' :: body) = ['[' :: body] :=
    List.splitOnP_eq_singleton fun c hc => by
      rw [beq_eq_false_iff_ne]
      rintro rfl
      exact hslash ((List.mem_cons.1 hc).resolve_left (by decide))
  have hpieces : pieces ('[' :: body) = .ok [.charClass negated members] := by
    rw [pieces]
    split
    next hfault => cases hread.symm.trans hfault
    next hclass =>
      cases hread.symm.trans hclass
      rw [pieces]
      rfl
  have hsegment : Segment.read ('[' :: body) = .ok (.within [.charClass negated members]) := by
    rw [Segment.read, if_neg (by simp), if_neg (by simp), hpieces]
    rfl
  rw [compile_eq_ok_iff_of_spellings (by simp [htrimmed]) (htrimmed ▸ hspellings), htrimmed]
  refine ⟨[.within [.charClass negated members]], ?_, ?_⟩
  · rw [segments, if_neg (by simp), hsplit]
    exact mapM_cons_ok hsegment rfl
  · have hlanguage : segmentLanguage [.charClass negated members] = .ok (.one set) := by
      have hpiece : Piece.language (.charClass negated members) = .ok (.one set) := by
        rw [Piece.language, hset]
        rfl
      rw [segmentLanguage, mapM_cons_ok hpiece rfl]
      rfl
    rw [pathLanguage, pathLanguages, hlanguage]
    rfl

end Closed

namespace WrittenClass

variable {written : WrittenClass}

theorem WellFormed.fits (h : written.WellFormed) :
    ∀ member ∈ written.members, ∃ first, member.Fits first :=
  List.forall_mem_cons.2 ⟨⟨true, h.first⟩, fun member hmem => ⟨false, h.others member hmem⟩⟩

/-- The members of a class by a reader that reads each of them in front of whatever follows it. -/
theorem WellFormed.reads_members {α : Type} (h : written.WellFormed)
    (reader : Bool → List Char → Except Fault (List α × List Char))
    (image : ClassMember → List α) (last : List α)
    (hmember : ∀ (first : Bool) (member : ClassMember) (s : List Char), member.Fits first →
      reader first (member.text ++ s) = (reader false s).map fun read =>
        (image member ++ read.1, read.2))
    (hclose : ∀ rest, reader false (']' :: rest) = .ok (last, rest)) :
    reader true (written.members.flatMap ClassMember.text ++ [']']) =
      .ok (written.members.flatMap image ++ last, []) := by
  have hothers := Glob.reads_members hmember hclose h.others []
  rw [members, List.flatMap_cons, List.append_assoc, hmember _ _ _ h.first, hothers,
    List.flatMap_cons, List.append_assoc]
  rfl

/-- A class without a mark does not start as a class with one. -/
theorem WellFormed.exists_cons (h : written.WellFormed) (hmark : written.mark = none) :
    ∃ c s, written.members.flatMap ClassMember.text ++ [']'] = c :: s ∧ c ≠ '!' ∧ c ≠ '^' := by
  have hfirst := h.first
  have hunmarked := h.unmarked hmark
  rw [members, List.flatMap_cons]
  cases hwritten : written.first with
  | escaped c => exact ⟨_, _, rfl, by decide, by decide⟩
  | range low high =>
    rw [hwritten] at hfirst
    exact ⟨_, _, rfl, ne_of_isAlphanumeric hfirst.1 (by decide),
      ne_of_isAlphanumeric hfirst.1 (by decide)⟩
  | single c => exact ⟨_, _, rfl, hunmarked c hwritten⟩

/-- The mark of a class is read before its members, by a reader of classes that reads them in the
same way after either mark and without one. -/
theorem WellFormed.reads_body {α : Type} (h : written.WellFormed)
    (reader marked unmarked : List Char → α) (hexclamation : ∀ s, reader ('!' :: s) = marked s)
    (hcaret : ∀ s, reader ('^' :: s) = marked s)
    (hplain : ∀ c s, c ≠ '!' → c ≠ '^' → reader (c :: s) = unmarked (c :: s)) :
    reader written.body = (if written.negated then marked else unmarked)
      (written.members.flatMap ClassMember.text ++ [']']) := by
  rw [body, negated]
  cases hmark : written.mark with
  | none =>
    obtain ⟨c, s, htext, hc⟩ := h.exists_cons hmark
    rw [htext]
    exact hplain c s hc.1 hc.2
  | some c =>
    rcases h.mark c hmark with rfl | rfl
    · exact hexclamation _
    · exact hcaret _

theorem WellFormed.readClass (h : written.WellFormed) :
    Glob.readClass written.body =
      .ok ((written.negated, written.members.flatMap ClassMember.read), []) := by
  have hmembers := h.reads_members classMembers ClassMember.read []
    (fun _ _ s hfits => classMembers_member hfits s) fun _ => rfl
  have hbody := h.reads_body Glob.readClass
    (fun s => (classMembers true s).map fun read => ((true, read.1), read.2))
    (fun s => (classMembers true s).map fun read => ((false, read.1), read.2))
    (fun _ => rfl) (fun _ => rfl) fun c s hmark hcaret => by rw [Glob.readClass] <;> simp_all
  rw [List.append_nil] at hmembers
  rw [hbody]
  cases written.negated with
  | false => simp [hmembers, Except.map]
  | true => simp [hmembers, Except.map]

theorem WellFormed.classExpression (h : written.WellFormed) :
    Glob.classExpression written.body = .ok ((if written.negated then ['^'] else []) ++
      (written.members.flatMap ClassMember.expression ++ [']']), []) := by
  have hmembers := h.reads_members membersExpression ClassMember.expression [']']
    (fun _ _ s hfits => membersExpression_member hfits s) fun _ => rfl
  have hbody := h.reads_body Glob.classExpression
    (fun s => (membersExpression true s).map fun read => ('^' :: read.1, read.2))
    (membersExpression true)
    (fun _ => rfl) (fun _ => rfl) fun c s hmark hcaret => by
      rw [Glob.classExpression] <;> simp_all
  rw [hbody]
  cases written.negated with
  | false => simp [hmembers]
  | true => simp [hmembers, Except.map]

/-- A class without a mark is not written as a negated one. -/
theorem WellFormed.head?_ne_caret (h : written.WellFormed) (hmark : written.mark = none) :
    (written.members.flatMap ClassMember.expression).head? ≠ some '^' := by
  have hfirst := h.first
  have hunmarked := h.unmarked hmark
  rw [members, List.flatMap_cons]
  cases hwritten : written.first with
  | escaped c =>
    rw [ClassMember.expression, escapedCharacter]
    split
    next => exact fun heq => absurd (Option.some.inj heq) (by decide)
    next hmeta => exact fun heq => hmeta (Option.some.inj heq ▸ by decide)
  | range low high =>
    rw [hwritten] at hfirst
    have hcaret : low ≠ '^' := ne_of_isAlphanumeric hfirst.1 (by decide)
    rw [ClassMember.expression, classCharacter]
    split
    next => exact fun heq => absurd (Option.some.inj heq) (by decide)
    next => exact fun heq => hcaret (Option.some.inj heq)
  | single c =>
    rw [ClassMember.expression, classCharacter]
    split
    next => exact fun heq => absurd (Option.some.inj heq) (by decide)
    next => exact fun heq => (hunmarked c hwritten).2 (Option.some.inj heq)

theorem WellFormed.slash_not_mem_body (h : written.WellFormed) : '/' ∉ written.body := by
  have hmember : ∀ member ∈ written.members, '/' ∉ member.text := by
    intro member hmem
    obtain ⟨first, hfits⟩ := h.fits member hmem
    cases member with
    | escaped c =>
      have hc : '/' ≠ c := Ne.symm hfits
      simp [ClassMember.text, hc]
    | range low high =>
      have hlow : low ≠ '/' := ne_of_isAlphanumeric hfits.1 (by decide)
      have hhigh : high ≠ '/' := ne_of_isAlphanumeric hfits.2.1 (by decide)
      simp [ClassMember.text, Ne.symm hlow, Ne.symm hhigh]
    | single c =>
      have hplain := hfits.1
      simp only [List.mem_cons, not_or] at hplain
      simp [ClassMember.text, Ne.symm hplain.2.1]
  have hmark : '/' ∉ written.mark.toList := by
    intro hmem
    rcases h.mark '/' (Option.mem_toList.1 hmem) with hc | hc <;> cases hc
  simp only [body, List.mem_append, List.mem_flatMap, List.mem_singleton, not_or, not_exists,
    not_and]
  exact ⟨hmark, hmember, by decide⟩

/-- What a class takes, by the ranges of its members. -/
theorem takes_iff_inRanges (c : Char) : written.Takes c ↔
    (written.negated != Regex.inRanges (written.members.map ClassMember.ends) c) = true := by
  have hmembers : Regex.inRanges (written.members.map ClassMember.ends) c = true ↔
      ∃ member ∈ written.members, member.Takes c := inRanges_ends_iff
  rw [Takes]
  cases written.negated with
  | false => simp [hmembers]
  | true =>
    have hnone := hmembers.not
    simp only [Bool.not_eq_true, not_exists, not_and] at hnone
    simp [hnone]

end WrittenClass

/-- A class of a glob takes the characters of its members, or all others if it is negated. A glob
that is one class compiles, and a path of one character matches it exactly if the class takes the
character. As a class of a regular expression it ends where it ends in the glob, and holds the same
characters: no bracket, caret, sign of an operator or escaped character in it is read as anything
but a character. -/
theorem isMatch_class_iff_takes (written : WrittenClass) (h : written.WellFormed) :
    (∃ glob, CompiledGlob.compile (String.ofList written.text) = .ok glob ∧
      ∀ c : Char, glob.isMatch (String.singleton c) = true ↔ written.Takes c) ∧
    ∃ expression, classExpression written.body = .ok (expression, []) ∧
      ∀ (rest : List Char) (steps : Nat), expression.length < steps →
        ∃ chars, Regex.readClass steps .initial (expression ++ rest) = .ok (chars, rest) ∧
          ∀ c : Char, chars.value.holds c.toNat = true ↔ written.Takes c := by
  have hends : ∀ member ∈ written.members, member.ends.1 ≤ member.ends.2 := fun member hmem =>
    (h.fits member hmem).elim fun _ hfits => hfits.le
  have hitems : List.Forall₂ Regex.WritesItem (written.members.map ClassMember.ends)
      (written.members.map ClassMember.expression) := by
    rw [List.forall₂_map_left_iff, List.forall₂_map_right_iff, List.forall₂_same]
    exact fun member hmem => (h.fits member hmem).elim fun _ hfits => hfits.writesItem
  have hne : written.members ≠ [] := List.cons_ne_nil _ _
  have hcompile := compile_class h.readClass h.slash_not_mem_body
    (charSet_members written.negated hne hends)
  refine ⟨⟨⟨_, _⟩, compile_source_eq_ok_iff.2 ⟨_, by rwa [String.toList_ofList], rfl⟩, ?_⟩, ?_⟩
  · intro c
    rw [CompiledGlob.isMatch, Language.accepts_iff_matches, Language.matches_one_iff,
      WrittenClass.takes_iff_inRanges, ← contains_ranges]
    simp
  · refine ⟨_, h.classExpression, fun rest steps hsteps => ?_⟩
    have hcaret : written.negated = false →
        (written.members.map ClassMember.expression).flatten.head? ≠ some '^' := by
      rw [← List.flatMap_def]
      exact fun hnegated => h.head?_ne_caret (by simpa [WrittenClass.negated] using hnegated)
    have hlength : (written.members.map ClassMember.expression).flatten.length + 1 < steps := by
      rw [← List.flatMap_def]
      simp only [List.length_append, List.length_singleton] at hsteps
      omega
    obtain ⟨chars, hread, hholds⟩ := Regex.readClass_items hitems (by simpa using hne)
      written.negated hcaret hlength rest
    refine ⟨chars, ?_, fun c => ?_⟩
    · rw [← hread, List.flatMap_def]
      simp
    · rw [hholds, WrittenClass.takes_iff_inRanges]

/-- Characters that mean something in a class of a regular expression, in places where they would,
and a negated class that takes neither a letter of its range nor its caret. -/
theorem isMatch_class_signs :
    (WrittenClass.WellFormed ⟨none, .single ']', [.single '^', .single '[', .range 'a' 'c',
        .escaped '-', .single '&', .single '&', .escaped 'd', .single '~', .single '~']⟩ ∧
      ∃ glob, CompiledGlob.compile "[]^[a-c\\-&&\\d~~]" = .ok glob ∧ glob.isMatch "b" = true ∧
        glob.isMatch "&" = true ∧ glob.isMatch "0" = false) ∧
    WrittenClass.WellFormed ⟨some '!', .single '^', [.range 'a' 'c']⟩ ∧
      ∃ glob, CompiledGlob.compile "[!^a-c]" = .ok glob ∧ glob.isMatch "^" = false ∧
        glob.isMatch "b" = false ∧ glob.isMatch "d" = true := by
  have hsigns : WrittenClass.WellFormed ⟨none, .single ']', [.single '^', .single '[',
      .range 'a' 'c', .escaped '-', .single '&', .single '&', .escaped 'd', .single '~',
      .single '~']⟩ :=
    ⟨nofun, fun _ c hc => by cases hc; decide, by decide, by decide +kernel⟩
  have hnegated : WrittenClass.WellFormed ⟨some '!', .single '^', [.range 'a' 'c']⟩ :=
    ⟨fun c hc => by cases hc; decide, nofun, by decide, by decide +kernel⟩
  obtain ⟨⟨signs, hcompile, hmatch⟩, -⟩ := isMatch_class_iff_takes _ hsigns
  obtain ⟨⟨others, hothers, htakes⟩, -⟩ := isMatch_class_iff_takes _ hnegated
  refine ⟨⟨hsigns, signs, hcompile, (hmatch 'b').2 (by decide), (hmatch '&').2 (by decide), ?_⟩,
    hnegated, others, hothers, ?_, ?_, (htakes 'd').2 (by decide)⟩
  · exact Bool.eq_false_iff.2 fun h => absurd ((hmatch '0').1 h) (by decide)
  · exact Bool.eq_false_iff.2 fun h => absurd ((htakes '^').1 h) (by decide)
  · exact Bool.eq_false_iff.2 fun h => absurd ((htakes 'b').1 h) (by decide)

end RouteTable.Glob
