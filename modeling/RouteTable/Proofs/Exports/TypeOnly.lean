import RouteTable.Proofs.Exports.Enclosed
import RouteTable.Proofs.Exports.Specifiers

/-!
Statements that export types alone. The reader passes the head of such a statement without recording
a name, and the scan goes on over what is left of it as over any other tokens: no `export` stands
there outside of brackets, and the brackets are closed at the end. Between two modules it therefore
changes nothing, and the second one is scanned as if it were not there.
-/

namespace RouteTable.Exports

open Script

/-- Balanced tokens that do not have the word `export` outside of their brackets. -/
inductive ExportFree : List Token → Prop where
  | nil : ExportFree []
  | plain {token : Token} {rest : List Token} (hopener : token.isOpener = false)
      (hcloser : token.isCloser = false) (hexport : token.isName "export" = false)
      (h : ExportFree rest) : ExportFree (token :: rest)
  | group {opener closer : Token} {inner rest : List Token} (hopener : opener.isOpener = true)
      (hinner : Balanced inner) (hcloser : closer.isCloser = true) (h : ExportFree rest) :
      ExportFree (opener :: inner ++ closer :: rest)

/-- A token that can be the name of a type: any name but the word `export`. -/
def IsTypeName (token : Token) : Prop :=
  token.isAnyName = true ∧ token.isName "export" = false

inductive FromModule : List Token → Prop where
  | intro {word module : Token} (hword : word.isName "from" = true)
      (hmodule : module.kind = .string) : FromModule [word, module]

/-- A statement that exports types alone, by its tokens. What stands behind its head may be anything
that exports nothing. -/
inductive TypeOnly : List Token → Prop where
  /-- `export type N …` -/
  | typeAlias {start word name : Token} {rest : List Token} (hstart : start.isName "export" = true)
      (hword : word.isName "type" = true) (hname : IsTypeName name) (hrest : ExportFree rest) :
      TypeOnly (start :: word :: name :: rest)
  /-- `export interface N …` -/
  | interface {start word name : Token} {rest : List Token} (hstart : start.isName "export" = true)
      (hword : word.isName "interface" = true) (hname : IsTypeName name)
      (hrest : ExportFree rest) : TypeOnly (start :: word :: name :: rest)
  /-- `export declare …` -/
  | ambient {start word : Token} {rest : List Token} (hstart : start.isName "export" = true)
      (hword : word.isName "declare" = true) (hrest : ExportFree rest) :
      TypeOnly (start :: word :: rest)
  /-- `export const enum N …` -/
  | constEnum {start word enum name : Token} {rest : List Token}
      (hstart : start.isName "export" = true) (hword : word.isName "const" = true)
      (henum : enum.isName "enum" = true) (hname : IsTypeName name) (hrest : ExportFree rest) :
      TypeOnly (start :: word :: enum :: name :: rest)
  /-- `export import type N = …` -/
  | typeImport {start word modifier name equals : Token} {rest : List Token}
      (hstart : start.isName "export" = true) (hword : word.isName "import" = true)
      (hmodifier : modifier.isName "type" = true) (hname : IsTypeName name)
      (hequals : equals.isPunctuator "=" = true) (hrest : ExportFree rest) :
      TypeOnly (start :: word :: modifier :: name :: equals :: rest)
  /-- `export type` and a list, with or without `from` and a string -/
  | list {start word opener : Token} {specifiers : List Specifier} {listed origin : List Token}
      (hstart : start.isName "export" = true) (hword : word.isName "type" = true)
      (hopener : opener.isPunctuator "\x7b" = true) (hlist : Listed specifiers listed)
      (hread : ∀ specifier ∈ specifiers, specifier.isTypeAsAs = false)
      (horigin : origin = [] ∨ FromModule origin) :
      TypeOnly (start :: word :: opener :: (listed ++ origin))
  /-- `export type * from` and a string -/
  | all {start word star : Token} {origin : List Token} (hstart : start.isName "export" = true)
      (hword : word.isName "type" = true) (hstar : star.isPunctuator "*" = true)
      (horigin : FromModule origin) : TypeOnly (start :: word :: star :: origin)
  /-- `export type * as N from` and a string -/
  | allNamed {start word star as name : Token} {origin : List Token}
      (hstart : start.isName "export" = true) (hword : word.isName "type" = true)
      (hstar : star.isPunctuator "*" = true) (has : as.isName "as" = true)
      (hname : IsTypeName name) (horigin : FromModule origin) :
      TypeOnly (start :: word :: star :: as :: name :: origin)

section Passed

variable {tokens : List Token}

/-- Inside a bracket, balanced tokens are passed whatever they are. -/
theorem passedDepth_of_balanced (h : Balanced tokens) (depth : Nat) :
    passedDepth (depth + 1) (tokens.map Token.symbol) = some (depth + 1) := by
  induction h generalizing depth with
  | nil => rfl
  | @plain token rest hopener hcloser h ih =>
    have hdepth : depthAfter (depth + 1) (tokenOf token.symbol) = depth + 1 :=
      depthAfter_plain hopener hcloser (depth + 1)
    rw [List.map_cons, passedDepth, hdepth, if_neg (by simp)]
    exact ih depth
  | @group opener closer inner rest hopener hinner hcloser h ihInner ih =>
    have hopened : depthAfter (depth + 1) (tokenOf opener.symbol) = depth + 1 + 1 :=
      depthAfter_opener hopener (depth + 1)
    have hclosed : depthAfter (depth + 1 + 1) (tokenOf closer.symbol) = depth + 1 :=
      depthAfter_closer hcloser (depth + 1 + 1)
    rw [List.map_append, List.map_cons, List.cons_append, passedDepth, hopened, if_neg (by simp),
      passedDepth_append (ihInner (depth + 1)), List.map_cons, passedDepth, hclosed,
      if_neg (by simp)]
    exact ih depth

/-- Tokens without an `export` outside of their brackets are passed, and leave no bracket open. -/
theorem passedDepth_of_exportFree (h : ExportFree tokens) :
    passedDepth 0 (tokens.map Token.symbol) = some 0 := by
  induction h with
  | nil => rfl
  | @plain token rest hopener hcloser hexport h ih =>
    have hdepth : depthAfter 0 (tokenOf token.symbol) = 0 := depthAfter_plain hopener hcloser 0
    have hname : (tokenOf token.symbol).isName "export" = false := hexport
    rw [List.map_cons, passedDepth, hdepth, hname, if_neg (by simp)]
    exact ih
  | @group opener closer inner rest hopener hinner hcloser h ih =>
    have hopened : depthAfter 0 (tokenOf opener.symbol) = 0 + 1 := depthAfter_opener hopener 0
    have hclosed : depthAfter (0 + 1) (tokenOf closer.symbol) = 0 := depthAfter_closer hcloser 1
    have hname : (tokenOf closer.symbol).isName "export" = false := by
      simp only [Token.isCloser, Bool.and_eq_true, beq_iff_eq] at hcloser
      simp [tokenOf, Token.symbol, Token.isName, hcloser.1]
    rw [List.map_append, List.map_cons, List.cons_append, passedDepth, hopened, if_neg (by simp),
      passedDepth_append (passedDepth_of_balanced hinner 0), List.map_cons, passedDepth, hclosed,
      hname, if_neg (by simp)]
    exact ih

theorem ExportFree.name {token : Token} (hname : IsTypeName token) (h : ExportFree tokens) :
    ExportFree (token :: tokens) := by
  have hkind : token.kind ≠ .punctuator := by
    have hany : (token.kind == .name) = true := hname.1
    rw [beq_iff_eq.1 hany]
    decide
  obtain ⟨hopener, hcloser⟩ := notBracket_of_kind hkind
  exact .plain hopener hcloser hname.2 h

theorem FromModule.exportFree (h : FromModule tokens) : ExportFree tokens := by
  cases h with
  | @intro word module hword hmodule =>
    have hname : IsTypeName word := by
      simp only [Token.isName, Bool.and_eq_true, beq_iff_eq] at hword
      simp [IsTypeName, Token.isAnyName, Token.isName, hword]
    have hkind : module.kind ≠ .punctuator := by
      rw [hmodule]
      decide
    obtain ⟨hopener, hcloser⟩ := notBracket_of_kind hkind
    have hexport : module.isName "export" = false := by
      simp [Token.isName, hmodule]
    exact .name hname (.plain hopener hcloser hexport .nil)

end Passed

section Heads

variable {previous : Option Token} {word : Token} {rest : List Token}

/-- Behind the word `export`, another word decides how the statement is read. -/
theorem reads_readStatement {place last : Place} {text : String} {names : List String}
    (hname : place.isName text = true)
    (h : Reads (exportDeclaration text place (isAnyName_of_isName hname)) names last) :
    Reads (readStatement place) names last := by
  have hany := isAnyName_of_isName hname
  have hvalue := value_of_isName hname
  rw [readStatement, passDecorators_of_isAnyName hany]
  simp only [pure_bind, hany, dif_pos, hvalue, map_eq_pure_bind]
  exact h.bind_pure fun hlast => reads_pure _

/-- Behind `type`, `interface` and `declare` the statement is not read any further, unless a list of
types follows. -/
theorem reads_typeWord {text : String} (hword : word.isName text = true)
    (htext : text ∈ ["type", "interface", "declare"])
    (hlist : text = "type" → Place.isPunctuator ⟨some word, rest⟩ "\x7b" = false) :
    Reads (readStatement ⟨previous, word :: rest⟩) [] ⟨some word, rest⟩ := by
  have hplace : Place.isName ⟨previous, word :: rest⟩ text = true := hword
  apply reads_readStatement hplace
  simp only [List.mem_cons, List.not_mem_nil, or_false] at htext
  rcases htext with rfl | rfl | rfl
  · have hnext : Place.isPunctuator (Place.next ⟨previous, word :: rest⟩) "\x7b" = false :=
      hlist rfl
    simp only [exportDeclaration, hnext]
    exact reads_pure _
  · exact reads_pure _
  · exact reads_pure _

theorem reads_constEnum {enum : Token} (hword : word.isName "const" = true)
    (henum : enum.isName "enum" = true) :
    Reads (readStatement ⟨previous, word :: enum :: rest⟩) [] ⟨some enum, rest⟩ := by
  have hplace : Place.isName ⟨previous, word :: enum :: rest⟩ "const" = true := hword
  have hnext : Place.isName (Place.next ⟨previous, word :: enum :: rest⟩) "enum" = true := henum
  apply reads_readStatement hplace
  simp only [exportDeclaration, hnext]
  exact reads_pure _

theorem reads_typeImport {modifier name equals : Token} (hword : word.isName "import" = true)
    (hmodifier : modifier.isName "type" = true) (hname : name.isAnyName = true)
    (hequals : equals.isPunctuator "=" = true) :
    Reads (readStatement ⟨previous, word :: modifier :: name :: equals :: rest⟩) []
      ⟨some equals, rest⟩ := by
  have hplace :
      Place.isName ⟨previous, word :: modifier :: name :: equals :: rest⟩ "import" = true := hword
  have halias : Reads (importAlias ⟨some word, modifier :: name :: equals :: rest⟩) []
      ⟨some equals, rest⟩ := by
    refine ⟨Nat.lt_add_of_pos_right (by decide : 0 < 3), ?_⟩
    unfold importAlias
    extract_lets typeOnly start
    have htype : typeOnly = true := Bool.and_eq_true_iff.2 ⟨hmodifier, hname⟩
    have hstart : start.1 = ⟨some modifier, name :: equals :: rest⟩ := by
      unfold start
      rw [if_pos htype]
      rfl
    have hassign : start.1.next.isPunctuator "=" = true := by
      rw [hstart]
      exact hequals
    split
    · rename_i token hfirst
      rw [hstart] at hfirst
      cases hfirst
      rw [if_pos (by rw [hname, hassign]; rfl), if_neg (by simp [htype])]
      simp only [hstart]
      rfl
    · rename_i hnone
      rw [hstart] at hnone
      cases hnone
  apply reads_readStatement hplace
  simp only [exportDeclaration]
  exact halias.bind_pure fun hlast => reads_pure _

theorem reads_typeList {opener : Token} {specifiers : List Specifier} {listed origin : List Token}
    (hword : word.isName "type" = true) (hopener : opener.isPunctuator "\x7b" = true)
    (hlist : Listed specifiers listed)
    (hread : ∀ specifier ∈ specifiers, specifier.isTypeAsAs = false)
    (horigin : Origin origin rest) :
    Reads (readStatement ⟨previous, word :: opener :: (listed ++ (origin ++ rest))⟩) []
      ⟨lastOf (some opener) (listed ++ origin), rest⟩ := by
  have hplace : Place.isName ⟨previous, word :: opener :: (listed ++ (origin ++ rest))⟩ "type" =
      true := hword
  have hnext : (Place.next ⟨previous, word :: opener :: (listed ++ (origin ++ rest))⟩).isPunctuator
      "\x7b" = true := hopener
  have hclause : Reads (exportClause true ⟨some word, opener :: (listed ++ (origin ++ rest))⟩) []
      ⟨lastOf (some opener) (listed ++ origin), rest⟩ :=
    reads_exportClause hlist hread horigin (some word)
  apply reads_readStatement hplace
  simp only [exportDeclaration, hnext]
  exact hclause.bind_pure fun hlast => reads_pure _

end Heads

section Statement

variable {statement behind : List Token}

/-- The head of the statement is read without recording a name, and what is left of it can be passed
like any other tokens. -/
theorem TypeOnly.reads_head (h : TypeOnly statement) (hbehind : StartsWithSemicolon behind) :
    ∃ start head tail, statement = start :: (head ++ tail) ∧ start.isName "export" = true ∧
      ExportFree tail ∧ Reads (readStatement ⟨some start, head ++ (tail ++ behind)⟩) []
        ⟨lastOf (some start) head, tail ++ behind⟩ := by
  have hname {name : Token} (h : IsTypeName name) : name.isPunctuator "\x7b" = false := by
    have hkind : (name.kind == .name) = true := h.1
    simp [Token.isPunctuator, beq_iff_eq.1 hkind]
  have hmark {star : Token} (h : star.isPunctuator "*" = true) : star.isOpener = false ∧
      star.isCloser = false ∧ star.isName "export" = false := by
    obtain ⟨hkind, hvalue⟩ := kind_of_isPunctuator h
    simp [Token.isOpener, Token.isCloser, Token.isName, hkind, hvalue]
  cases h with
  | @typeAlias start word name rest hstart hword hrestName hrest =>
    exact ⟨start, [word], name :: rest, rfl, hstart, hrest.name hrestName,
      reads_typeWord hword (by simp) fun _ => hname hrestName⟩
  | @interface start word name rest hstart hword hrestName hrest =>
    exact ⟨start, [word], name :: rest, rfl, hstart, hrest.name hrestName,
      reads_typeWord hword (by simp) fun _ => hname hrestName⟩
  | @ambient start word rest hstart hword hrest =>
    exact ⟨start, [word], rest, rfl, hstart, hrest,
      reads_typeWord hword (by simp) fun heq => absurd heq (by decide)⟩
  | @constEnum start word enum name rest hstart hword henum hrestName hrest =>
    exact ⟨start, [word, enum], name :: rest, rfl, hstart, hrest.name hrestName,
      reads_constEnum hword henum⟩
  | @typeImport start word modifier name equals rest hstart hword hmodifier hrestName hequals
      hrest =>
    exact ⟨start, [word, modifier, name, equals], rest, rfl, hstart, hrest,
      reads_typeImport hword hmodifier hrestName.1 hequals⟩
  | @list start word opener specifiers listed origin hstart hword hopener hlist hread horigin =>
    have hbehindOrigin : Origin origin behind := by
      rcases horigin with rfl | ⟨hfrom, hmodule⟩
      · obtain ⟨semicolon, more, rfl, hsemicolon⟩ := hbehind
        exact .absent (by simp [Token.isName, (kind_of_isPunctuator hsemicolon).1])
      · exact .present hfrom hmodule
    refine ⟨start, word :: opener :: (listed ++ origin), [], by simp, hstart, .nil, ?_⟩
    have htokens : word :: opener :: (listed ++ origin) ++ ([] ++ behind) =
        word :: opener :: (listed ++ (origin ++ behind)) := by simp
    rw [htokens, lastOf_cons, lastOf_cons]
    exact reads_typeList hword hopener hlist hread hbehindOrigin
  | @all start word star origin hstart hword hstar horigin =>
    obtain ⟨hopener, hcloser, hexport⟩ := hmark hstar
    exact ⟨start, [word], star :: origin, rfl, hstart,
      .plain hopener hcloser hexport horigin.exportFree,
      reads_typeWord hword (by simp) fun _ => isPunctuator_eq_false hstar _ (by decide)⟩
  | @allNamed start word star as name origin hstart hword hstar has hrestName horigin =>
    obtain ⟨hopener, hcloser, hexport⟩ := hmark hstar
    have hasName : IsTypeName as := by
      simp only [Token.isName, Bool.and_eq_true, beq_iff_eq] at has
      simp [IsTypeName, Token.isAnyName, Token.isName, has]
    exact ⟨start, [word], star :: as :: name :: origin, rfl, hstart,
      .plain hopener hcloser hexport (.name hasName (.name hrestName horigin.exportFree)),
      reads_typeWord hword (by simp) fun _ => isPunctuator_eq_false hstar _ (by decide)⟩

/-- The scan of the statement comes to the semicolon behind it with no name recorded. -/
theorem TypeOnly.reaches (h : TypeOnly statement) (hbehind : StartsWithSemicolon behind) :
    ∃ previous, Reaches (statement ++ behind) [] 0 ⟨previous, behind⟩ := by
  obtain ⟨start, head, tail, rfl, hstart, htail, hlt, hread⟩ := h.reads_head hbehind
  have hall : start :: (head ++ tail) ++ behind = start :: (head ++ (tail ++ behind)) := by
    simp
  rw [hall]
  have hexport : startsExport (depthAfter 0 start) none start = true := by
    rw [depthAfter_of_isName hstart, startsExport, hstart]
    rfl
  have hstarts : Reaches (start :: (head ++ (tail ++ behind))) [] 0
      ⟨none, start :: (head ++ (tail ++ behind))⟩ := .start
  have hhead := hstarts.statement rfl hexport hread
  rw [depthAfter_of_isName hstart] at hhead
  exact ⟨_, reaches_passed hhead (passedDepth_of_exportFree htail)⟩

/-- With a statement that exports types alone in front, a module is scanned as if it stood alone. -/
theorem scan_typeOnly {semicolon : Token} {after : List Token} (h : TypeOnly statement)
    (hsemicolon : semicolon.isPunctuator ";" = true) :
    scan (statement ++ semicolon :: after) = scan after := by
  obtain ⟨previous, hreach⟩ := h.reaches ⟨semicolon, after, rfl, hsemicolon⟩
  rw [scan_of_reaches hreach, scanFrom_semicolon hsemicolon]
  exact Reporting.bind_ok _ _ _

end Statement

/-- A statement that exports types alone contributes nothing: between two modules with a semicolon
between them, it leaves the exports as they are, and their order. -/
theorem collect_insert_typeOnly {before after statement : List Token}
    {semicolon first second : Token} {recorded names : Bindings}
    (hsemicolon : semicolon.isPunctuator ";" = true) (hfirst : first.isPunctuator ";" = true)
    (hsecond : second.isPunctuator ";" = true) (hbalanced : Balanced before)
    (hclosed : AnnotationsClose before) (haccepted : (collect before).exports = .ok recorded)
    (hnames : (collect (before ++ semicolon :: after)).exports = .ok names)
    (h : TypeOnly statement) :
    (collect (before ++ first :: (statement ++ second :: after))).exports = .ok names := by
  obtain ⟨reports, hbefore, -⟩ := exports_collect_eq_ok_iff.1 haccepted
  have houtcome : (scan before).outcome = .ok () := by rw [hbefore]
  have hscan : scan (before ++ first :: (statement ++ second :: after)) =
      scan (before ++ semicolon :: after) := by
    rw [scan_append_semicolon hfirst hbalanced hclosed houtcome,
      scan_append_semicolon hsemicolon hbalanced hclosed houtcome, scan_typeOnly h hsecond]
  obtain ⟨all, hall, rfl⟩ := exports_collect_eq_ok_iff.1 hnames
  exact exports_collect_eq_ok_iff.2 ⟨all, hscan.trans hall, rfl⟩

def typeSpecifiers : List Specifier :=
  [.plain (lineToken .name 15 "z"),
    .renamed (lineToken .name 18 "default") (lineToken .name 26 "as") (lineToken .name 29 "b")]

def typeListed : List Token :=
  [lineToken .name 15 "z", lineToken .punctuator 16 ",", lineToken .name 18 "default",
    lineToken .name 26 "as", lineToken .name 29 "b", lineToken .punctuator 31 "\x7d"]

/-- `export type \x7b z, default as b \x7d from "m"` -/
def typeList : List Token :=
  lineToken .name 1 "export" :: lineToken .name 8 "type" :: lineToken .punctuator 13 "\x7b" ::
    (typeListed ++ [lineToken .name 33 "from", lineToken .string 38 "m"])

theorem typeOnly_typeList : TypeOnly typeList := by
  have hlisted : Listed typeSpecifiers typeListed :=
    .more (.plain (.inl rfl)) rfl (.last (.renamed (.inl rfl) rfl (.inl rfl)) rfl)
  exact .list rfl rfl rfl hlisted (by decide) (.inr (.intro rfl rfl))

/-- The types of the list are not among the exports of the modules around it. -/
theorem collect_insert_typeList :
    TypeOnly typeList ∧ Balanced typedConstant ∧ AnnotationsClose typedConstant ∧
      (collect (typedConstant ++ ⟨.punctuator, ";", ⟨1, 30⟩, false⟩ ::
        (typeList ++ ⟨.punctuator, ";", ⟨1, 30⟩, false⟩ :: exportedPair))).exports =
          .ok (.ofList ["a", "c", "a"]) := by
  refine ⟨typeOnly_typeList, balanced_typedConstant, annotationsClose_typedConstant, ?_⟩
  have hscan : scan (typedConstant ++ ⟨.punctuator, ";", ⟨1, 30⟩, false⟩ :: exportedPair) =
      ⟨["a", "c", "a"], .ok ()⟩ := by
    rw [scan_append_semicolon rfl balanced_typedConstant annotationsClose_typedConstant
      (by rw [scan_typedConstant]), scan_typedConstant, scan_exportedPair]
    rfl
  have hnames := exports_collect_eq_ok_iff.2 ⟨["a", "c", "a"], hscan, rfl⟩
  exact collect_insert_typeOnly rfl rfl rfl balanced_typedConstant annotationsClose_typedConstant
    exports_typedConstant hnames typeOnly_typeList

end RouteTable.Exports
