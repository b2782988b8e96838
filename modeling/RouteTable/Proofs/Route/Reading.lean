import RouteTable.Proofs.Route.Pieces
import RouteTable.Proofs.Script.Comments

/-!
The written tokens of a route table's module are read for themselves, and their brackets nest. What
this rests on is that quoted texts have no line end that breaks them, that aliases are plain names,
and that no deferred name ends the comment that it is listed in.
-/

namespace RouteTable.TableRow

open Script Script.Written

/-- What the parts of a row have to be for its tokens to be read back. -/
structure Sound (row : TableRow) : Prop where
  specifier : row.specifier.toList.any breaksLiteral = false
  deferredSpecifier : row.deferredSpecifier.toList.any breaksLiteral = false
  pattern : row.pattern.toList.any breaksLiteral = false
  aliases : ∀ shortened ∈ row.plan.sync.aliases, isPlainName shortened = true
  names : ∀ name ∈ row.plan.sync.names, name.toList.any breaksLiteral = false
  deferred : ∀ name ∈ row.plan.deferred, ¬ EndsComment name.toList

/-- The name of a whole module is a plain one. -/
theorem Sound.isPlainName_whole {row : TableRow} (h : Sound row) {shortened : String}
    (hsync : row.plan.sync = .whole shortened) : isPlainName shortened = true := by
  apply h.aliases
  rw [hsync]
  exact List.mem_singleton_self _

theorem endsComment_of_listed {names : List String}
    (hnames : ∀ name ∈ names, ¬ EndsComment name.toList) {t : List Char}
    (h : EndsComment (((names.map doubleQuoted).flatMap fun s => ',' :: ' ' :: s.toList) ++ t)) :
    EndsComment t := by
  induction names with
  | nil => exact h
  | cons name names ih =>
    have hcomma {t : List Char} : EndsComment (',' :: ' ' :: t) → EndsComment t :=
      endsComment_of_append (s := [',', ' ']) (by decide)
    rw [List.map_cons, List.flatMap_cons, List.append_assoc] at h
    rw [List.cons_append, List.cons_append] at h
    rcases endsComment_of_doubleQuoted_append (hcomma h) with hname | hrest
    · exact absurd hname (hnames name List.mem_cons_self)
    · exact ih (fun other hother => hnames other (List.mem_cons_of_mem name hother)) hrest

/-- What the comment for the bundler says, up to the end that it is written with. -/
def hintBody (names : List String) : List Char :=
  " webpackExports: [".toList ++
    ((", ".intercalate (names.map doubleQuoted)).toList ++ "] ".toList)

theorem hint_eq (names : List String) :
    hint names = '/' :: '*' :: (hintBody names ++ '*' :: '/' :: [' ']) := by
  have hopens : "/* webpackExports: [".toList = '/' :: '*' :: " webpackExports: [".toList := by
    decide
  have hcloses : "] */ ".toList = "] ".toList ++ '*' :: '/' :: [' '] := by
    decide
  unfold hint hintBody
  generalize (", ".intercalate (names.map doubleQuoted)).toList = listed
  rw [hopens, hcloses]
  simp only [List.cons_append, List.append_assoc]

/-- Names that do not end the comment themselves leave that to its own end. -/
theorem not_endsComment_hintBody {names : List String}
    (hnames : ∀ name ∈ names, ¬ EndsComment name.toList) : ¬ EndsComment (hintBody names) := by
  have hlisted : ∀ t, EndsComment ((", ".intercalate (names.map doubleQuoted)).toList ++ t) →
      EndsComment t := by
    intro t h
    cases names with
    | nil => exact h
    | cons name names =>
      rw [List.map_cons, toList_intercalate_comma, List.append_assoc] at h
      rcases endsComment_of_doubleQuoted_append h with hname | hrest
      · exact absurd hname (hnames name List.mem_cons_self)
      · exact endsComment_of_listed
          (fun other hother => hnames other (List.mem_cons_of_mem name hother)) hrest
  have hword : " webpackExports: [".toList.all isInert = true := by decide
  have hbracket : "] ".toList.all isInert = true := by decide
  intro h
  have hend := hlisted _ (endsComment_of_append hword h)
  rw [← List.append_nil "] ".toList] at hend
  exact not_endsComment_nil (endsComment_of_append hbracket hend)

/-- The comment for the bundler is passed, unless a name in it ends it. -/
theorem gapRead_hint {names : List String} (hnames : ∀ name ∈ names, ¬ EndsComment name.toList)
    {rest : List Char} (hrest : settled rest = true) : GapRead (hint names) rest := by
  rw [hint_eq]
  exact gapRead_comment (not_endsComment_hintBody hnames) rfl hrest

section Parts

variable {rest : List Char} {others : List Written} {row : TableRow}

theorem readable_key {v : String} (hothers : Readable rest others)
    (hv : v.toList.any breaksLiteral = false) (hends : endsName (text others ++ rest) = true) :
    Readable rest (key " " v :: others) := by
  unfold key
  split
  · rename_i hname
    exact hothers.name hname rfl hends
  · exact hothers.literal (gapRead_spaces rfl (settled_literal _ _)) hv

/-- A token between names and their aliases: names end in front of it, and it is read for itself in
front of an alias. -/
structure Joins (joined : Written) : Prop where
  ends : ∀ s, endsName (joined.gap ++ (joined.lexeme ++ s)) = true
  readable : ∀ {rest v others}, Readable rest (word " " v :: others) →
    Readable rest (joined :: word " " v :: others)

theorem joins_as : Joins (word " " "as") where
  ends _ := rfl
  readable h := h.name (by decide) rfl rfl

theorem joins_colon : Joins (mark "" ":") where
  ends _ := rfl
  readable h := h.mark rfl (by decide) rfl

theorem readable_pair {joined : Written} (hjoins : Joins joined) {v shortened : String}
    (hv : v.toList.any breaksLiteral = false) (hshortened : isPlainName shortened = true)
    (hothers : Readable rest others) (hends : endsName (text others ++ rest) = true) :
    Readable rest (key " " v :: joined :: word " " shortened :: others) := by
  have hword : Readable rest (word " " shortened :: others) :=
    hothers.name hshortened rfl hends
  apply readable_key (hjoins.readable hword) hv
  rw [text_cons, List.append_assoc, List.append_assoc]
  exact hjoins.ends _

/-- Names with their aliases are read up to a text that no name goes on in. -/
theorem readable_pairPieces {joined : Written} (hjoins : Joins joined)
    {pairs : List (String × String)}
    (hnames : ∀ name ∈ pairs.map Prod.fst, name.toList.any breaksLiteral = false)
    (haliases : ∀ shortened ∈ pairs.map Prod.snd, isPlainName shortened = true)
    (hothers : Readable rest others) (hends : endsName (text others ++ rest) = true) :
    Readable rest (pairPieces joined pairs ++ others) := by
  cases pairs with
  | nil => exact hothers
  | cons pair pairs =>
    obtain ⟨first, shortened⟩ := pair
    simp only [List.map_cons, List.forall_mem_cons] at hnames haliases
    -- behind the first pair, either a comma or the text behind the pairs ends its alias
    have htail : Readable rest ((pairs.flatMap fun pair =>
          [mark "" ",", key " " pair.1, joined, word " " pair.2]) ++ others) ∧
        endsName (text ((pairs.flatMap fun pair =>
          [mark "" ",", key " " pair.1, joined, word " " pair.2]) ++ others) ++ rest) = true := by
      obtain ⟨-, hnames⟩ := hnames
      obtain ⟨-, haliases⟩ := haliases
      induction pairs with
      | nil => exact ⟨hothers, hends⟩
      | cons pair pairs ih =>
        simp only [List.map_cons, List.forall_mem_cons] at hnames haliases
        obtain ⟨hrest, hrestEnds⟩ := ih hnames.2 haliases.2
        have hpair := readable_pair hjoins hnames.1 haliases.1 hrest hrestEnds
        exact ⟨hpair.mark rfl (by decide) rfl, rfl⟩
    exact readable_pair hjoins hnames.1 haliases.1 htail.1 htail.2

theorem readable_importPieces (h : Sound row) {gap : String}
    (hgap : gap.toList.all isSpacing = true) (hothers : Readable rest others) :
    Readable rest (importPieces gap row ++ others) := by
  have haliases := h.aliases
  have hnames := h.names
  have hspecifier : ∀ {s}, GapRead [' '] ((doubleQuoted row.specifier).toList ++ s) :=
    gapRead_spaces rfl (settled_literal _ _)
  unfold importPieces
  rcases hsync : row.plan.sync with shortened | (_ | ⟨pair, pairs⟩)
  · have hshortened := h.isPlainName_whole hsync
    apply Readable.name _ (by decide) hgap rfl
    apply Readable.punctuator _ rfl rfl rfl rfl rfl
    apply Readable.name _ (by decide) rfl rfl
    apply Readable.name _ hshortened rfl rfl
    apply Readable.name _ (by decide) rfl rfl
    apply Readable.literal _ hspecifier h.specifier
    exact hothers.mark rfl (by decide) rfl
  · exact hothers
  · rw [hsync] at haliases hnames
    have hclose : Readable rest ([mark " " "\x7d", word " " "from",
        .literal [' '] row.specifier, mark "" ";"] ++ others) := by
      apply Readable.mark _ rfl (by decide) rfl
      apply Readable.name _ (by decide) rfl rfl
      apply Readable.literal _ hspecifier h.specifier
      exact hothers.mark rfl (by decide) rfl
    have hpairs := readable_pairPieces joins_as hnames haliases hclose rfl
    rw [List.append_assoc, List.append_assoc]
    apply Readable.name _ (by decide) hgap rfl
    exact hpairs.mark rfl (by decide) rfl

theorem readable_importsPieces {rows : List TableRow} (h : ∀ row ∈ rows, Sound row)
    {gap : String} (hgap : gap.toList.all isSpacing = true) (hothers : Readable rest others) :
    Readable rest (importsPieces gap rows ++ others) := by
  induction rows generalizing gap with
  | nil => exact hothers
  | cons row rows ih =>
    have hrows : ∀ row ∈ rows, Sound row := fun row hrow => h row (List.mem_cons_of_mem _ hrow)
    unfold importsPieces
    split
    · exact ih hrows hgap
    · rw [List.append_assoc]
      exact readable_importPieces (h row List.mem_cons_self) hgap (ih hrows rfl)

theorem readable_syncPieces (h : Sound row) (hothers : Readable rest others)
    (hends : endsName (text others ++ rest) = true) :
    Readable rest (syncPieces row ++ others) := by
  have haliases := h.aliases
  have hnames := h.names
  unfold syncPieces
  rcases hsync : row.plan.sync with shortened | (_ | ⟨pair, pairs⟩)
  · exact hothers.name (h.isPlainName_whole hsync) rfl hends
  · apply Readable.mark _ rfl (by decide) rfl
    exact hothers.mark rfl (by decide) rfl
  · rw [hsync] at haliases hnames
    have hclose : Readable rest ([mark " " "\x7d"] ++ others) :=
      hothers.mark rfl (by decide) rfl
    have hpairs := readable_pairPieces joins_colon hnames haliases hclose rfl
    rw [List.append_assoc, List.append_assoc]
    exact hpairs.mark rfl (by decide) rfl

/-- The tokens of a function that loads deferred exports, behind a gap. -/
def loadPieces (gap : String) (names : List String) (specifier : String) : List Written :=
  [mark gap "(", mark "" ")", mark " " "=>", word " " "import", mark "" "(",
    .literal (hint names) specifier, mark "" ")"]

theorem readable_loadPieces {names : List String} {specifier : String}
    (hnames : ∀ name ∈ names, ¬ EndsComment name.toList)
    (hspecifier : specifier.toList.any breaksLiteral = false) {gap : String}
    (hgap : gap.toList.all isSpacing = true) (hothers : Readable rest others) :
    Readable rest (loadPieces gap names specifier ++ others) := by
  have hhint : ∀ {s}, GapRead (hint names) ((doubleQuoted specifier).toList ++ s) :=
    gapRead_hint hnames (settled_literal _ _)
  apply Readable.mark _ rfl (by decide) hgap
  apply Readable.mark _ rfl (by decide) rfl
  apply Readable.punctuator _ rfl rfl rfl rfl rfl
  apply Readable.name _ (by decide) rfl rfl
  apply Readable.mark _ rfl (by decide) rfl
  apply Readable.literal _ hhint hspecifier
  exact hothers.mark rfl (by decide) rfl

theorem readable_deferredPieces (h : Sound row) (hothers : Readable rest others) :
    Readable rest (deferredPieces row ++ others) := by
  have hdeferred := h.deferred
  unfold deferredPieces
  rcases hnames : row.plan.deferred with _ | ⟨name, names⟩
  · apply Readable.mark _ rfl (by decide) rfl
    apply Readable.mark _ rfl (by decide) rfl
    apply Readable.punctuator _ rfl rfl rfl rfl rfl
    apply Readable.name _ (by decide) rfl rfl
    apply Readable.punctuator _ rfl rfl rfl rfl rfl
    apply Readable.name _ (by decide) rfl rfl
    apply Readable.mark _ rfl (by decide) rfl
    apply Readable.mark _ rfl (by decide) rfl
    apply Readable.mark _ rfl (by decide) rfl
    exact hothers.mark rfl (by decide) rfl
  · rw [hnames] at hdeferred
    exact readable_loadPieces hdeferred h.deferredSpecifier rfl hothers

theorem readable_entryPieces (h : Sound row) (hothers : Readable rest others) :
    Readable rest (entryPieces row ++ others) := by
  have hclose : Readable rest ([mark "" ",", mark "\n  " "\x7d", mark "" ","] ++ others) := by
    apply Readable.mark _ rfl (by decide) rfl
    apply Readable.mark _ rfl (by decide) rfl
    exact hothers.mark rfl (by decide) rfl
  have hdeferred := readable_deferredPieces h hclose
  have hmiddle : Readable rest ([mark "" ",", word "\n    " "async", mark "" ":"] ++
      (deferredPieces row ++ ([mark "" ",", mark "\n  " "\x7d", mark "" ","] ++ others))) := by
    apply Readable.mark _ rfl (by decide) rfl
    apply Readable.name _ (by decide) rfl rfl
    exact hdeferred.mark rfl (by decide) rfl
  have hsync := readable_syncPieces h hmiddle rfl
  simp only [entryPieces, List.append_assoc] at hsync ⊢
  apply Readable.mark _ rfl (by decide) rfl
  apply Readable.name _ (by decide) rfl rfl
  apply Readable.mark _ rfl (by decide) rfl
  apply Readable.literal _ (gapRead_spaces rfl (settled_literal _ _)) h.pattern
  apply Readable.mark _ rfl (by decide) rfl
  apply Readable.name _ (by decide) rfl rfl
  exact hsync.mark rfl (by decide) rfl

theorem readable_entries {rows : List TableRow} (h : ∀ row ∈ rows, Sound row)
    (hothers : Readable rest others) : Readable rest (rows.flatMap entryPieces ++ others) := by
  induction rows with
  | nil => exact hothers
  | cons row rows ih =>
    have hrows : ∀ row ∈ rows, Sound row := fun row hrow => h row (List.mem_cons_of_mem _ hrow)
    rw [List.flatMap_cons, List.append_assoc]
    exact readable_entryPieces (h row List.mem_cons_self) (ih hrows)

/-- Every token of the module is read for itself. -/
theorem readable_modulePieces {rows : List TableRow} (h : ∀ row ∈ rows, Sound row) :
    Readable rest (modulePieces rows) := by
  have hbracket : (if rows.isEmpty then "" else "\n").toList.all isSpacing = true := by
    split <;> rfl
  have hgap : (gapBehind rows).toList.all isSpacing = true := by
    unfold gapBehind
    split <;> rfl
  have hclose : Readable rest
      ([mark (if rows.isEmpty then "" else "\n") "]"] ++ [mark "" ";"]) := by
    apply Readable.mark _ rfl (by decide) hbracket
    exact (readable_nil rest).mark rfl (by decide) rfl
  have hentries := readable_entries h hclose
  rw [modulePieces, tablePieces, List.append_assoc (rows.flatMap entryPieces)]
  apply readable_importsPieces h rfl
  apply Readable.name _ (by decide) hgap rfl
  apply Readable.name _ (by decide) rfl rfl
  exact hentries.mark rfl (by decide) rfl

end Parts

end RouteTable.TableRow
