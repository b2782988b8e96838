import RouteTable.Proofs.Route.Outline
import RouteTable.Proofs.Script.Template

/-!
The module of a route table as written tokens. Each of its parts is a list of tokens with what is
written in front of them: their texts put together are the part's text, each of them is read for
itself, and their brackets nest.
-/

namespace RouteTable.TableRow

open Script Script.Written

def word (gap v : String) : Written := .plain .name gap v

def mark (gap v : String) : Written := .plain .punctuator gap v

def key (gap v : String) : Written :=
  if isPlainName v then word gap v else .literal gap.toList v

/-- The comment that names the deferred exports for the bundler. -/
def hint (names : List String) : List Char :=
  "/* webpackExports: [".toList ++ (", ".intercalate (names.map doubleQuoted)).toList ++
    "] */ ".toList

def pairPieces (joined : Written) : List (String × String) → List Written
  | [] => []
  | (name, shortened) :: rest =>
    [key " " name, joined, word " " shortened] ++
      rest.flatMap fun pair => [mark "" ",", key " " pair.1, joined, word " " pair.2]

def importPieces (gap : String) (row : TableRow) : List Written :=
  match row.plan.sync with
  | .whole shortened =>
    [word gap "import", mark " " "*", word " " "as", word " " shortened, word " " "from",
      .literal [' '] row.specifier, mark "" ";"]
  | .named [] => []
  | .named pairs =>
    [word gap "import", mark " " "\x7b"] ++ pairPieces (word " " "as") pairs ++
      [mark " " "\x7d", word " " "from", .literal [' '] row.specifier, mark "" ";"]

def syncPieces (row : TableRow) : List Written :=
  match row.plan.sync with
  | .whole shortened => [word " " shortened]
  | .named [] => [mark " " "\x7b", mark "" "\x7d"]
  | .named pairs => [mark " " "\x7b"] ++ pairPieces (mark "" ":") pairs ++ [mark " " "\x7d"]

def deferredPieces (row : TableRow) : List Written :=
  match row.plan.deferred with
  | [] =>
    [mark " " "(", mark "" ")", mark " " "=>", word " " "Promise", mark "" ".", word "" "resolve",
      mark "" "(", mark "" "\x7b", mark "" "\x7d", mark "" ")"]
  | names =>
    [mark " " "(", mark "" ")", mark " " "=>", word " " "import", mark "" "(",
      .literal (hint names) row.deferredSpecifier, mark "" ")"]

def entryPieces (row : TableRow) : List Written :=
  [mark "\n  " "\x7b", word "\n    " "path", mark "" ":", .literal [' '] row.pattern, mark "" ",",
      word "\n    " "sync", mark "" ":"] ++ row.syncPieces ++
    [mark "" ",", word "\n    " "async", mark "" ":"] ++ row.deferredPieces ++
      [mark "" ",", mark "\n  " "\x7d", mark "" ","]

def importsPieces (gap : String) : List TableRow → List Written
  | [] => []
  | row :: rest =>
    if row.plan.sync.isEmpty then importsPieces gap rest
    else row.importPieces gap ++ importsPieces "\n" rest

/-- The gap behind the imports of routes. -/
def gapBehind (rows : List TableRow) : String :=
  if rows.all (·.plan.sync.isEmpty) then "" else "\n\n"

def tablePieces (rows : List TableRow) : List Written :=
  rows.flatMap entryPieces ++ [mark (if rows.isEmpty then "" else "\n") "]"]

def modulePieces (rows : List TableRow) : List Written :=
  importsPieces "" rows ++
    ([word (gapBehind rows) "export", word " " "default", mark " " "["] ++
      (tablePieces rows ++ [mark "" ";"]))

def entry (row : TableRow) : Table.Entry :=
  ⟨Table.importStatement? (doubleQuoted row.specifier) row.plan.sync,
    Table.entryText row.pattern row.plan (doubleQuoted row.deferredSpecifier)⟩

section Text

theorem toList_intercalate_comma (first : String) (rest : List String) :
    (", ".intercalate (first :: rest)).toList =
      first.toList ++ rest.flatMap fun s => ',' :: ' ' :: s.toList := by
  induction rest generalizing first with
  | nil => simp
  | cons second rest ih =>
    rw [String.intercalate_cons_cons, String.toList_append, String.toList_append, ih]
    simp

theorem text_key (v : String) (rest : List Written) :
    text (key " " v :: rest) = ' ' :: ((nameOrQuoted v).toList ++ text rest) := by
  unfold key nameOrQuoted
  split <;> simp [word, plain, literal]

variable {joined : Written} {separator : String}

theorem text_pair (hjoined : joined.gap ++ (joined.lexeme ++ [' ']) = separator.toList)
    (v shortened : String) (rest : List Written) :
    text (key " " v :: joined :: word " " shortened :: rest) =
      ' ' :: ((nameOrQuoted v ++ separator ++ shortened).toList ++ text rest) := by
  have hword : text (word " " shortened :: rest) = ' ' :: (shortened.toList ++ text rest) := by
    simp [word, plain]
  have hseparator : joined.gap ++ (joined.lexeme ++ ' ' :: (shortened.toList ++ text rest)) =
      separator.toList ++ (shortened.toList ++ text rest) := by
    rw [← hjoined]
    simp
  rw [text_key, text_cons, hword, hseparator]
  simp

/-- The text of names with their aliases. -/
theorem text_pairPieces (hjoined : joined.gap ++ (joined.lexeme ++ [' ']) = separator.toList)
    (pair : String × String) (pairs : List (String × String)) :
    text (pairPieces joined (pair :: pairs)) =
      ' ' :: (Table.pairsText separator (pair :: pairs)).toList := by
  have hrest : text (pairs.flatMap fun pair =>
        [mark "" ",", key " " pair.1, joined, word " " pair.2]) =
      (pairs.map fun pair => nameOrQuoted pair.1 ++ separator ++ pair.2).flatMap
        fun s => ',' :: ' ' :: s.toList := by
    induction pairs with
    | nil => rfl
    | cons next pairs ih =>
      have hmark : text [mark "" ","] = [','] := rfl
      rw [List.flatMap_cons, text_append, ih]
      rw [← List.singleton_append, text_append, hmark, text_pair hjoined]
      simp
  rw [pairPieces, text_append, text_pair hjoined, hrest, Table.pairsText, List.map_cons,
    toList_intercalate_comma]
  simp

/-- The text of an import is its statement. -/
theorem text_importPieces {row : TableRow} {statement : String}
    (h : row.entry.statement? = some statement) (gap : String) :
    text (importPieces gap row) = gap.toList ++ statement.toList := by
  unfold entry Table.importStatement? at h
  unfold importPieces
  cases hsync : row.plan.sync with
  | whole shortened =>
    rw [hsync] at h
    cases h
    simp [word, mark, plain, literal]
  | named pairs =>
    rw [hsync] at h
    cases pairs with
    | nil => cases h
    | cons pair pairs =>
      cases h
      have hjoined : (word " " "as").gap ++ ((word " " "as").lexeme ++ [' ']) = " as ".toList := rfl
      have hpairs := text_pairPieces hjoined pair pairs
      simp only [text_append, hpairs]
      simp [word, mark, plain, literal]

theorem text_syncPieces (row : TableRow) :
    text (syncPieces row) = ' ' :: (Table.syncText row.plan.sync).toList := by
  unfold syncPieces Table.syncText
  cases hsync : row.plan.sync with
  | whole shortened => simp [word, plain]
  | named pairs =>
    cases pairs with
    | nil => rfl
    | cons pair pairs =>
      have hjoined : (mark "" ":").gap ++ ((mark "" ":").lexeme ++ [' ']) = ": ".toList := rfl
      have hpairs := text_pairPieces hjoined pair pairs
      simp only [text_append, hpairs]
      simp [mark, plain]

theorem text_deferredPieces (row : TableRow) : text (deferredPieces row) =
    ' ' :: (Table.deferredThunk (doubleQuoted row.deferredSpecifier) row.plan.deferred).toList := by
  unfold deferredPieces Table.deferredThunk hint
  cases hdeferred : row.plan.deferred with
  | nil => simp [word, mark, plain]
  | cons name names =>
    dsimp only
    generalize ", ".intercalate ((name :: names).map doubleQuoted) = listed
    simp [word, mark, plain, literal]

/-- The line end in front of an entry stands for the one at its end. -/
theorem text_entryPieces (row : TableRow) :
    text (entryPieces row) ++ ['\n'] = '\n' :: row.entry.entryText.toList := by
  unfold entry Table.entryText
  simp only [entryPieces, text_append, text_syncPieces, text_deferredPieces]
  simp [word, mark, plain, literal]

theorem text_entries (rows : List TableRow) :
    text (rows.flatMap entryPieces) ++ ['\n'] =
      '\n' :: rows.flatMap fun row => row.entry.entryText.toList := by
  induction rows with
  | nil => rfl
  | cons row rest ih =>
    rw [List.flatMap_cons, text_append, List.append_assoc, ih, List.flatMap_cons]
    rw [← List.singleton_append, ← List.append_assoc, text_entryPieces, List.cons_append]

def statements (rows : List TableRow) : String :=
  String.join (((rows.map entry).filterMap Table.Entry.statement?).map (· ++ "\n"))

theorem statement?_isNone (row : TableRow) :
    row.entry.statement? = none ↔ row.plan.sync.isEmpty = true := by
  unfold entry Table.importStatement? SyncPart.isEmpty
  rcases row.plan.sync with shortened | (_ | ⟨pair, pairs⟩) <;> simp

theorem exists_statement {row : TableRow} (h : row.plan.sync.isEmpty = false) :
    ∃ statement, row.entry.statement? = some statement := by
  rw [← Option.isSome_iff_exists, Option.isSome_iff_ne_none]
  intro hnone
  rw [(statement?_isNone row).1 hnone] at h
  cases h

theorem statements_cons_of_isEmpty {row : TableRow} (h : row.plan.sync.isEmpty = true)
    (rest : List TableRow) : statements (row :: rest) = statements rest := by
  have hnone := (statement?_isNone row).2 h
  simp only [statements, List.map_cons, List.filterMap_cons, hnone]

theorem statements_cons_of_some {row : TableRow} {statement : String}
    (h : row.entry.statement? = some statement) (rest : List TableRow) :
    statements (row :: rest) = statement ++ "\n" ++ statements rest := by
  simp only [statements, List.map_cons, List.filterMap_cons, h, String.join_cons]

/-- Behind a gap, the imports are the statements, up to the last line end. -/
theorem text_importsPieces (gap : String) (rows : List TableRow) :
    text (importsPieces gap rows) ++
        (if rows.all (·.plan.sync.isEmpty) then gap else "\n").toList =
      gap.toList ++ (statements rows).toList := by
  induction rows generalizing gap with
  | nil =>
    have hempty : (statements []).toList = [] := rfl
    simp [importsPieces, hempty]
  | cons row rest ih =>
    cases hsync : row.plan.sync.isEmpty with
    | true =>
      simp only [importsPieces, hsync, if_true, List.all_cons, Bool.true_and,
        statements_cons_of_isEmpty hsync]
      exact ih gap
    | false =>
      obtain ⟨statement, hstatement⟩ := exists_statement hsync
      have hrest := ih "\n"
      rw [ite_self] at hrest
      simp only [importsPieces, hsync, if_false, List.all_cons, Bool.false_and,
        Bool.false_eq_true, statements_cons_of_some hstatement, text_append,
        text_importPieces hstatement, String.toList_append, List.append_assoc, hrest]

theorem isEmpty_statements (rows : List TableRow) :
    (statements rows).isEmpty = rows.all (·.plan.sync.isEmpty) := by
  induction rows with
  | nil => rfl
  | cons row rest ih =>
    cases hsync : row.plan.sync.isEmpty with
    | true => rw [statements_cons_of_isEmpty hsync, ih, List.all_cons, hsync, Bool.true_and]
    | false =>
      obtain ⟨statement, hstatement⟩ := exists_statement hsync
      rw [statements_cons_of_some hstatement, List.all_cons, hsync, Bool.false_and]
      simp [String.isEmpty_eq_false_iff]

/-- What stands in front of the table: the imports and an empty line, if there are any. -/
theorem text_imports_gapBehind (rows : List TableRow) :
    text (importsPieces "" rows) ++ (gapBehind rows).toList =
      (if (statements rows).isEmpty then "" else statements rows ++ "\n").toList := by
  have himports := text_importsPieces "" rows
  rw [isEmpty_statements, gapBehind]
  cases hall : rows.all (·.plan.sync.isEmpty) with
  | true =>
    have hempty : (statements rows).toList = [] := by
      have h := isEmpty_statements rows
      rw [hall, String.isEmpty_iff] at h
      rw [h]
      rfl
    simp only [hall, if_true, hempty] at himports ⊢
    exact himports
  | false =>
    have hlines : "\n\n".toList = "\n".toList ++ "\n".toList := rfl
    simp only [hall, Bool.false_eq_true, if_false] at himports ⊢
    rw [hlines, ← List.append_assoc, himports, String.toList_append]
    rfl

/-- The table between its brackets. -/
theorem text_tablePieces (rows : List TableRow) :
    text (tablePieces rows) =
      (if rows.isEmpty then "]"
        else "\n" ++ String.join (rows.map fun row => row.entry.entryText) ++ "]").toList := by
  cases rows with
  | nil => rfl
  | cons row rest =>
    have hentries := text_entries (row :: rest)
    have hclose : text [mark "\n" "]"] = ['\n'] ++ [']'] := rfl
    rw [tablePieces, List.isEmpty_cons, if_neg Bool.false_ne_true, if_neg Bool.false_ne_true,
      text_append, hclose, ← List.append_assoc, hentries]
    simp [List.flatMap_map]

/-- The text of the module's tokens, with the line end behind them, is that of the module. -/
theorem text_modulePieces (rows : List TableRow) :
    text (modulePieces rows) ++ ['\n'] = (Table.moduleText (rows.map entry)).toList := by
  have hstatements : String.join (((rows.map entry).filterMap Table.Entry.statement?).map
      (· ++ "\n")) = statements rows := rfl
  have hopening : text [word (gapBehind rows) "export", word " " "default", mark " " "["] =
      (gapBehind rows).toList ++ "export default [".toList := by
    simp [word, mark, plain]
  have hclosing : text [mark "" ";"] = [';'] := rfl
  rw [modulePieces, text_append, text_append, text_append, hopening, hclosing, text_tablePieces,
    List.append_assoc (gapBehind rows).toList, ← List.append_assoc, text_imports_gapBehind]
  simp only [Table.moduleText, hstatements]
  generalize (if (statements rows).isEmpty then "" else statements rows ++ "\n") = front
  cases rows with
  | nil => simp
  | cons row rest =>
    have hentries : ((row :: rest).map entry).map Table.Entry.entryText =
        (row :: rest).map fun row => row.entry.entryText := by
      rw [List.map_map]
      rfl
    have hcons : ((row :: rest).map entry).isEmpty = false := rfl
    rw [hentries, hcons, List.isEmpty_cons]
    simp only [Bool.false_eq_true, if_false]
    generalize String.join ((row :: rest).map fun row => row.entry.entryText) = entries
    simp

end Text

section Symbols

@[simp] theorem symbol_word (gap v : String) : symbol (word gap v) = .name v :=
  rfl

@[simp] theorem symbol_mark (gap v : String) : symbol (mark gap v) = .mark v :=
  rfl

@[simp] theorem symbol_literal (gap : List Char) (v : String) :
    symbol (.literal gap v) = .text v :=
  rfl

@[simp] theorem symbol_key (gap v : String) : symbol (key gap v) = .key v := by
  unfold key Symbol.key
  split <;> rfl

theorem symbols_pairPieces (joined : Written) (pairs : List (String × String)) :
    (pairPieces joined pairs).map symbol = pairSymbols (symbol joined) pairs := by
  cases pairs with
  | nil => rfl
  | cons pair pairs => simp [pairPieces, pairSymbols, List.map_flatMap]

theorem symbols_importPieces (gap : String) (row : TableRow) :
    (importPieces gap row).map symbol = row.importSymbols := by
  unfold importPieces importSymbols
  rcases row.plan.sync with shortened | (_ | ⟨pair, pairs⟩)
  · rfl
  · rfl
  · simp only [List.map_append, symbols_pairPieces]
    rfl

theorem importSymbols_of_isEmpty {row : TableRow} (h : row.plan.sync.isEmpty = true) :
    row.importSymbols = [] := by
  unfold importSymbols
  unfold SyncPart.isEmpty at h
  rcases hsync : row.plan.sync with shortened | (_ | ⟨pair, pairs⟩)
  · rw [hsync] at h
    cases h
  · rfl
  · rw [hsync] at h
    cases h

theorem symbols_importsPieces (gap : String) (rows : List TableRow) :
    (importsPieces gap rows).map symbol = rows.flatMap importSymbols := by
  induction rows generalizing gap with
  | nil => rfl
  | cons row rest ih =>
    rw [importsPieces, List.flatMap_cons]
    split
    · rename_i hsync
      rw [importSymbols_of_isEmpty hsync, List.nil_append]
      exact ih gap
    · rw [List.map_append, symbols_importPieces, ih]

theorem symbols_syncPieces (row : TableRow) :
    (syncPieces row).map symbol = row.syncSymbols := by
  unfold syncPieces syncSymbols
  rcases row.plan.sync with shortened | (_ | ⟨pair, pairs⟩)
  · rfl
  · rfl
  · simp only [List.map_append, symbols_pairPieces]
    rfl

theorem symbols_deferredPieces (row : TableRow) :
    (deferredPieces row).map symbol = row.deferredSymbols := by
  unfold deferredPieces deferredSymbols
  rcases row.plan.deferred with _ | ⟨name, names⟩
  · rfl
  · rfl

theorem symbols_entryPieces (row : TableRow) :
    (entryPieces row).map symbol = row.entrySymbols := by
  simp only [entryPieces, List.map_append, symbols_syncPieces, symbols_deferredPieces]
  rfl

/-- The tokens are those of the outline. -/
theorem symbols_modulePieces (rows : List TableRow) :
    (modulePieces rows).map symbol = moduleSymbols rows := by
  have hentries : (rows.flatMap entryPieces).map symbol = rows.flatMap entrySymbols := by
    rw [List.map_flatMap]
    exact congrArg (rows.flatMap ·) (funext symbols_entryPieces)
  simp only [modulePieces, tablePieces, List.map_append, symbols_importsPieces, hentries,
    moduleSymbols, List.append_assoc]
  rfl

end Symbols

end RouteTable.TableRow
