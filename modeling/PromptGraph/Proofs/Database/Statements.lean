import PromptGraph.Database.Store
import PromptGraph.Proofs.Effect.Asked
import PromptGraph.Proofs.Text.Segments

/-!
# `Proofs.Database.Statements` — what configuration and data have to do with a statement

The text of a statement is fixed around the quoted name of its table. Schema and prefix stand between the quotes and
have none of their own, and data stand in no part of it: each datum has a placeholder. So neither can change what a
statement does.

## Contents
- **Placeholders.** `placeholders`, `TakesParameters`.
- **Quotes.** `outsideQuotes`, `quotedNames`.
- **Configuration.** `IsPlainName`, `make_eq_ok`.
- **Statements.** `IsTemplate`, a text around the name of a table; `exists_template`, and `IsTemplate.splitOn`.
- **Execution.** `ExecutesOnly`; `asks_store`.
- **Safety.** `IsFixed`, and `statement_is_fixed`.
-/

namespace PromptGraph

open Act

/-! ## Placeholders -/

/-- The placeholders of a text: a percent sign with the letter s behind it. -/
def placeholders : List Char → Nat
  | [] => 0
  | c :: rest => (if c = '%' ∧ rest.head? = some 's' then 1 else 0) + placeholders rest

/-- A text takes so many parameters: it has so many placeholders and no other percent sign. -/
def TakesParameters (cs : List Char) (parameters : Nat) : Prop := placeholders cs = parameters ∧ cs.count '%' = parameters

instance (cs : List Char) (parameters : Nat) : Decidable (TakesParameters cs parameters) :=
  inferInstanceAs (Decidable (_ ∧ _))

/-- What has no percent sign adds no placeholder to the text behind it. -/
theorem TakesParameters.append {as bs : List Char} {n : Nat} (has : '%' ∉ as) (hbs : TakesParameters bs n) :
    TakesParameters (as ++ bs) n := by
  induction as with
  | nil => exact hbs
  | cons a as ih =>
      obtain ⟨ha, has⟩ := not_or.mp (mt List.mem_cons.mpr has)
      obtain ⟨hplaceholders, hpercents⟩ := ih has
      simpa [TakesParameters, placeholders, Ne.symm ha] using And.intro hplaceholders hpercents

/-! ## Quotes -/

/-- The first entry of a list, the third, and so on. -/
def everySecond {α : Type} : List α → List α
  | a :: _ :: rest => a :: everySecond rest
  | [a] => [a]
  | [] => []

/-- The pieces of a text outside of double quotes. -/
def outsideQuotes (text : String) : List String := everySecond (text.splitOn "\"")

/-- The pieces of a text between double quotes. -/
def quotedNames (text : String) : List String := everySecond (text.splitOn "\"").tail

/-! ## Configuration -/

/-- A name of letters, digits and underscores. -/
def IsPlainName (name : String) : Prop := name ≠ "" ∧ ∀ c ∈ name.toList, c.isAlphanum = true ∨ c = '_'

theorem isNameChar_iff {c : Char} : isNameChar c = true ↔ c.isAlphanum = true ∨ c = '_' := by
  simp [isNameChar]

theorem all_isNameChar_iff {name : String} :
    name.toList.all isNameChar = true ↔ ∀ c ∈ name.toList, c.isAlphanum = true ∨ c = '_' := by
  simp only [List.all_eq_true, isNameChar_iff]

/-- What no name has, no plain text has. -/
theorem not_mem_of_all_isNameChar {c : Char} (hc : isNameChar c = false) {name : String}
    (hname : name.toList.all isNameChar = true) : c ∉ name.toList := by
  intro hmem
  have hplain := List.all_eq_true.mp hname c hmem
  rw [hc] at hplain
  cases hplain

namespace Database

/-- A database has the names that it is made with, and the default schema where none is given. -/
theorem make_eq_ok {dsn : String} {schema : Option String} {tablePrefix : String} {d : Database}
    (h : make dsn schema tablePrefix = .ok d) :
    d.schema = (schema.filter (· ≠ "")).getD defaultSchema ∧ d.tablePrefix = tablePrefix := by
  unfold make at h
  dsimp only at h
  split at h
  · cases h
  · split at h
    · split at h
      · cases h
        exact ⟨rfl, rfl⟩
      · cases h
    · cases h

/-! ## Statements -/

/-- A text that is the same for every database around the quoted name of a table. There are no other quotes in it, and
    it takes so many parameters, all of them behind the name. -/
inductive IsTemplate (text : Database → String) (table : String) (parameters : Nat) : Prop where
  | around (before : String) (after : List String) (fills : ∀ d, text d = after.foldl (· ++ ·) (before ++ d.table table))
      (plain : table ≠ "" ∧ table.toList.all isNameChar = true)
      (unquoted : '"' ∉ before.toList ∧ '"' ∉ after.flatMap String.toList)
      (literal : '\'' ∉ before.toList ∧ '\'' ∉ after.flatMap String.toList)
      (constant : '%' ∉ before.toList)
      (takes : TakesParameters (after.flatMap String.toList) parameters)

/-- **The statements.** Every operation has a template, with a placeholder for each of its parameters. -/
theorem exists_template (call : StoreCall) :
    ∃ table, IsTemplate (fun d => d.sql call) table call.parameters.length := by
  cases call
  case' profileOrg => refine ⟨_, .around _ [_] (fun _ => rfl) ?_ ?_ ?_ ?_ ?_⟩
  case' chain => refine ⟨_, .around _ [_] (fun _ => rfl) ?_ ?_ ?_ ?_ ?_⟩
  case' insert => refine ⟨_, .around _ [_, _, _] (fun _ => rfl) ?_ ?_ ?_ ?_ ?_⟩
  case' markRunning => refine ⟨_, .around _ [_] (fun _ => rfl) ?_ ?_ ?_ ?_ ?_⟩
  case' complete => refine ⟨_, .around _ [_, _] (fun _ => rfl) ?_ ?_ ?_ ?_ ?_⟩
  case' record => refine ⟨_, .around _ [_] (fun _ => rfl) ?_ ?_ ?_ ?_ ?_⟩
  case' rollup => refine ⟨_, .around _ [_, _, _, _, _, _] (fun _ => rfl) ?_ ?_ ?_ ?_ ?_⟩
  -- the pieces are known; what is left are checks of their characters
  all_goals
    try delta executionColumns
    try simp only [StoreCall.parameters, List.flatMap_cons, List.flatMap_nil, String.toList_append, List.length_cons,
      List.length_nil, -String.reduceToList]
    repeat rw [String.toList_ofList]
    decide +kernel

theorem toList_foldl_append (first : String) (rest : List String) :
    (rest.foldl (· ++ ·) first).toList = first.toList ++ rest.flatMap String.toList := by
  induction rest generalizing first with
  | nil => simp
  | cons a rest ih => simp [ih]

theorem toList_table (d : Database) (table : String) :
    (d.table table).toList = '"' :: d.schema.toList ++ '"' :: '.' :: '"' :: (d.tablePrefix ++ table).toList ++ ['"'] := by
  simp [Database.table]

theorem not_mem_table {c : Char} (hc : isNameChar c = false) (hquote : c ≠ '"') (hdot : c ≠ '.') {table : String}
    (hplain : table.toList.all isNameChar = true) (d : Database) : c ∉ (d.table table).toList := by
  have hname : ∀ {name : String}, name.toList.all isNameChar = true → c ∉ name.toList := not_mem_of_all_isNameChar hc
  rw [toList_table]
  simp [hquote, hdot, hname d.schema_plain, hname d.tablePrefix_plain, hname hplain]

section Template

variable {text : Database → String} {table : String} {parameters : Nat}

/-- The names of a database are the quoted pieces of a text, and the others are the same for all databases. -/
theorem IsTemplate.splitOn (h : IsTemplate text table parameters) :
    ∃ before after, ∀ d, (text d).splitOn "\"" = [before, d.schema, ".", d.tablePrefix ++ table, after] := by
  obtain ⟨before, after, fills, ⟨-, plain⟩, ⟨hbefore, hafter⟩, -, -, -⟩ := h
  refine ⟨before, String.ofList (after.flatMap String.toList), fun d => ?_⟩
  have hname : ∀ {name : String}, name.toList.all isNameChar = true → '"' ∉ name.toList :=
    not_mem_of_all_isNameChar (by decide)
  have hpieces : (text d).toList = ['"'].intercalate [before.toList, d.schema.toList, ['.'],
      (d.tablePrefix ++ table).toList, after.flatMap String.toList] := by
    rw [fills, toList_foldl_append, String.toList_append, toList_table]
    simp [List.intercalate]
  have hcut : ∀ piece ∈ [before.toList, d.schema.toList, ['.'], (d.tablePrefix ++ table).toList,
      after.flatMap String.toList], '"' ∉ piece := by
    simp only [List.forall_mem_cons, String.toList_append, List.mem_append, not_or]
    exact ⟨hbefore, hname d.schema_plain, by decide, ⟨hname d.tablePrefix_plain, hname plain⟩, hafter, nofun⟩
  have hquote : "\"" = String.ofList ['"'] := rfl
  rw [hquote, splitOn_singleton, hpieces, List.splitOn_intercalate '"' hcut (List.cons_ne_nil _ _)]
  simp

theorem IsTemplate.takes (h : IsTemplate text table parameters) (d : Database) :
    TakesParameters (text d).toList parameters := by
  obtain ⟨before, after, fills, ⟨-, plain⟩, -, -, constant, takes⟩ := h
  have htable : '%' ∉ (d.table table).toList := not_mem_table (by decide) (by decide) (by decide) plain d
  rw [fills, toList_foldl_append, String.toList_append]
  exact TakesParameters.append (List.not_mem_append constant htable) takes

theorem IsTemplate.literal (h : IsTemplate text table parameters) (d : Database) : '\'' ∉ (text d).toList := by
  obtain ⟨before, after, fills, ⟨-, plain⟩, -, ⟨hbefore, hafter⟩, -, -⟩ := h
  have htable : '\'' ∉ (d.table table).toList := not_mem_table (by decide) (by decide) (by decide) plain d
  rw [fills, toList_foldl_append, String.toList_append]
  exact List.not_mem_append (List.not_mem_append hbefore htable) hafter

theorem IsTemplate.isPlainName (h : IsTemplate text table parameters) (d : Database) :
    IsPlainName (d.tablePrefix ++ table) := by
  obtain ⟨-, -, -, ⟨hne, plain⟩, -, -, -, -⟩ := h
  constructor
  · simp [hne]
  · rw [String.toList_append]
    exact List.forall_mem_append.mpr ⟨all_isNameChar_iff.mp d.tablePrefix_plain, all_isNameChar_iff.mp plain⟩

end Template

/-! ## Execution -/

section

variable [Depth]

/-- An effect executes no other statement. -/
def ExecutesOnly (q : Statement) (e : Effect) : Prop := ∀ t, e = .execute t → t = q

omit [Depth] in
theorem asks_connect (d : Database) (q : Statement) : d.connect.Asks (ExecutesOnly q) True := by
  unfold connect
  split
  · trivial
  · refine ⟨nofun, fun answer => ?_⟩
    cases answer <;> trivial

omit [Depth] in
theorem asks_fetch (d : Database) (q : Statement) : (d.fetch q).Asks (ExecutesOnly q) True := by
  apply asks_bind (d.asks_connect q)
  refine fun _ => ⟨fun t ht => (Effect.execute.inj ht).symm, fun answer => ?_⟩
  cases answer with
  | ok row => trivial
  | error fault =>
      cases fault with
      | undefinedTable => exact asks_bind (asks_perform nofun) fun _ => trivial
      | _ => trivial

omit [Depth] in
theorem asks_change (d : Database) (q : Statement) : (d.change q).Asks (ExecutesOnly q) True := by
  apply asks_bind (d.asks_connect q)
  refine fun _ => ⟨fun t ht => (Effect.execute.inj ht).symm, fun answer => ?_⟩
  cases answer <;> trivial

theorem asks_once (d : Database) (call : StoreCall) :
    (d.once call).Asks (ExecutesOnly (d.statement call)) True := by
  cases call with
  | markRunning id engineId => exact d.asks_change _
  | complete id completion => exact d.asks_change _
  | rollup increment => exact d.asks_change _
  | _ => exact asks_bind (d.asks_fetch _) fun _ => asks_ofExcept _

/-- **The store executes the statement of an operation and no other**, in every attempt. -/
theorem asks_store (d : Database) (call : StoreCall) :
    (d.store call).Asks (ExecutesOnly (d.statement call)) True := by
  unfold store
  split
  · exact asks_retry (d.asks_once call) (fun _ _ hpause => nomatch hpause) _ _ _ _
  · exact d.asks_once call

/-! ## Safety -/

omit [Depth] in
/-- The texts of an operation do not depend on its data. -/
theorem sql_eq_of_name {a b : StoreCall} (d : Database) (h : a.name = b.name) : d.sql a = d.sql b := by
  cases a <;> cases b
  all_goals simp only [StoreCall.name] at h
  all_goals first
    | contradiction
    | rfl

/-- The statement of an operation is fixed but for the quoted names of the database. -/
structure IsFixed (d : Database) (call : StoreCall) : Prop where
  /-- Operations of one kind have one text, whatever their data are. -/
  text : ∀ other : StoreCall, other.name = call.name → (d.statement other).sql = (d.statement call).sql
  takes : TakesParameters (d.statement call).sql.toList (d.statement call).parameters.length
  /-- No text is spelled in it, so that a double quote quotes a name. -/
  literal : '\'' ∉ (d.statement call).sql.toList
  /-- Every quote that is opened is closed. -/
  closed : ((d.statement call).sql.splitOn "\"").length % 2 = 1
  plain : ∀ name ∈ quotedNames (d.statement call).sql, IsPlainName name
  /-- Every database has its schema and its table there. -/
  names : ∃ table, ∀ e : Database, quotedNames (e.statement call).sql = [e.schema, e.tablePrefix ++ table]
  /-- Every database has this text outside of the quotes. -/
  frame : ∀ e : Database, outsideQuotes (e.statement call).sql = outsideQuotes (d.statement call).sql
  /-- Whatever is executed for the operation is this statement. -/
  executed : ∀ {σ : Type} (h : Handler σ) (s : σ) (q : Statement), .execute q ∈ asked h (d.store call) s →
    q = d.statement call

/-- **Neither data nor configuration alter a statement.** -/
theorem statement_is_fixed {dsn : String} {schema : Option String} {tablePrefix : String} {d : Database}
    (hmake : make dsn schema tablePrefix = .ok d) (call : StoreCall) :
    d.schema = (schema.filter (· ≠ "")).getD defaultSchema ∧ d.tablePrefix = tablePrefix ∧ d.IsFixed call := by
  obtain ⟨hschema, hprefix⟩ := make_eq_ok hmake
  obtain ⟨table, htemplate⟩ := exists_template call
  obtain ⟨before, after, hsplit⟩ := htemplate.splitOn
  have hnames : ∀ e : Database, quotedNames (e.statement call).sql = [e.schema, e.tablePrefix ++ table] := by
    intro e
    rw [quotedNames, statement, hsplit]
    rfl
  refine ⟨hschema, hprefix, ?_⟩
  constructor
  case text => exact fun other hname => d.sql_eq_of_name hname
  case takes => exact htemplate.takes d
  case literal => exact htemplate.literal d
  case closed => simp [statement, hsplit]
  case plain =>
    rw [hnames]
    have hplain : IsPlainName d.schema := ⟨d.schema_ne, all_isNameChar_iff.mp d.schema_plain⟩
    exact List.forall_mem_cons.mpr ⟨hplain, List.forall_mem_singleton.mpr (htemplate.isPlainName d)⟩
  case names => exact ⟨table, hnames⟩
  case frame =>
    intro e
    simp only [outsideQuotes, statement, hsplit]
    rfl
  case executed =>
    intro σ h s q hq
    exact (d.asks_store call).of_asked hq q rfl

end

/-- A database with a schema of its own and a start of its table names. -/
def prefixedDatabase : Database := ⟨"postgres://db", "app", "chains_", by decide, by decide, by decide⟩

/-- A user that is named like a part of a statement does not change the one that is executed. -/
theorem statement_is_fixed_prefixed : make "postgres://db" (some "app") "chains_" = .ok prefixedDatabase
    ∧ prefixedDatabase.schema = "app" ∧ prefixedDatabase.tablePrefix = "chains_"
    ∧ prefixedDatabase.IsFixed (.profileOrg "x' OR %s = \"id\"") := by
  have hmake : make "postgres://db" (some "app") "chains_" = .ok prefixedDatabase := rfl
  exact ⟨hmake, statement_is_fixed hmake _⟩

/-- A schema that would close its quotes is refused. -/
example : make "postgres://db" (some "app\".\"users") "" = .error (.value .schemaName) := rfl

end Database

end PromptGraph
