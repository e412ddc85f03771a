import SqlAdvisor.Proofs.Distinct
import SqlAdvisor.Proofs.Hint.Splits

/-! # Patterns that begin with a wildcard

A literal is written in quotes, with each quote in it twice. Such a text, without the quotes around it, begins with a
wildcard exactly if the literal's content does. So the hint lists the columns that are compared by `LIKE` with such a
content, each once, in the order met.
-/

namespace SqlAdvisor

/-! ## The text of a literal -/

/-- White space inside the quotes is kept, and so is a quote that stands beside one of them. -/
theorem withoutQuotes_enclosed (inner : List Char) :
    withoutQuotes (String.ofList ('\'' :: inner ++ ['\''])) = String.ofList inner := by
  have quote : Text.isBlank '\'' = false := by decide
  have stripped : Text.strip (String.ofList ('\'' :: inner ++ ['\''])) = String.ofList ('\'' :: inner ++ ['\'']) := by
    simp [Text.strip, Text.dropBlankEnd, quote]
  rw [withoutQuotes, stripped, String.toList_ofList]
  cases inner with
  | nil => rfl
  | cons c rest =>
      have last : (c :: (rest ++ ['\''])).getLast? = some '\'' := by rw [← List.cons_append, List.getLast?_concat]
      have others : (c :: (rest ++ ['\''])).dropLast = c :: rest := by rw [← List.cons_append, List.dropLast_concat]
      simp only [List.cons_append, last, others]
      rfl

theorem withoutQuotes_quotedLiteral (content : String) :
    withoutQuotes (Node.quotedLiteral content) =
      String.ofList (content.toList.flatMap fun c => if c = '\'' then [c, c] else [c]) := by
  rw [← withoutQuotes_enclosed, Node.quotedLiteral]
  simp [String.append_assoc]

theorem startsWith_withoutQuotes (content : String) :
    Text.startsWith (withoutQuotes (Node.quotedLiteral content)) "%" = Text.startsWith content "%" := by
  rw [withoutQuotes_quotedLiteral, Text.startsWith, Text.startsWith, String.toList_ofList]
  cases content.toList with
  | nil => rfl
  | cons c rest =>
      by_cases isQuote : c = '\''
      · subst isQuote
        simp [List.isPrefixOf]
      · simp [isQuote, List.isPrefixOf]

theorem Text.startsWith_iff {s start : String} : startsWith s start = true ↔ ∃ rest, s = start ++ rest := by
  rw [startsWith, List.isPrefixOf_iff_prefix]
  constructor
  · rintro ⟨rest, whole⟩
    exact ⟨String.ofList rest, String.toList_injective (by rw [String.toList_append, String.toList_ofList, whole])⟩
  · rintro ⟨rest, rfl⟩
    exact ⟨rest.toList, String.toList_append.symm⟩

namespace Node

/-- The content of the literal is a text that begins with a wildcard. -/
def IsOpenLiteral (n : Node) : Prop :=
  n.isStringLiteral = true ∧ ∃ rest, n.arg "this" = .text ("%" ++ rest)

/-- The node compares the column by `LIKE` with a string literal that begins with a wildcard. -/
structure IsOpenLike (n column : Node) : Prop where
  isLike : n.cls = .like ∨ n.cls = .iLike
  left : n.child? "this" = some column
  isColumn : column.cls = .column ∧ column.isStar = false
  right : ∃ pattern, n.child? "expression" = some pattern ∧ pattern.IsOpenLiteral

/-- Every string literal of the tree has a text for content, and is written as that text in quotes. -/
def WritesLiterals (root : Node) : Prop :=
  ∀ n ∈ root.nodes, n.isStringLiteral = true →
    ∃ content, n.arg "this" = .text content ∧ n.sql = .ok (quotedLiteral content)

/-- The column that the node compares with a content that begins with a wildcard. -/
def openLikeColumn? (n : Node) : Option Node := do
  let (column, pattern) ← n.likeOperands?
  let content ← (pattern.arg "this").text?
  if Text.startsWith content "%" then some column else none

/-- The columns that are compared with such contents anywhere in the tree, in the order of their nodes. -/
def openLikeColumns (root : Node) : List Node := root.nodes.filterMap openLikeColumn?

variable {root n column : Node}

theorem openLikeColumn?_eq_some : n.openLikeColumn? = some column ↔ n.IsOpenLike column := by
  have unfolded : n.openLikeColumn? = some column ↔ ∃ pattern, n.likeOperands? = some (column, pattern) ∧
      ∃ rest, pattern.arg "this" = .text ("%" ++ rest) := by
    simp [openLikeColumn?, Option.bind_eq_some_iff, Argument.text?_eq_some, Text.startsWith_iff]
  have plain : column.isPlainColumn = true ↔ column.cls = .column ∧ column.isStar = false := by simp [isPlainColumn]
  simp only [unfolded, likeOperands?_eq_some, plain]
  constructor
  · rintro ⟨pattern, ⟨isLike, ⟨left, isColumn⟩, right, literal⟩, begins⟩
    exact ⟨isLike, left, isColumn, pattern, right, literal, begins⟩
  · rintro ⟨isLike, left, isColumn, pattern, right, literal, begins⟩
    exact ⟨pattern, ⟨isLike, ⟨left, isColumn⟩, right, literal⟩, begins⟩

theorem leadingWildcardColumn?_eq (writes : root.WritesLiterals) (mem : n ∈ root.nodes) :
    n.leadingWildcardColumn? = .ok n.openLikeColumn? := by
  rw [leadingWildcardColumn?, openLikeColumn?]
  cases like : n.likeOperands? with
  | none => rfl
  | some operands =>
      obtain ⟨column, pattern⟩ := operands
      obtain ⟨-, -, right, literal⟩ := likeOperands?_eq_some.mp like
      obtain ⟨content, held, sql⟩ := writes pattern (mem_nodes_child mem right) literal
      simp only [sql, bind, Except.bind, Option.bind, held, Argument.text?, startsWith_withoutQuotes]
      rfl

/-- The names listed so far and that of a column met next, unless it is among them. -/
def listing (names : List (Option String)) (met? : Option Node) : List (Option String) :=
  match met? with
  | some column => if names.contains column.columnName? then names else names ++ [column.columnName?]
  | none => names

theorem listing_eraseDups (columns : List Node) (met? : Option Node) :
    listing (columns.map columnName?).eraseDups met? = ((columns ++ met?.toList).map columnName?).eraseDups := by
  cases met? with
  | none => simp [listing]
  | some column =>
      rw [Option.toList_some, List.map_append, List.map_singleton, eraseDups_concat, listing]
      simp only [List.contains_eq_mem, List.mem_eraseDups, decide_eq_true_eq]

theorem listing_listing (names : List (Option String)) (met? : Option Node) :
    listing (listing names met?) met? = listing names met? := by
  cases met? with
  | none => rfl
  | some column =>
      by_cases old : column.columnName? ∈ names <;> simp [listing, old]

/-- What the search makes of one node. -/
def noting (o : Occurrence) (_ : NodeKind) (_ : Context) (found : Except Fault (List (Option String))) :
    Except Fault (List (Option String)) := do
  let names ← found
  return listing names (← o.node.leadingWildcardColumn?)

theorem leadingWildcardColumns_eq_walk (root : Node) :
    root.leadingWildcardColumns =
      walk root (.observing noting) (.ok []) >>= (·.mapM fun name? => name?.elim (.error .wrongType) .ok) := by
  rw [leadingWildcardColumns]
  congr
  funext o kind context found
  rw [noting]
  congr
  funext names
  cases o.node.leadingWildcardColumn? with
  | error fault => rfl
  | ok met? => cases met? <;> rfl

/-- A node that is met twice, as a result column and as what it is, adds to the list once. -/
theorem observe_noting {o : Occurrence} {met? : Option Node} (met : o.node.leadingWildcardColumn? = .ok met?)
    (context : Context) (names : List (Option String)) :
    o.observe noting context (.ok names) = .ok (listing names met?) := by
  have once (kind : NodeKind) (context : Context) (names : List (Option String)) :
      noting o kind context (.ok names) = .ok (listing names met?) := by
    rw [noting, met]
    rfl
  rw [Occurrence.observe_eq]
  split
  · rw [once, once, listing_listing]
  · rw [once]

theorem leadingWildcardColumns_eq (writes : root.WritesLiterals) :
    root.leadingWildcardColumns =
      (root.openLikeColumns.map columnName?).eraseDups.mapM fun name? => name?.elim (.error .wrongType) .ok := by
  have listed (places : List Place) (among : ∀ place ∈ places, place.node ∈ root.nodes) :
      places.foldl (fun found place => place.occurrence.observe noting (place.context .root) found) (.ok []) =
        .ok (((places.map Place.node).filterMap openLikeColumn?).map columnName?).eraseDups := by
    -- After each place the names noted are those of the columns met so far, without repetitions.
    induction places using List.reverseRecOn with
    | nil => rfl
    | append_singleton places place ih =>
        rw [List.forall_mem_append, List.forall_mem_singleton] at among
        have met := leadingWildcardColumn?_eq writes among.2
        have own : [place.node].filterMap openLikeColumn? = place.node.openLikeColumn?.toList := by
          rw [List.filterMap_eq_flatMap_toList, List.flatMap_singleton]
        rw [List.foldl_concat, ih among.1, observe_noting met, listing_eraseDups, ← own, ← List.filterMap_append,
          List.map_append, List.map_singleton]
  rw [leadingWildcardColumns_eq_walk, walk_observing, listed root.places fun place mem => List.mem_map_of_mem mem]
  rfl

/-- The search succeeds where these columns have names, and lists each name once, as it was met first. -/
theorem leadingWildcardColumns_eq_ok (writes : root.WritesLiterals) {names : List String} :
    root.leadingWildcardColumns = .ok names ↔
      (∀ column ∈ root.openLikeColumns, ∃ name, column.columnName? = some name) ∧
      names = (root.openLikeColumns.filterMap columnName?).eraseDups := by
  have isName {name? : Option String} {name : String} :
      name?.elim (Except.error Fault.wrongType) Except.ok = .ok name ↔ name? = some name := by
    cases name? <;> simp
  have listed : root.leadingWildcardColumns = .ok names ↔
      (root.openLikeColumns.map columnName?).eraseDups = names.map some := by
    simp only [leadingWildcardColumns_eq writes, Except.mapM_eq_ok, isName]
    rw [← List.forall₂_map_right_iff, List.forall₂_eq_eq_eq]
  have inOrder (named : ∀ column ∈ root.openLikeColumns, ∃ name, column.columnName? = some name) :
      (root.openLikeColumns.map columnName?).eraseDups =
        (root.openLikeColumns.filterMap columnName?).eraseDups.map some := by
    have all : (root.openLikeColumns.map columnName?).filter Option.isSome = root.openLikeColumns.map columnName? := by
      rw [List.filter_eq_self, List.forall_mem_map]
      intro column mem
      obtain ⟨name, isName⟩ := named column mem
      rw [isName, Option.isSome_some]
    rw [← map_eraseDups (Option.some_injective _), List.map_filterMap_some_eq_filter_map_isSome, all]
  rw [listed]
  constructor
  · intro listed
    have named : ∀ column ∈ root.openLikeColumns, ∃ name, column.columnName? = some name := by
      intro column mem
      have among := List.mem_eraseDups.mpr (List.mem_map_of_mem (f := columnName?) mem)
      rw [listed] at among
      obtain ⟨name, -, isName⟩ := List.mem_map.mp among
      exact ⟨name, isName.symm⟩
    refine ⟨named, List.map_injective_iff.mpr (Option.some_injective _) ?_⟩
    rw [← listed, inOrder named]
  · rintro ⟨named, rfl⟩
    exact inOrder named

theorem mem_openLikeColumns : column ∈ root.openLikeColumns ↔ ∃ n ∈ root.nodes, n.IsOpenLike column := by
  simp [openLikeColumns, openLikeColumn?_eq_some]

theorem leadingWildcardColumns_lists (writes : root.WritesLiterals) {names : List String}
    (searched : root.leadingWildcardColumns = .ok names) :
    (∀ n ∈ root.nodes, ∀ column, n.IsOpenLike column → ∃ name ∈ names, column.columnName? = some name) ∧
    (∀ name ∈ names, ∃ n ∈ root.nodes, ∃ column, n.IsOpenLike column ∧ column.columnName? = some name) ∧
    names = (root.openLikeColumns.filterMap columnName?).eraseDups := by
  obtain ⟨named, rfl⟩ := (leadingWildcardColumns_eq_ok writes).mp searched
  refine ⟨fun n mem column isOpen => ?_, fun name listed => ?_, rfl⟩
  · have isListed := mem_openLikeColumns.mpr ⟨n, mem, isOpen⟩
    obtain ⟨name, isName⟩ := named column isListed
    exact ⟨name, List.mem_eraseDups.mpr (List.mem_filterMap.mpr ⟨column, isListed, isName⟩), isName⟩
  · obtain ⟨column, isListed, isName⟩ := List.mem_filterMap.mp (List.mem_eraseDups.mp listed)
    obtain ⟨n, mem, isOpen⟩ := mem_openLikeColumns.mp isListed
    exact ⟨n, mem, column, isOpen, isName⟩

theorem writesLiterals_of_bare (regular : root.IsRegularTree)
    (bare : ∀ n ∈ root.nodes, n.isStringLiteral = true → n.sql? = none) : root.WritesLiterals := by
  intro n mem literal
  obtain ⟨-, -, quoted⟩ := isRegular_iff.mp (regular n mem)
  obtain ⟨content, held⟩ := quoted literal
  refine ⟨content, held, ?_⟩
  rw [sql, bare n mem literal]
  simp only [literal, if_true, held, Argument.requireText]
  rfl

end Node

theorem Analysis.HasQueryHints.wildcard {tree leftmost condition : Node} {s : SelectStatement} {analysis : Analysis}
    (has : analysis.HasQueryHints tree leftmost s) (isCondition : s.condition = .node condition) :
    ∃ names, condition.leadingWildcardColumns = .ok names ∧
      Hint.OneIf (names ≠ []) (fun hint => hint.IsTitled .warn "LIKE with Leading Wildcard" ∧ hint.ListsColumns names)
        (QueryRule.wildcard.given analysis.hints) := by
  rcases has.calls .wildcard with ⟨null, -⟩ | ⟨other, names, same, searched, given⟩
  · rw [isCondition] at null
    cases null
  · rw [isCondition, Argument.node.injEq] at same
    subst same
    exact ⟨names, searched, given⟩

/-- The hint on patterns is there exactly if a node of the condition, at whatever depth, compares a column by `LIKE`
    with a string literal whose content begins with a wildcard. It lists the names of these columns, each once, in the
    order of their first such nodes. -/
theorem wildcard_hint_iff {tree condition : Node} {s : SelectStatement} (query : tree.cls.IsQuery)
    (read : Statement.ofNode tree = .ok (.select s)) (isCondition : s.condition = .node condition)
    (writes : condition.WritesLiterals) :
    (∃ leftmost, tree.leftmostQuery = .ok leftmost ∧ leftmost.whereCondition = .ok (.node condition)) ∧
    ((Statement.select s).IsRegular → ∃ analysed, Analysis.ofStatement (.select s) = .ok analysed) ∧
    ∀ analysed, Analysis.ofStatement (.select s) = .ok analysed →
      ((∃ hint ∈ analysed.value.hints, hint.title = "LIKE with Leading Wildcard") ↔
        ∃ n ∈ condition.nodes, ∃ column, n.IsOpenLike column) ∧
      ∃ names : List String,
        Hint.OneIf (names ≠ [])
          (fun hint => hint.IsTitled .warn "LIKE with Leading Wildcard" ∧ hint.ListsColumns names)
          (QueryRule.wildcard.given analysed.value.hints) ∧
        (∀ n ∈ condition.nodes, ∀ column, n.IsOpenLike column → ∃ name ∈ names, column.columnName? = some name) ∧
        (∀ name ∈ names, ∃ n ∈ condition.nodes, ∃ column, n.IsOpenLike column ∧ column.columnName? = some name) ∧
        names.Nodup ∧ names = (condition.openLikeColumns.filterMap Node.columnName?).eraseDups := by
  obtain ⟨_, same, made⟩ := Statement.ofNode_query query read
  cases same
  obtain ⟨leftmost, isLeftmost, shows⟩ := Node.toSelect_shows made
  refine ⟨⟨leftmost, isLeftmost, isCondition ▸ shows.condition⟩, fun regular => ?total, fun analysed analyses => ?hint⟩
  case total =>
    obtain ⟨analysed, analyses, -⟩ := Analysis.ofStatement_total regular
    exact ⟨analysed, analyses⟩
  case hint =>
    obtain ⟨names, searched, given⟩ := (Analysis.hasQueryHints shows analyses).wildcard isCondition
    obtain ⟨every, only, isNames⟩ := Node.leadingWildcardColumns_lists writes searched
    have told : (∃ hint ∈ analysed.value.hints, hint.title = "LIKE with Leading Wildcard") ↔ names ≠ [] := by
      have titled : (∃ hint ∈ analysed.value.hints, hint.title = "LIKE with Leading Wildcard") ↔
          QueryRule.wildcard.given analysed.value.hints ≠ [] := by
        simp [QueryRule.given, List.filter_eq_nil_iff, QueryRule.titles]
      refine titled.trans ⟨fun some none => some (given.2 (not_not_intro none)), fun nonempty => ?_⟩
      obtain ⟨hint, sole, -⟩ := given.1 nonempty
      exact sole ▸ List.cons_ne_nil _ _
    refine ⟨?told, names, given, every, only, isNames ▸ nodup_eraseDups _, isNames⟩
    rw [told]
    constructor
    · intro nonempty
      obtain ⟨name, listed⟩ := List.exists_mem_of_ne_nil names nonempty
      obtain ⟨n, mem, column, isOpen, -⟩ := only name listed
      exact ⟨n, mem, column, isOpen⟩
    · rintro ⟨n, mem, column, isOpen⟩
      obtain ⟨name, listed, -⟩ := every n mem column isOpen
      exact List.ne_nil_of_mem listed

/-- `a LIKE '%x' OR b LIKE 'y%' OR EXISTS(SELECT a FROM t WHERE c ILIKE '%' OR a LIKE '%z')` -/
def wildcardOr : Node :=
  let identifier (name : String) : Argument := .node (.mk .identifier [("this", .text name)] none)
  let like (cls : NodeClass) (name content : String) : Node :=
    .mk cls
      [("this", .node (.mk .column [("this", identifier name)] (some name))),
       ("expression", .node (.mk .literal [("this", .text content), ("is_string", .flag true)] none))] none
  let either (left right : Node) : Node := .mk .orExpr [("this", .node left), ("expression", .node right)] none
  let inner := either (like .iLike "c" "%") (like .like "a" "%z")
  let query : Node := .mk .select
    [("expressions", .list [.node (.mk .column [("this", identifier "a")] (some "a"))]),
     ("from_", .node (.mk .fromClause [("this", .node (.mk .table [("this", identifier "t")] (some "t")))] none)),
     ("where", .node (.mk .whereClause [("this", .node inner)] none))] none
  either (either (like .like "a" "%x") (like .like "b" "y%")) (.mk .existsQuery [("this", .node query)] none)

theorem wildcardOr_writesLiterals : wildcardOr.WritesLiterals := by
  have tree : wildcardOr.IsRegularTree := List.all_eq_true.mp (by with_unfolding_all rfl)
  have bare : wildcardOr.nodes.all (fun n => !n.isStringLiteral || n.sql?.isNone) = true := by with_unfolding_all rfl
  refine Node.writesLiterals_of_bare tree fun n mem literal => ?_
  simpa [literal] using List.all_eq_true.mp bare n mem

theorem wildcardOr_openLikeColumns : wildcardOr.openLikeColumns.filterMap Node.columnName? = ["a", "c", "a"] := by
  cbv

/-- The column `b` is not listed, and `a` only once. -/
theorem wildcard_hint_wildcardOr :
    ∃ tree s analysed, Statement.ofNode tree = .ok (.select s) ∧ s.condition = .node wildcardOr ∧
      wildcardOr.WritesLiterals ∧ Analysis.ofStatement (.select s) = .ok analysed ∧
      ∃ hint, QueryRule.wildcard.given analysed.value.hints = [hint] ∧
        hint.IsTitled .warn "LIKE with Leading Wildcard" ∧ Text.Includes hint.explanation "[a, c]" := by
  let sql :=
    "SELECT id FROM t WHERE a LIKE '%x' OR b LIKE 'y%' OR EXISTS(SELECT a FROM t WHERE c ILIKE '%' OR a LIKE '%z')"
  have nodes : (whereQuery wildcardOr sql).nodes.all Node.isRegular = true := by cbv
  obtain ⟨s, read, regular, isCondition⟩ := whereQuery_isRegular nodes
  obtain ⟨-, total, hint⟩ := wildcard_hint_iff (.inl rfl) read isCondition wildcardOr_writesLiterals
  obtain ⟨analysed, analyses⟩ := total regular
  obtain ⟨-, listed, given, -, -, -, isListed⟩ := hint analysed analyses
  rw [wildcardOr_openLikeColumns] at isListed
  obtain rfl : listed = ["a", "c"] := isListed
  exact ⟨_, s, analysed, read, isCondition, wildcardOr_writesLiterals, analyses, given.1 (List.cons_ne_nil _ _)⟩

end SqlAdvisor
