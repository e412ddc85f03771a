import SqlAdvisor.Proofs.Analysis.Totality
import SqlAdvisor.Proofs.Statistics.Counts

/-! # The hints on a query are complete

Each rule for queries looks at what the tree or its records show, and gives the hints that this calls for. The
hints on a query are those of the rules, in the order of the rules. Where no rule gives one, a single hint says so.
-/

namespace SqlAdvisor

theorem Hint.truthy_statistic {stats : Statistics} {name : String} {flag : Bool}
    (told : stats.find? name = some (.bool flag)) : (statistic stats name).truthy = flag := by
  rw [statistic, told]
  rfl

theorem ColumnSet.size_pos {columns : ColumnSet} : 0 < columns.size ↔ ¬columns.isEmpty = true := by
  simp only [size, NameSet.size, isEmpty, NameSet.isEmpty, Bool.and_eq_true, List.isEmpty_iff]
  rw [Nat.add_pos_iff_pos_or_pos, List.length_pos_iff, List.length_pos_iff]
  exact not_and_or.symm

theorem total_pos {α : Type} {measure : α → Nat} {items : List α} :
    0 < total measure items ↔ ∃ item ∈ items, 0 < measure item := by
  induction items with
  | nil => simp
  | cons item rest ih => simp [ih]

/-- The columns have names, and those are listed in increasing order of code points. -/
def ColumnSet.Lists (columns : ColumnSet) (names : List String) : Prop :=
  columns.isNamed = true ∧ (∀ name, name ∈ names ↔ name ∈ columns) ∧ names.Pairwise (· < ·)

theorem ColumnSet.lists_of_namesInOrder {columns : ColumnSet} {names : List String}
    (h : columns.namesInOrder = .ok names) : columns.Lists names := by
  rw [namesInOrder] at h
  split at h
  · rename_i named
    cases h
    exact ⟨named, fun name => Iff.rfl, columns.names.increasing⟩
  · cases h

/-- The item is a column of a name, and nothing else. -/
def Argument.isPlainColumn (item : Argument) : Bool := item.node?.any Node.isPlainColumn

/-- The SQL text of an item, which is `NULL` where nothing is given. -/
inductive Argument.HasText : Argument → String → Prop where
  | node {n : Node} {text : String} (written : n.sql = .ok text) : HasText (.node n) text
  | null : HasText .null "NULL"

theorem Hint.expressionText?_eq_ok {item : Argument} {text? : Option String} (h : expressionText? item = .ok text?) :
    item.isPlainColumn = text?.isNone ∧ ∀ text, text? = some text → item.HasText text := by
  cases item with
  | node n =>
      have same : Argument.isPlainColumn (.node n) = n.isPlainColumn := rfl
      rw [expressionText?] at h
      split at h
      · rename_i plain
        cases h
        refine ⟨same.trans plain, fun text told => ?_⟩
        cases told
      · rename_i other
        obtain ⟨text, written, h⟩ := Except.bind_eq_ok.mp h
        cases h
        refine ⟨same.trans (Bool.eq_false_iff.mpr other), fun text told => ?_⟩
        cases told
        exact .node written
  | null =>
      cases h
      refine ⟨rfl, fun text told => ?_⟩
      cases told
      exact .null
  | _ => cases h

/-! ## What a hint tells -/

/-- The part stands somewhere in the text. -/
def Text.Includes (text part : String) : Prop := ∃ before after : String, text = before ++ part ++ after

theorem Text.includes_self (text : String) : Includes text text :=
  ⟨"", "", by rw [String.empty_append, String.append_empty]⟩

theorem Text.Includes.append_left {text part : String} (includes : Includes text part) (start : String) :
    Includes (start ++ text) part := by
  obtain ⟨before, after, rfl⟩ := includes
  exact ⟨start ++ before, after, by simp only [String.append_assoc]⟩

theorem Text.Includes.append_right {text part : String} (includes : Includes text part) (rest : String) :
    Includes (text ++ rest) part := by
  obtain ⟨before, after, rfl⟩ := includes
  exact ⟨before, after ++ rest, by simp only [String.append_assoc]⟩

namespace Hint

/-- The hint has the severity and the title. -/
def IsTitled (hint : Hint) (severity : Severity) (title : String) : Prop :=
  hint.severity = severity ∧ hint.title = title

/-- There is one hint, of the kind, if it is called for, and else none. -/
def OneIf (called : Prop) (kind : Hint → Prop) (hints : List Hint) : Prop :=
  (called → ∃ hint, hints = [hint] ∧ kind hint) ∧ (¬called → hints = [])

theorem oneIf_ite {called : Prop} [Decidable called] {kind : Hint → Prop} {hint : Hint} (isKind : kind hint) :
    OneIf called kind (if called then [hint] else []) :=
  ⟨fun h => ⟨hint, if_pos h, isKind⟩, fun h => if_neg h⟩

theorem OneIf.congr {called also : Prop} {kind : Hint → Prop} {hints : List Hint} (given : OneIf called kind hints)
    (same : called ↔ also) : OneIf also kind hints :=
  propext same ▸ given

theorem OneIf.forall {called : Prop} {kind property : Hint → Prop} {hints : List Hint} (given : OneIf called kind hints)
    (holds : ∀ hint, kind hint → property hint) : ∀ hint ∈ hints, property hint := by
  by_cases h : called
  · obtain ⟨hint, rfl, isKind⟩ := given.1 h
    exact List.forall_mem_singleton.mpr (holds hint isKind)
  · exact given.2 h ▸ List.forall_mem_nil _

/-- The hint names the columns of a table in calls, and the table. -/
def NamesWrapped (hint : Hint) (columns : List String) (table : String) : Prop :=
  Text.Includes hint.suggestion ("[" ++ ", ".intercalate columns ++ "] in table '" ++ table ++ "'.")

theorem wrappedColumns_names (key : TableKey) (columns : List String) :
    (wrappedColumns key columns).NamesWrapped columns key.display := by
  have listed : Text.bracketed columns ++ " in table '" = "[" ++ ", ".intercalate columns ++ "] in table '" :=
    String.append_assoc
  rw [NamesWrapped, ← listed]
  simp only [wrappedColumns, String.append_assoc]
  exact .append_left (.append_left (.append_left (Text.includes_self _) _) _) _

/-- The hint lists the columns in its explanation. -/
def ListsColumns (hint : Hint) (columns : List String) : Prop :=
  Text.Includes hint.explanation ("[" ++ ", ".intercalate columns ++ "]")

theorem leadingWildcard_lists (columns : List String) : (leadingWildcard columns).ListsColumns columns :=
  .append_right (.append_right (.append_left (Text.includes_self _) _) _) _

end Hint

/-! ## Rules -/

/-- The rules for queries. -/
inductive QueryRule where
  | star
  | wrapped
  | unfiltered
  | ordering
  | grouping
  | wildcard
  | alternative
  | distinct
  deriving DecidableEq

namespace QueryRule

/-- The rules, in the order of their hints. -/
def every : List QueryRule :=
  [star, wrapped, unfiltered, ordering, grouping, wildcard, alternative, distinct]

/-- The titles of a rule's hints. -/
def titles : QueryRule → List String
  | star => ["Avoid SELECT *"]
  | wrapped => ["Function on WHERE Column(s)"]
  | unfiltered => ["Potential Cartesian Product", "Potential Full Table Scan (No WHERE)"]
  | ordering => ["Expression in ORDER BY"]
  | grouping => ["Expression in GROUP BY"]
  | wildcard => ["LIKE with Leading Wildcard"]
  | alternative => ["OR Condition on Different Columns"]
  | distinct => ["SELECT DISTINCT Usage"]

/-- The title of the hint that says that no rule has one. -/
def noneTitle : String := "No Obvious Structural Issues"

/-- The hints of all rules in order, or one that says that there are none. -/
def hintsOf (found : QueryRule → List Hint) : List Hint :=
  let all := every.flatMap found
  if all = [] then [Hint.noIssues] else all

/-- One hint for each item that is no plain column, which tells the SQL text of the item. -/
def OnExpressions (severity : Severity) (title : String) (items : List Argument) (hints : List Hint) : Prop :=
  List.Forall₂ (fun item hint => ∃ text, item.HasText text ∧ hint.IsTitled severity title ∧
    Text.Includes hint.explanation text) (items.filter fun item => !item.isPlainColumn) hints

/-- What the tree, the clauses of its leftmost `SELECT` and the records call for. -/
def Calls (tree leftmost : Node) (s : SelectStatement) (usages : TableUsages) : QueryRule → List Hint → Prop
  | star, hints => Hint.OneIf tree.HasStarItem (·.IsTitled .warn "Avoid SELECT *") hints
  | wrapped, hints =>
      List.Forall₂ (fun entry hint => hint.IsTitled .severe "Function on WHERE Column(s)" ∧
        ∃ columns called, entry.2.wrapped.Lists columns ∧ (∀ table, entry.1 = .known table → called = table) ∧
          hint.NamesWrapped columns called)
        (usages.entries.filter fun entry => !entry.2.wrapped.isEmpty) hints
  | unfiltered, hints =>
      (s.condition ≠ .null → hints = []) ∧
      (s.condition = .null →
        (1 < s.tables.length → ∃ hint, hints = [hint] ∧ hint.IsTitled .severe "Potential Cartesian Product") ∧
        (s.tables.length = 1 → ∃ hint, hints = [hint] ∧ hint.IsTitled .warn "Potential Full Table Scan (No WHERE)") ∧
        (s.tables = [] → hints = []))
  | ordering, hints => OnExpressions .warn "Expression in ORDER BY" s.orderBy hints
  | grouping, hints => OnExpressions .info "Expression in GROUP BY" s.groupBy hints
  | wildcard, hints =>
      s.condition = .null ∧ hints = [] ∨
      ∃ condition columns, s.condition = .node condition ∧ condition.leadingWildcardColumns = .ok columns ∧
        Hint.OneIf (columns ≠ [])
          (fun hint => hint.IsTitled .warn "LIKE with Leading Wildcard" ∧ hint.ListsColumns columns) hints
  | alternative, hints =>
      s.condition = .null ∧ hints = [] ∨
      ∃ condition split, s.condition = .node condition ∧ condition.hasSplitAlternative = .ok split ∧
        Hint.OneIf (split = true) (·.IsTitled .info "OR Condition on Different Columns") hints
  | distinct, hints => Hint.OneIf (leftmost.arg "distinct" ≠ .null) (·.IsTitled .info "SELECT DISTINCT Usage") hints

/-! ## What the rules give -/

variable {tree leftmost : Node} {s : SelectStatement} {usages : TableUsages}

theorem onExpressions_calls {hint : String → Hint} {severity : Severity} {title : String} {items : List Argument}
    {hints : List Hint} (titled : ∀ text, (hint text).IsTitled severity title)
    (tells : ∀ text, Text.Includes (hint text).explanation text) (h : Hint.onExpressions hint items = .ok hints) :
    OnExpressions severity title items hints := by
  obtain ⟨texts, told, h⟩ := Except.bind_eq_ok.mp h
  cases h
  have pairs := Except.mapM_eq_ok.mp told
  clear told h
  induction pairs with
  | nil => exact .nil
  | @cons item text? items texts first _ ih =>
      obtain ⟨plain, written⟩ := Hint.expressionText?_eq_ok first
      rw [OnExpressions, List.filter_cons, plain]
      cases text? with
      | none => exact ih
      | some text => exact .cons ⟨text, written text rfl, titled text, tells text⟩ ih

theorem onWrapped_calls {hints : List Hint} (h : Hint.onWrapped usages = .ok hints) :
    wrapped.Calls tree leftmost s usages hints := by
  refine (Except.mapM_eq_ok.mp h).imp fun ⟨key, usage⟩ hint given => ?_
  obtain ⟨columns, listed, given⟩ := Except.bind_eq_ok.mp given
  cases given
  refine ⟨⟨rfl, rfl⟩, columns, key.display, ColumnSet.lists_of_namesInOrder listed, fun table known => ?_,
    Hint.wrappedColumns_names key columns⟩
  exact congrArg TableKey.display known

theorem unfiltered_calls {stats : Statistics} {hints : List Hint}
    (filters : stats.find? "has_where_clause" = some (.bool !s.condition.isNull))
    (counts : stats.find? "table_count" = some (.ofNat s.tables.length)) (h : Hint.unfiltered stats = .ok hints) :
    unfiltered.Calls tree leftmost s usages hints := by
  rw [Hint.unfiltered, Hint.truthy_statistic filters, counts] at h
  by_cases filtered : s.condition = .null
  · have isNull : s.condition.isNull = true := Argument.isNull_iff.mpr filtered
    refine ⟨fun other => absurd filtered other, fun _ => ?_⟩
    simp only [isNull, Option.getD_some, Datum.ofNat, Datum.exceeds, Datum.isOne, bind, Except.bind,
      decide_eq_true_eq, Nat.one_lt_cast, Nat.cast_eq_one] at h
    rw [if_neg (by decide)] at h
    rw [← List.length_eq_zero_iff]
    split at h
    · rename_i several
      cases h
      exact ⟨fun _ => ⟨_, rfl, rfl, rfl⟩, fun one => by omega, fun none => by omega⟩
    · split at h
      · rename_i one
        cases h
        exact ⟨fun several => by omega, fun _ => ⟨_, rfl, rfl, rfl⟩, fun none => by omega⟩
      · rename_i few other
        cases h
        exact ⟨fun several => absurd several few, fun one => absurd one other, fun _ => rfl⟩
  · have isNull : s.condition.isNull = false := Bool.eq_false_iff.mpr (mt Argument.isNull_iff.mp filtered)
    rw [isNull] at h
    cases h
    exact ⟨fun _ => rfl, fun null => absurd null filtered⟩

theorem onCondition_calls {hints : List Hint} (h : Hint.onCondition s.condition = .ok hints) :
    ∃ patterns alternatives, hints = patterns ++ alternatives ∧
      wildcard.Calls tree leftmost s usages patterns ∧ alternative.Calls tree leftmost s usages alternatives := by
  cases condition : s.condition with
  | null =>
      rw [condition] at h
      cases h
      exact ⟨[], [], rfl, .inl ⟨condition, rfl⟩, .inl ⟨condition, rfl⟩⟩
  | node n =>
      rw [condition] at h
      obtain ⟨columns, listed, h⟩ := Except.bind_eq_ok.mp h
      obtain ⟨split, told, h⟩ := Except.bind_eq_ok.mp h
      cases h
      refine ⟨_, _, rfl, .inr ⟨n, columns, condition, listed, ?_⟩,
        .inr ⟨n, split, condition, told, Hint.oneIf_ite ⟨rfl, rfl⟩⟩⟩
      have given : Hint.OneIf (¬columns.isEmpty = true)
          (fun hint => hint.IsTitled .warn "LIKE with Leading Wildcard" ∧ hint.ListsColumns columns)
          (if ¬columns.isEmpty = true then [Hint.leadingWildcard columns] else []) :=
        Hint.oneIf_ite ⟨⟨rfl, rfl⟩, Hint.leadingWildcard_lists columns⟩
      rw [ite_not] at given
      exact given.congr (not_congr List.isEmpty_iff)
  | _ =>
      rw [condition] at h
      cases h

theorem star_calls {stats : Statistics}
    (counts : stats.find? "uses_select_star" = some (.bool (decide (0 < (Counts.ofNode tree).stars)))) :
    star.Calls tree leftmost s usages
      (if (Hint.statistic stats "uses_select_star").truthy then [Hint.selectStar] else []) := by
  rw [Hint.truthy_statistic counts]
  exact (Hint.oneIf_ite ⟨rfl, rfl⟩).congr (decide_eq_true_iff.trans Counts.stars_pos)

theorem distinct_calls {stats : Statistics}
    (tells : stats.find? "is_distinct" = some (.bool !(leftmost.arg "distinct").isNull)) :
    distinct.Calls tree leftmost s usages
      (if (Hint.statistic stats "is_distinct").truthy then [Hint.selectDistinct] else []) := by
  rw [Hint.truthy_statistic tells]
  refine (Hint.oneIf_ite ⟨rfl, rfl⟩).congr ?_
  rw [Bool.not_eq_true', Bool.eq_false_iff, ne_eq, Argument.isNull_iff]

/-- The given hints, by their rules. -/
def collect (stars wrapped unfiltered ordering grouping patterns alternatives distinct : List Hint) :
    QueryRule → List Hint
  | .star => stars
  | .wrapped => wrapped
  | .unfiltered => unfiltered
  | .ordering => ordering
  | .grouping => grouping
  | .wildcard => patterns
  | .alternative => alternatives
  | .distinct => distinct

theorem hintsOf_collect {stars wrapped unfiltered ordering grouping patterns alternatives distinct : List Hint} :
    hintsOf (collect stars wrapped unfiltered ordering grouping patterns alternatives distinct) =
      let all := stars ++ wrapped ++ unfiltered ++ ordering ++ grouping ++ (patterns ++ alternatives) ++ distinct
      if all.isEmpty then [Hint.noIssues] else all := by
  simp only [hintsOf, every, collect, List.flatMap_cons, List.flatMap_nil, List.append_nil, ← List.append_assoc,
    List.isEmpty_iff]

/-- The hints on a query are those that the rules call for, in order, or the one that says that there are none. -/
theorem ofSelect_calls {hints : List Hint} (shows : s.Shows tree leftmost)
    (h : Hint.ofSelect s usages ((Statement.select s).statistics (some usages)) = .ok hints) :
    ∃ found : QueryRule → List Hint, (∀ rule : QueryRule, rule.Calls tree leftmost s usages (found rule)) ∧
      hints = hintsOf found := by
  simp only [Hint.ofSelect, Except.bind_eq_ok] at h
  obtain ⟨wrappedHints, onWrapped, unfilteredHints, onTables, orderingHints, onOrdering, h⟩ := h
  obtain ⟨groupingHints, onGrouping, conditionHints, onCondition, h⟩ := h
  obtain ⟨patterns, alternatives, rfl, callsPatterns, callsAlternatives⟩ := onCondition_calls onCondition
  have told {name : String} {value : Datum} (mem : (name, value) ∈ s.statistics) :=
    (Statement.select s).structural_eq (some usages) mem
  refine ⟨collect _ wrappedHints unfilteredHints orderingHints groupingHints patterns alternatives _,
    fun rule => ?calls, (Except.ok.inj h).symm.trans hintsOf_collect.symm⟩
  cases rule with
  | star =>
      rw [collect]
      refine star_calls ?_
      rw [← shows.node]
      exact told (by simp [SelectStatement.statistics])
  | wrapped => exact onWrapped_calls onWrapped
  | unfiltered =>
      exact unfiltered_calls (told (by simp [SelectStatement.statistics]))
        (told (by simp [SelectStatement.statistics])) onTables
  | ordering =>
      refine onExpressions_calls (fun text => ⟨rfl, rfl⟩) (fun text => ?_) onOrdering
      exact .append_right (.append_right (.append_right (.append_left (Text.includes_self text) _) _) _) _
  | grouping =>
      refine onExpressions_calls (fun text => ⟨rfl, rfl⟩) (fun text => ?_) onGrouping
      exact .append_right (.append_right (.append_right (.append_left (Text.includes_self text) _) _) _) _
  | wildcard => exact callsPatterns
  | alternative => exact callsAlternatives
  | distinct =>
      rw [collect]
      refine distinct_calls ?_
      rw [← shows.distinct]
      exact told (by simp [SelectStatement.statistics])

/-! ## Titles -/

theorem mem_every (rule : QueryRule) : rule ∈ every := by
  cases rule <;> decide

theorem eq_of_titles {first second : QueryRule} {title : String} (ofFirst : title ∈ first.titles)
    (ofSecond : title ∈ second.titles) : first = second := by
  have apart : ∀ first ∈ every, ∀ title ∈ first.titles, ∀ second ∈ every, title ∈ second.titles → first = second := by
    decide
  exact apart first (mem_every first) title ofFirst second (mem_every second) ofSecond

theorem noneTitle_untitled (rule : QueryRule) : noneTitle ∉ rule.titles := by
  cases rule <;> decide

theorem OnExpressions.titled {severity : Severity} {title : String} {items : List Argument} {hints : List Hint}
    (calls : OnExpressions severity title items hints) : ∀ hint ∈ hints, hint.title ∈ [title] := by
  intro hint mem
  obtain ⟨item, -, text, -, isTitled, -⟩ := (forall₂_partners calls).2 hint mem
  exact List.mem_singleton.mpr isTitled.2

theorem Calls.titled {rule : QueryRule} {hints : List Hint} (calls : rule.Calls tree leftmost s usages hints) :
    ∀ hint ∈ hints, hint.title ∈ rule.titles := by
  cases rule with
  | star => exact calls.forall fun hint isTitled => List.mem_singleton.mpr isTitled.2
  | wrapped =>
      intro hint mem
      obtain ⟨entry, -, isTitled, -⟩ := (forall₂_partners calls).2 hint mem
      exact List.mem_singleton.mpr isTitled.2
  | unfiltered =>
      obtain ⟨filtered, unfiltered⟩ := calls
      by_cases null : s.condition = .null
      · obtain ⟨several, single, empty⟩ := unfiltered null
        rcases Nat.lt_trichotomy s.tables.length 1 with zero | one | many
        · exact empty (List.length_eq_zero_iff.mp (by omega)) ▸ List.forall_mem_nil _
        · obtain ⟨hint, rfl, isTitled⟩ := single one
          exact List.forall_mem_singleton.mpr (List.mem_pair.mpr (.inr isTitled.2))
        · obtain ⟨hint, rfl, isTitled⟩ := several many
          exact List.forall_mem_singleton.mpr (List.mem_pair.mpr (.inl isTitled.2))
      · exact filtered null ▸ List.forall_mem_nil _
  | ordering | grouping => exact OnExpressions.titled calls
  | wildcard =>
      rcases calls with ⟨-, rfl⟩ | ⟨condition, columns, -, -, given⟩
      · exact List.forall_mem_nil _
      · exact given.forall fun hint told => List.mem_singleton.mpr told.1.2
  | alternative =>
      rcases calls with ⟨-, rfl⟩ | ⟨condition, split, -, -, given⟩
      · exact List.forall_mem_nil _
      · exact given.forall fun hint isTitled => List.mem_singleton.mpr isTitled.2
  | distinct => exact calls.forall fun hint isTitled => List.mem_singleton.mpr isTitled.2

section Found

variable {found : QueryRule → List Hint}

/-- Among the hints of all rules, those of one rule are told by their titles. -/
theorem filter_flatMap (titled : ∀ rule, ∀ hint ∈ found rule, hint.title ∈ rule.titles) (rule : QueryRule) :
    (every.flatMap found).filter (·.title ∈ rule.titles) = found rule := by
  -- No two rules share a title.
  have each (other : QueryRule) :
      (found other).filter (·.title ∈ rule.titles) = if other = rule then found other else [] := by
    split
    · rename_i same
      exact List.filter_eq_self.mpr fun hint mem => decide_eq_true (same ▸ titled other hint mem)
    · rename_i apart
      refine List.filter_eq_nil_iff.mpr fun hint mem => ?_
      exact fun ofRule => apart (eq_of_titles (titled other hint mem) (of_decide_eq_true ofRule))
  rw [List.filter_flatMap, List.flatMap_congr fun other _ => each other]
  cases rule <;> simp [every]

theorem flatMap_eq_nil : every.flatMap found = [] ↔ ∀ rule, found rule = [] :=
  List.flatMap_eq_nil_iff.trans ⟨fun h rule => h rule (mem_every rule), fun h rule _ => h rule⟩

theorem filter_hintsOf (titled : ∀ rule, ∀ hint ∈ found rule, hint.title ∈ rule.titles) (rule : QueryRule) :
    (hintsOf found).filter (·.title ∈ rule.titles) = found rule := by
  rw [hintsOf]
  split
  · rename_i none
    have untitled : Hint.noIssues.title ∉ rule.titles := noneTitle_untitled rule
    rw [flatMap_eq_nil.mp none rule]
    simp [untitled]
  · exact filter_flatMap titled rule

theorem hintsOf_ne_nil : hintsOf found ≠ [] := by
  rw [hintsOf]
  split
  · exact List.cons_ne_nil _ _
  · assumption

theorem noneTitle_hintsOf (titled : ∀ rule, ∀ hint ∈ found rule, hint.title ∈ rule.titles) :
    ((∃ hint ∈ hintsOf found, hint.title = noneTitle) ↔ ∀ rule, found rule = []) ∧
      ((∃ hint ∈ hintsOf found, hint.title = noneTitle) → hintsOf found = [Hint.noIssues]) := by
  rw [hintsOf, ← flatMap_eq_nil]
  by_cases none : every.flatMap found = []
  · rw [if_pos none]
    exact ⟨iff_of_true ⟨_, .head _, rfl⟩ none, fun _ => rfl⟩
  · have absent : ¬∃ hint ∈ every.flatMap found, hint.title = noneTitle := by
      rintro ⟨hint, mem, isNone⟩
      obtain ⟨rule, -, mem⟩ := List.mem_flatMap.mp mem
      exact noneTitle_untitled rule (isNone ▸ titled rule hint mem)
    rw [if_neg none]
    exact ⟨iff_of_false absent none, fun given => absurd given absent⟩

end Found

theorem wrapped_ne_nil {hints : List Hint} (calls : wrapped.Calls tree leftmost s usages hints) :
    hints ≠ [] ↔ 0 < total (·.wrapped.size) usages.values := by
  have length : (usages.entries.filter fun entry => !entry.2.wrapped.isEmpty).length = hints.length := calls.length_eq
  rw [ne_eq, ← List.length_eq_zero_iff, ← length, List.length_eq_zero_iff, List.filter_eq_nil_iff, total_pos]
  simp only [Dictionary.values, List.mem_map, ColumnSet.size_pos]
  simp

end QueryRule

/-- The hints of a rule among all hints. -/
def QueryRule.given (hints : List Hint) (rule : QueryRule) : List Hint :=
  hints.filter (·.title ∈ rule.titles)

/-- The analysis of a query has the hints that its rules call for, and no others. -/
structure Analysis.HasQueryHints (tree leftmost : Node) (s : SelectStatement) (analysis : Analysis) : Prop where
  calls (rule : QueryRule) : rule.Calls tree leftmost s analysis.usages (rule.given analysis.hints)
  ordered : (∃ rule : QueryRule, rule.given analysis.hints ≠ []) →
    analysis.hints = QueryRule.every.flatMap fun rule => rule.given analysis.hints
  nonempty : analysis.hints ≠ []
  none : (∃ hint ∈ analysis.hints, hint.title = "No Obvious Structural Issues") ↔
    ∀ rule : QueryRule, rule.given analysis.hints = []
  alone : (∃ hint ∈ analysis.hints, hint.title = "No Obvious Structural Issues") →
    ∃ hint, analysis.hints = [hint] ∧ hint.IsTitled .info "No Obvious Structural Issues"
  counted : ∃ wrapped : Nat,
    analysis.statistics.find? "total_functions_on_where_columns" = some (.ofNat wrapped) ∧
    ((∃ hint ∈ analysis.hints, hint.title = "Function on WHERE Column(s)") ↔ 0 < wrapped)

theorem Analysis.hasQueryHints {tree leftmost : Node} {s : SelectStatement} {analysed : Logged Analysis}
    (shows : s.Shows tree leftmost) (analyses : ofStatement (.select s) = .ok analysed) :
    analysed.value.HasQueryHints tree leftmost s := by
  obtain ⟨-, hints, given, parts⟩ := ofStatement_value analyses
  obtain ⟨list, ofSelect, given⟩ := Except.bind_eq_ok.mp given
  cases given
  obtain ⟨found, calls, rfl⟩ := QueryRule.ofSelect_calls shows ofSelect
  rw [parts]
  have titled (rule : QueryRule) := (calls rule).titled
  have told : QueryRule.given (QueryRule.hintsOf found) = found := funext (QueryRule.filter_hintsOf titled)
  obtain ⟨said, alone⟩ := QueryRule.noneTitle_hintsOf titled
  refine ⟨told.symm ▸ calls, ?ordered, QueryRule.hintsOf_ne_nil, told.symm ▸ said,
    fun given => ⟨_, alone given, rfl, rfl⟩, _,
    (Statement.select s).statistic_eq _ (List.mem_append_right _ (.tail _ (.head _))), ?counted⟩
  case ordered =>
    rw [told]
    rintro ⟨rule, given⟩
    exact if_neg fun none => given (QueryRule.flatMap_eq_nil.mp none rule)
  case counted =>
    rw [← QueryRule.wrapped_ne_nil (calls .wrapped), ← congrFun told .wrapped, QueryRule.given, ne_eq,
      List.filter_eq_nil_iff]
    simp [QueryRule.titles]

end SqlAdvisor
