import SqlAdvisor.Proofs.Distinct
import SqlAdvisor.Proofs.Usage.Extraction

/-! # What an alias leads to

Of several references under one key the last one counts. A qualifier means the table of the reference that counts under
it, and if there is no such reference, the first table that has the qualifier as its full or its simple name.
-/

namespace SqlAdvisor

namespace TableRef

/-- What a reference is addressed by: its alias, or the name of its table where it has none. -/
inductive IsAddressedBy (ref : TableRef) : String → Prop where
  | aliased {given : String} (held : ref.alias? = some (.text given)) (nonempty : given ≠ "") : IsAddressedBy ref given
  | unaliased (bare : ∀ given, ref.alias? = some given → given.truthy = false) : IsAddressedBy ref ref.name

/-- The key is what the reference is addressed by, in lower case. -/
def HasKey (ref : TableRef) (key : String) : Prop := ∃ called, ref.IsAddressedBy called ∧ Text.lower called = key

/-- The reference is the last one under the key. -/
def IsLastUnder (refs : List TableRef) (key : String) (ref : TableRef) : Prop :=
  ∃ before after, refs = before ++ ref :: after ∧ ref.HasKey key ∧ ∀ later ∈ after, ¬later.HasKey key

/-- The qualifier is the full or the simple name of the table, in some letter case. -/
def IsNamed (ref : TableRef) (qualifier : String) : Prop :=
  Text.lower ref.name = Text.lower qualifier ∨ Text.lower ref.simpleName = Text.lower qualifier

variable {ref : TableRef}

theorem isAddressedBy_iff (plain : ref.hasOddAlias = false) {called : String} :
    ref.IsAddressedBy called ↔ called = ref.handle := by
  obtain ⟨name, alias?⟩ := ref
  constructor
  · rintro (⟨held, nonempty⟩ | ⟨bare⟩)
    · obtain rfl : alias? = _ := held
      simp [handle, nonempty]
    · cases alias? with
      | none => rfl
      | some given =>
          have empty := bare given rfl
          cases given with
          | text given => simp_all [handle, Label.truthy]
          | _ => rfl
  · rintro rfl
    cases alias? with
    | none => exact .unaliased fun given held => nomatch held
    | some given =>
        cases given with
        | text given =>
            by_cases empty : given = ""
            · subst empty
              refine .unaliased fun given held => ?_
              cases held
              rfl
            · have isHandle : handle ⟨name, some (.text given)⟩ = given := by simp [handle, empty]
              rw [isHandle]
              exact .aliased rfl empty
        | _ =>
            refine .unaliased fun given held => ?_
            cases held
            simpa [hasOddAlias, Label.text?] using plain

theorem hasKey_iff (plain : ref.hasOddAlias = false) {key : String} :
    ref.HasKey key ↔ Text.lower ref.handle = key := by
  simp [HasKey, isAddressedBy_iff plain]

/-- A last reference counts under its own key, and under no other does it change what counts. -/
theorem isLastUnder_concat {earlier : List TableRef} {last : TableRef} {key : String} :
    IsLastUnder (earlier ++ [last]) key ref ↔
      last.HasKey key ∧ ref = last ∨ ¬last.HasKey key ∧ IsLastUnder earlier key ref := by
  constructor
  · rintro ⟨before, after, eq, has, none⟩
    rcases List.eq_nil_or_concat after with rfl | ⟨after, other, rfl⟩
    · obtain ⟨-, same⟩ := List.append_inj' eq rfl
      cases same
      exact .inl ⟨has, rfl⟩
    · rw [List.concat_eq_append, ← List.cons_append, ← List.append_assoc] at eq
      obtain ⟨rfl, same⟩ := List.append_inj' eq rfl
      cases same
      rw [List.concat_eq_append, List.forall_mem_append, List.forall_mem_singleton] at none
      exact .inr ⟨none.2, before, after, rfl, has, none.1⟩
  · rintro (⟨has, rfl⟩ | ⟨hasNot, before, after, rfl, has, none⟩)
    · exact ⟨earlier, [], rfl, has, List.forall_mem_nil _⟩
    · refine ⟨before, after ++ [last], by simp, has, ?_⟩
      rw [List.forall_mem_append, List.forall_mem_singleton]
      exact ⟨none, hasNot⟩

theorem isNamed_iff {qualifier : String} :
    ref.IsNamed qualifier ↔ answersTo (Text.lower qualifier) ref.name = true := by
  simp [IsNamed, answersTo, simpleName]

end TableRef

namespace AliasMap

variable {refs : List TableRef} {key name : String}

theorem ofRefs_concat (earlier : List TableRef) (ref : TableRef) :
    ofRefs (earlier ++ [ref]) = (ofRefs earlier).insert (Text.lower ref.handle) ref.name := by
  rw [ofRefs, List.map_append, List.map_singleton, Dictionary.ofList_concat]
  rfl

theorem mem_keys_ofRefs (plain : ∀ ref ∈ refs, ref.hasOddAlias = false) :
    key ∈ (ofRefs refs).keys ↔ ∃ ref ∈ refs, ref.HasKey key := by
  rw [ofRefs, Dictionary.mem_keys_ofList, List.map_map, List.mem_map]
  refine exists_congr fun ref => and_congr_right fun mem => ?_
  exact (TableRef.hasKey_iff (plain ref mem)).symm

theorem find?_ofRefs (plain : ∀ ref ∈ refs, ref.hasOddAlias = false) :
    (ofRefs refs).find? key = some name ↔ ∃ ref, TableRef.IsLastUnder refs key ref ∧ ref.name = name := by
  -- From the right end: a later reference overwrites what an earlier one has left under its key.
  induction refs using List.reverseRecOn with
  | nil =>
      refine iff_of_false nofun ?_
      rintro ⟨ref, ⟨before, after, eq, -⟩, -⟩
      simp at eq
  | append_singleton earlier last ih =>
      rw [List.forall_mem_append, List.forall_mem_singleton] at plain
      have hasKey : last.HasKey key ↔ Text.lower last.handle = key := TableRef.hasKey_iff plain.2
      rw [ofRefs_concat, Dictionary.find?_insert]
      simp only [TableRef.isLastUnder_concat, hasKey]
      by_cases same : Text.lower last.handle = key
      · simp [same]
      · simp [same, Ne.symm same, ih plain.1]

theorem find?_ofRefs_eq_none (plain : ∀ ref ∈ refs, ref.hasOddAlias = false) :
    (ofRefs refs).find? key = none ↔ ∀ ref ∈ refs, ¬ref.HasKey key := by
  rw [← not_iff_not, ← ne_eq, Option.ne_none_iff_exists', ← Dictionary.mem_keys, mem_keys_ofRefs plain]
  push Not
  rfl

end AliasMap

/-- What a qualifier means among the references of a statement. -/
inductive Means (refs : List TableRef) (qualifier : String) : TableKey → Prop where
  | addressed {ref : TableRef} (last : TableRef.IsLastUnder refs (Text.lower qualifier) ref) :
    Means refs qualifier (.known ref.name)
  | named {before after : List TableRef} {ref : TableRef}
    (unaddressed : ∀ other ∈ refs, ¬other.HasKey (Text.lower qualifier)) (among : refs = before ++ ref :: after)
    (named : ref.IsNamed qualifier) (first : ∀ earlier ∈ before, ¬earlier.IsNamed qualifier) :
    Means refs qualifier (.known ref.name)
  | unknown (unaddressed : ∀ other ∈ refs, ¬other.HasKey (Text.lower qualifier))
    (unnamed : ∀ other ∈ refs, ¬other.IsNamed qualifier) :
    Means refs qualifier (.unresolved qualifier)

theorem resolve_unaliased {aliases : AliasMap} {known : List String} {qualifier : String} (given : qualifier ≠ "")
    (unaliased : aliases.find? (Text.lower qualifier) = none) :
    resolve qualifier aliases known =
      (known.find? (answersTo (Text.lower qualifier))).elim (.unresolved qualifier) .known := by
  rw [resolve, if_neg (by simpa using given)]
  simp only [unaliased]
  cases known.find? (answersTo (Text.lower qualifier)) <;> rfl

theorem find?_names (refs : List TableRef) (qualifier : String) :
    (refs.map (·.name)).eraseDups.find? (answersTo (Text.lower qualifier)) =
      (refs.find? fun ref => answersTo (Text.lower qualifier) ref.name).map (·.name) := by
  rw [find?_eraseDups, List.find?_map]
  rfl

namespace Means

variable {refs : List TableRef} {qualifier : String} {key : TableKey}

theorem resolve_eq (plain : ∀ ref ∈ refs, ref.hasOddAlias = false) (given : qualifier ≠ "")
    (means : Means refs qualifier key) :
    resolve qualifier (.ofRefs refs) (refs.map (·.name)).eraseDups = key := by
  cases means with
  | addressed last => exact resolve_aliased given ((AliasMap.find?_ofRefs plain).mpr ⟨_, last, rfl⟩)
  | @named before after ref unaddressed among named first =>
      have found : refs.find? (fun ref => answersTo (Text.lower qualifier) ref.name) = some ref := by
        refine List.find?_eq_some_iff_append.mpr ⟨TableRef.isNamed_iff.mp named, before, after, among, ?_⟩
        intro earlier mem
        simpa using mt TableRef.isNamed_iff.mpr (first earlier mem)
      rw [resolve_unaliased given ((AliasMap.find?_ofRefs_eq_none plain).mpr unaddressed), find?_names, found]
      rfl
  | unknown unaddressed unnamed =>
      have found : refs.find? (fun ref => answersTo (Text.lower qualifier) ref.name) = none :=
        List.find?_eq_none.mpr fun ref mem => mt TableRef.isNamed_iff.mpr (unnamed ref mem)
      rw [resolve_unaliased given ((AliasMap.find?_ofRefs_eq_none plain).mpr unaddressed), find?_names, found]
      rfl

theorem exists_key (plain : ∀ ref ∈ refs, ref.hasOddAlias = false) (qualifier : String) :
    ∃ key, Means refs qualifier key := by
  by_cases addressed : ∃ ref ∈ refs, ref.HasKey (Text.lower qualifier)
  · obtain ⟨name, found⟩ := Dictionary.mem_keys.mp ((AliasMap.mem_keys_ofRefs plain).mpr addressed)
    obtain ⟨ref, last, -⟩ := (AliasMap.find?_ofRefs plain).mp found
    exact ⟨_, .addressed last⟩
  · push Not at addressed
    cases found : refs.find? fun ref => answersTo (Text.lower qualifier) ref.name with
    | none =>
        have unnamed := List.find?_eq_none.mp found
        exact ⟨_, .unknown addressed fun ref mem => mt TableRef.isNamed_iff.mp (unnamed ref mem)⟩
    | some ref =>
        obtain ⟨named, before, after, among, first⟩ := List.find?_eq_some_iff_append.mp found
        refine ⟨_, .named addressed among (TableRef.isNamed_iff.mpr named) fun earlier mem => ?_⟩
        exact mt TableRef.isNamed_iff.mp (by simpa using first earlier mem)

/-- A qualifier is resolved to what it means among the references, which is one thing. -/
theorem resolve_eq_iff (plain : ∀ ref ∈ refs, ref.hasOddAlias = false) (given : qualifier ≠ "") :
    resolve qualifier (.ofRefs refs) (refs.map (·.name)).eraseDups = key ↔ Means refs qualifier key := by
  refine ⟨?_, resolve_eq plain given⟩
  rintro rfl
  obtain ⟨key, means⟩ := exists_key plain qualifier
  rwa [means.resolve_eq plain given]

theorem mem_names {name : String} (means : Means refs qualifier (.known name)) : name ∈ refs.map (·.name) := by
  cases means with
  | addressed last =>
      obtain ⟨before, after, rfl, -⟩ := last
      simp
  | named _ among =>
      subst among
      simp

end Means

/-- The alias map of some references has their keys, and under each the table of the last reference with it. So a table
    is left out only where each of its references is followed by one with the same key. In a statement of these
    references every qualifier is resolved, for columns and for the rows of an EXPLAIN, to what it means among them. -/
theorem aliases_lead_to_last {refs : List TableRef} (plain : ∀ ref ∈ refs, ref.hasOddAlias = false) :
    (∀ key, key ∈ (AliasMap.ofRefs refs).keys ↔ ∃ ref ∈ refs, ref.HasKey key) ∧
    (∀ key name, (AliasMap.ofRefs refs).find? key = some name ↔
      ∃ ref, TableRef.IsLastUnder refs key ref ∧ ref.name = name) ∧
    (∀ name ∈ (AliasMap.ofRefs refs).values, name ∈ refs.map (·.name)) ∧
    (∀ before ref after, refs = before ++ ref :: after → ref.name ∉ (AliasMap.ofRefs refs).values →
      ∀ key, ref.HasKey key → ∃ later ∈ after, later.HasKey key) ∧
    ∀ statement : Statement, statement.tables = refs →
      statement.aliasMap = .ok (.ofRefs refs) ∧
      (∀ extracted, statement.extractUsages (.ofRefs refs) = .ok extracted →
        extracted.value.knownTables = statement.tableNames) ∧
      ∀ qualifier, qualifier ≠ "" →
        (∀ key, resolve qualifier (.ofRefs refs) statement.tableNames = key ↔ Means refs qualifier key) ∧
        ∀ name, resolve qualifier (.ofRefs refs) statement.tableNames = .known name → name ∈ refs.map (·.name) := by
  refine ⟨fun key => AliasMap.mem_keys_ofRefs plain, fun key name => AliasMap.find?_ofRefs plain,
    fun name => AliasMap.mem_names_of_mem_values, ?missing, ?statements⟩
  case missing =>
    intro before ref after among missing key has
    by_contra none
    push Not at none
    have last : TableRef.IsLastUnder refs key ref := ⟨before, after, among, has, none⟩
    have found := (AliasMap.find?_ofRefs plain).mpr ⟨ref, last, rfl⟩
    exact missing (List.mem_map_of_mem (Dictionary.mem_entries_of_find? found))
  case statements =>
    rintro statement rfl
    refine ⟨?_, fun extracted extracts => ?_, fun qualifier given => ⟨fun key => ?_, fun name resolved => ?_⟩⟩
    · rw [Statement.aliasMap, if_neg (by simpa using plain)]
    · rw [Statement.extractUsages_value extracts, Statement.knownTables_usages]
    · exact Means.resolve_eq_iff plain given
    · exact ((Means.resolve_eq_iff plain given).mp resolved).mem_names

/-- `SELECT * FROM old.orders AS t JOIN customers JOIN new.orders AS T` -/
def reusedAlias : Node :=
  let identifier (name : String) : Argument := .node (.mk .identifier [("this", .text name)] none)
  let called (name : String) : Argument := .node (.mk .tableAlias [("this", identifier name)] none)
  let join (table : List (String × Argument)) (sql : String) : Argument :=
    .node (.mk .join [("this", .node (.mk .table table (some sql)))] none)
  .mk .select
    [("expressions", .list [.node (.mk .star [] (some "*"))]),
     ("from_", .node (.mk .fromClause
       [("this", .node (.mk .table [("this", identifier "orders"), ("db", identifier "old"), ("alias", called "t")]
         (some "old.orders AS t")))] none)),
     ("joins", .list
       [join [("this", identifier "customers")] "customers",
        join [("this", identifier "orders"), ("db", identifier "new"), ("alias", called "T")] "new.orders AS T"])]
    (some "SELECT * FROM old.orders AS t JOIN customers JOIN new.orders AS T")

/-- The first table has lost its alias to the last one, and is reached by its simple name. -/
theorem aliases_lead_to_last_reusedAlias :
    ∃ statement, Statement.ofNode reusedAlias = .ok statement ∧
      ∃ aliases, statement.aliasMap = .ok aliases ∧ "old.orders" ∉ aliases.values ∧
        resolve "t" aliases statement.tableNames = .known "new.orders" ∧
        resolve "ORDERS" aliases statement.tableNames = .known "old.orders" ∧
        resolve "users" aliases statement.tableNames = .unresolved "users" := by
  let old : TableRef := ⟨"old.orders", some (.text "t")⟩
  let customers : TableRef := ⟨"customers", none⟩
  let new : TableRef := ⟨"new.orders", some (.text "T")⟩
  have reads : (Statement.ofNode reusedAlias).map (·.tables) = .ok [old, customers, new] := by with_unfolding_all rfl
  obtain ⟨statement, read, tables⟩ := Except.map_eq_ok.mp reads
  have plain : ∀ ref ∈ [old, customers, new], ref.hasOddAlias = false := by decide
  have unaddressed {qualifier : String} (other : [old, customers, new].all fun ref =>
      decide (Text.lower ref.handle ≠ Text.lower qualifier)) :
      ∀ ref ∈ [old, customers, new], ¬ref.HasKey (Text.lower qualifier) := by
    intro ref mem has
    have differs := List.all_eq_true.mp other ref mem
    exact of_decide_eq_true differs ((TableRef.hasKey_iff (plain ref mem)).mp has)
  have last : TableRef.IsLastUnder [old, customers, new] (Text.lower "t") new :=
    ⟨[old, customers], [], rfl, ⟨"T", .aliased rfl (by decide), by cbv⟩, List.forall_mem_nil _⟩
  have ofOrders : Means [old, customers, new] "ORDERS" (.known "old.orders") := by
    have first : [old, customers, new] = [] ++ old :: [customers, new] := rfl
    exact .named (unaddressed (by cbv)) first (.inr (by cbv)) (List.forall_mem_nil _)
  have ofUsers : Means [old, customers, new] "users" (.unresolved "users") := by
    refine .unknown (unaddressed (by cbv)) fun ref mem named => ?_
    have unnamed : [old, customers, new].all (fun ref => !answersTo (Text.lower "users") ref.name) = true := by cbv
    simpa [TableRef.isNamed_iff.mp named] using List.all_eq_true.mp unnamed ref mem
  have values : (AliasMap.ofRefs [old, customers, new]).values = ["new.orders", "customers"] := by cbv
  obtain ⟨-, -, -, -, means⟩ := aliases_lead_to_last plain
  obtain ⟨built, -, resolved⟩ := means statement tables
  refine ⟨statement, read, _, built, by simp [values], ((resolved "t" (by decide)).1 _).mpr (.addressed last),
    ((resolved "ORDERS" (by decide)).1 _).mpr ofOrders, ((resolved "users" (by decide)).1 _).mpr ofUsers⟩

end SqlAdvisor
