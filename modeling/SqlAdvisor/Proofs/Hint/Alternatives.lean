import SqlAdvisor.Proofs.Dictionary
import SqlAdvisor.Proofs.Hint.BaseColumns

/-! # What the search for alternatives finds

The search keeps a set for every node that was left and whose parent was not, and a node takes over the set of its
first child. The numbers and sets that belong to a tree are new when the tree is entered, so that reading it leaves
all earlier ones as they were. So the set of a node holds its outermost columns when its parent is left, and those of
the operands are what an `OR` is compared by.
-/

namespace SqlAdvisor

namespace Node

/-- The `OR` nodes that are reached without passing through a call or a subquery. -/
def disjunctions (n : Node) : List Node := (n.nodesOutside NodeClass.isSealed).filter (·.cls = .orExpr)

/-- The outermost columns of the child that an argument holds directly. -/
def operandColumns (n : Node) (argument : String) : NameSet := ((n.child? argument).map outermostColumns).getD ∅

theorem mem_disjunctions {n m : Node} :
    m ∈ n.disjunctions ↔ m ∈ n.nodesOutside NodeClass.isSealed ∧ m.cls = .orExpr := by
  rw [disjunctions, List.mem_filter, decide_eq_true_iff]

end Node

def Alternative.ofNode (n : Node) : Alternative where
  node := n
  left := n.operandColumns "this"
  right := n.operandColumns "expression"

namespace Node

def comparisons (n : Node) : List Alternative := n.disjunctions.map Alternative.ofNode

theorem comparisons_eq (n : Node) :
    n.comparisons = (if n.cls = .orExpr then [Alternative.ofNode n] else []) ++
      (if n.cls.isSealed then [] else n.children).flatMap comparisons := by
  have below : (if n.cls.isSealed then [] else n.children.flatMap (nodesOutside NodeClass.isSealed)) =
      (if n.cls.isSealed then [] else n.children).flatMap (nodesOutside NodeClass.isSealed) := by
    split <;> rfl
  rw [comparisons, disjunctions, nodesOutside_eq, below, List.filter_cons, List.filter_flatMap]
  by_cases isOr : n.cls = .orExpr
  · rw [if_pos (decide_eq_true isOr), if_pos isOr, List.map_cons, List.map_flatMap]
    rfl
  · rw [if_neg (by simpa using isOr), if_neg isOr, List.map_flatMap]
    rfl

theorem lookup_namedChildren {n child : Node} {argument : String} (held : n.child? argument = some child) :
    n.namedChildren.lookup argument = some child := by
  rw [child?, arg] at held
  rw [namedChildren]
  generalize n.arguments = arguments at held ⊢
  induction arguments with
  | nil => simp [Argument.node?] at held
  | cons entry rest ih =>
      obtain ⟨name, value⟩ := entry
      rw [List.flatMap_cons, List.lookup_append]
      rw [List.lookup_cons] at held
      by_cases same : argument = name
      · subst same
        cases value with
        | node inner => simpa [Argument.node?, Argument.children, List.lookup_cons] using held
        | _ => simp [Argument.node?] at held
      · have skipped : (value.children.map (name, ·)).lookup argument = none := by
          refine List.lookup_eq_none_iff.mpr fun pair mem => ?_
          obtain ⟨inner, -, rfl⟩ := List.mem_map.mp mem
          exact bne_iff_ne.mpr same
        rw [beq_eq_false_iff_ne.mpr same] at held
        rw [skipped, Option.none_or]
        exact ih held

end Node

theorem NameSet.mem_foldl_union {start : NameSet} {added : List NameSet} {name : String} :
    name ∈ added.foldl union start ↔ name ∈ start ∨ ∃ columns ∈ added, name ∈ columns := by
  induction added generalizing start with
  | nil => simp
  | cons columns rest ih => simp [ih, or_assoc]

namespace AlternativeSearch

/-! ## Sets that grow -/

section Sets

variable {sets : Array NameSet} {first : Nat}

theorem getElem?_absorb_self {other : Nat} {start columns : NameSet} (isStart : sets[first]? = some start)
    (isColumns : sets[other]? = some columns) : (absorb first sets other)[first]? = some (start.union columns) := by
  rw [absorb, Array.getElem?_modify, if_pos rfl, isStart, isColumns]
  rfl

theorem getElem?_absorb_of_ne {other index : Nat} (apart : index ≠ first) :
    (absorb first sets other)[index]? = sets[index]? := by
  rw [absorb, Array.getElem?_modify, if_neg (Ne.symm apart)]

theorem getElem?_foldl_absorb {others : List Nat} {start : NameSet} {added : List NameSet}
    (isStart : sets[first]? = some start) (held : others.map (sets[·]?) = added.map some) (apart : first ∉ others) :
    (others.foldl (absorb first) sets)[first]? = some (added.foldl NameSet.union start) ∧
      (others.foldl (absorb first) sets).size = sets.size ∧
      ∀ index ≠ first, (others.foldl (absorb first) sets)[index]? = sets[index]? := by
  induction others generalizing sets start added with
  | nil =>
      obtain rfl : added = [] := List.map_eq_nil_iff.mp held.symm
      exact ⟨isStart, rfl, fun _ _ => rfl⟩
  | cons other rest ih =>
      obtain ⟨columns, added, rfl, isColumns, held⟩ := List.map_eq_cons_iff.mp held.symm
      obtain ⟨-, apart⟩ := not_or.mp (mt List.mem_cons.mpr apart)
      rw [List.foldl_cons, List.foldl_cons]
      -- One step changes the first set alone, so the other sets are still those that were given.
      have stillHeld : rest.map ((absorb first sets other)[·]?) = added.map some := by
        rw [held]
        exact List.map_congr_left fun index mem => getElem?_absorb_of_ne fun same => apart (same ▸ mem)
      obtain ⟨isUnion, size, kept⟩ := ih (getElem?_absorb_self isStart isColumns.symm) stillHeld apart
      refine ⟨isUnion, size.trans Array.size_modify, fun index other => ?_⟩
      rw [kept index other, getElem?_absorb_of_ne other]

end Sets

section Making

variable {n : Node} {sets : Array NameSet}

theorem makeSet_of_final (final : n.cls.isFinal = true) (parts : List Nat) :
    makeSet n n.cls.kind parts sets = (sets.push n.outermostColumns, sets.size) := by
  rw [Node.outermostColumns, Node.columnsOutside_of_closed final]
  by_cases isColumn : n.cls = .column
  · rw [NodeClass.kind_eq_columnRef.mpr isColumn]
    rfl
  · rw [Node.baseColumn?_eq_none isColumn]
    have isSealed : n.cls.kind = .functionCall ∨ n.cls.kind = .subquery := by
      simpa [NodeClass.isFinal, NodeClass.isSealed, isColumn] using final
    rcases isSealed with kind | kind <;> rw [kind] <;> rfl

theorem makeSet_of_open (isOpen : n.cls.isFinal = false) :
    makeSet n n.cls.kind [] sets = (sets.push ∅, sets.size) ∧
      ∀ first others, makeSet n n.cls.kind (first :: others) sets = (others.foldl (absorb first) sets, first) := by
  simp only [NodeClass.isFinal, NodeClass.isSealed, Bool.or_eq_false_iff, decide_eq_false_iff_not,
    ← NodeClass.kind_eq_columnRef] at isOpen
  cases kind : n.cls.kind with
  | columnRef | functionCall | subquery => simp [kind] at isOpen
  | _ => exact ⟨rfl, fun _ _ => rfl⟩

/-- A node's set holds its outermost columns if those of its children do. It is new, or that of the first child, and
    no other set grows. -/
theorem makeSet_holds {children : List Node} {parts : List Nat} {bound : Nat}
    (below : n.cls.isFinal = false → n.children = children)
    (held : parts.map (sets[·]?) = children.map fun child => some child.outermostColumns)
    (apart : parts.Nodup) (fresh : ∀ part ∈ parts, bound ≤ part) (bounded : bound ≤ sets.size) :
    ∃ made own, makeSet n n.cls.kind parts sets = (made, own) ∧ made[own]? = some n.outermostColumns ∧
      bound ≤ own ∧ sets.size ≤ made.size ∧ ∀ index < bound, made[index]? = sets[index]? := by
  have pushed (columns : NameSet) (same : columns = n.outermostColumns) :
      (sets.push columns)[sets.size]? = some n.outermostColumns ∧ bound ≤ sets.size ∧
        sets.size ≤ (sets.push columns).size ∧ ∀ index < bound, (sets.push columns)[index]? = sets[index]? := by
    subst same
    refine ⟨Array.getElem?_push_size, bounded, by simp, fun index old => ?_⟩
    rw [Array.getElem?_push, if_neg (Nat.ne_of_lt (Nat.lt_of_lt_of_le old bounded))]
  cases isOpen : n.cls.isFinal with
  | true => exact ⟨_, _, makeSet_of_final isOpen parts, pushed _ rfl⟩
  | false =>
      obtain ⟨bare, grows⟩ := @makeSet_of_open n sets isOpen
      have other : n.cls ≠ .column := by
        intro isColumn
        simp [NodeClass.isFinal, isColumn] at isOpen
      have columns (name : String) : name ∈ n.outermostColumns ↔ ∃ child ∈ children, name ∈ child.outermostColumns :=
        below isOpen ▸ Node.mem_columnsOutside_of_open isOpen other
      cases parts with
      | nil =>
          obtain rfl : children = [] := List.map_eq_nil_iff.mp held.symm
          refine ⟨_, _, bare, pushed ∅ (NameSet.ext fun name => ?_)⟩
          simp [columns]
      | cons first others =>
          obtain ⟨child, rest, rfl, isFirst, held⟩ := List.map_eq_cons_iff.mp held.symm
          have added : others.map (sets[·]?) = (rest.map Node.outermostColumns).map some := by
            rw [← held, List.map_map]
            rfl
          obtain ⟨isUnion, size, kept⟩ := getElem?_foldl_absorb isFirst.symm added (List.nodup_cons.mp apart).1
          have union : (rest.map Node.outermostColumns).foldl NameSet.union child.outermostColumns =
              n.outermostColumns := by
            refine NameSet.ext fun name => ?_
            simp [NameSet.mem_foldl_union, columns]
          have bound := fresh first (.head _)
          refine ⟨_, _, grows first others, union ▸ isUnion, bound, Nat.le_of_eq size.symm, fun index old => ?_⟩
          exact kept index (Nat.ne_of_lt (Nat.lt_of_lt_of_le old bound))

end Making

/-! ## Reading a tree -/

/-- What reading trees adds to a search: a number and a set for each of them, and an entry for every `OR` reached. What
    was there before is left as it was. -/
structure Reads (before after : AlternativeSearch) (trees : List Node) (marks : List (Nat × Nat)) : Prop where
  entered : before.entered ≤ after.entered
  numbered : ∀ mark ∈ marks, before.entered ≤ mark.1 ∧ mark.1 < after.entered
  columns : after.columns.entries = before.columns.entries ++ marks
  grown : before.sets.size ≤ after.sets.size
  fresh : ∀ mark ∈ marks, before.sets.size ≤ mark.2
  apart : (marks.map Prod.snd).Nodup
  held : marks.map (after.sets[·.2]?) = trees.map fun tree => some tree.outermostColumns
  kept : ∀ index < before.sets.size, after.sets[index]? = before.sets[index]?
  found : after.alternatives.Perm (trees.flatMap Node.comparisons ++ before.alternatives)

/-- Only nodes that were entered have a set. -/
def IsNumbered (search : AlternativeSearch) : Prop := ∀ number ∈ search.columns.keys, number < search.entered

variable {before between after : AlternativeSearch} {trees : List Node} {marks : List (Nat × Nat)}

theorem Reads.isNumbered (reads : Reads before after trees marks) (numbered : before.IsNumbered) :
    after.IsNumbered := by
  intro number mem
  rw [Dictionary.keys, reads.columns, List.map_append, List.mem_append] at mem
  rcases mem with old | new
  · exact Nat.lt_of_lt_of_le (numbered number old) reads.entered
  · obtain ⟨mark, mem, rfl⟩ := List.mem_map.mp new
    exact (reads.numbered mark mem).2

theorem IsNumbered.openNode (numbered : before.IsNumbered) (slot? : Option Slot) :
    (before.openNode slot?).IsNumbered :=
  fun number mem => Nat.lt_succ_of_lt (numbered number mem)

theorem Reads.find?_mark (reads : Reads before after trees marks) {mark : Nat × Nat} (mem : mark ∈ marks) :
    after.columns.find? mark.1 = some mark.2 := by
  apply Dictionary.find?_of_mem_entries
  rw [reads.columns]
  exact List.mem_append_right _ mem

/-- The numbers that were added are new, so that erasing them leaves what was there before. -/
theorem Reads.entries_foldl_erase (reads : Reads before after trees marks) (numbered : before.IsNumbered) :
    ((marks.map Prod.fst).foldl Dictionary.erase after.columns).entries = before.columns.entries := by
  have older : ∀ entry ∈ before.columns.entries, entry.1 ∉ marks.map Prod.fst := by
    intro entry mem isMark
    obtain ⟨mark, isMark, same⟩ := List.mem_map.mp isMark
    have old : entry.1 < before.entered := numbered entry.1 (List.mem_map_of_mem mem)
    have new : before.entered ≤ mark.1 := (reads.numbered mark isMark).1
    omega
  have newer : ∀ mark ∈ marks, mark.1 ∈ marks.map Prod.fst := fun mark mem => List.mem_map_of_mem mem
  rw [Dictionary.entries_foldl_erase, reads.columns, List.filter_append,
    List.filter_eq_self.mpr fun entry mem => decide_eq_true (older entry mem),
    List.filter_eq_nil_iff.mpr fun mark mem => by simpa using newer mark mem, List.append_nil]

theorem Reads.nil (search : AlternativeSearch) : Reads search search [] [] where
  entered := Nat.le_refl _
  numbered := List.forall_mem_nil _
  columns := (List.append_nil _).symm
  grown := Nat.le_refl _
  fresh := List.forall_mem_nil _
  apart := List.nodup_nil
  held := rfl
  kept := fun _ _ => rfl
  found := .refl _

theorem Reads.lt_size (reads : Reads before after trees marks) {mark : Nat × Nat} (mem : mark ∈ marks) :
    mark.2 < after.sets.size := by
  have isSet := List.mem_map_of_mem (f := (after.sets[·.2]?)) mem
  rw [reads.held] at isSet
  obtain ⟨tree, -, isSet⟩ := List.mem_map.mp isSet
  exact (Array.getElem?_eq_some_iff.mp isSet.symm).1

theorem Reads.cons {tree : Node} {mark : Nat × Nat} (first : Reads before between [tree] [mark])
    (rest : Reads between after trees marks) : Reads before after (tree :: trees) (mark :: marks) where
  entered := Nat.le_trans first.entered rest.entered
  numbered := by
    obtain ⟨low, high⟩ := first.numbered mark (.head _)
    refine List.forall_mem_cons.mpr ⟨⟨low, Nat.lt_of_lt_of_le high rest.entered⟩, fun other mem => ?_⟩
    obtain ⟨lowOther, highOther⟩ := rest.numbered other mem
    exact ⟨Nat.le_trans first.entered lowOther, highOther⟩
  columns := by rw [rest.columns, first.columns, List.append_assoc, List.singleton_append]
  grown := Nat.le_trans first.grown rest.grown
  fresh := by
    refine List.forall_mem_cons.mpr ⟨first.fresh mark (.head _), fun other mem => ?_⟩
    exact Nat.le_trans first.grown (rest.fresh other mem)
  apart := by
    refine List.nodup_cons.mpr ⟨fun mem => ?_, rest.apart⟩
    obtain ⟨other, mem, same⟩ := List.mem_map.mp mem
    have made := first.lt_size (.head _)
    exact Nat.lt_irrefl _ (Nat.lt_of_lt_of_le made (same ▸ rest.fresh other mem))
  held := by
    have own : between.sets[mark.2]? = some tree.outermostColumns := List.singleton_inj.mp first.held
    rw [List.map_cons, List.map_cons, rest.held, rest.kept mark.2 (first.lt_size (.head _)), own]
  kept index old := by rw [rest.kept index (Nat.lt_of_lt_of_le old first.grown), first.kept index old]
  found := by
    have swapped := rest.found.trans (first.found.append_left _)
    rw [List.flatMap_singleton] at swapped
    rw [List.flatMap_cons, List.append_assoc]
    refine swapped.trans ?_
    rw [← List.append_assoc, ← List.append_assoc]
    exact (List.perm_append_comm).append_right _

/-! ## The children of a node -/

/-- The children noted with their parent, where trees have the given marks. -/
def noted (named : List (String × Node)) (marks : List (Nat × Nat)) : List (String × Nat) :=
  List.zipWith (fun held mark => (held.1, mark.1)) named marks

theorem map_snd_noted {named : List (String × Node)} (paired : named.length = marks.length) :
    (noted named marks).map Prod.snd = marks.map Prod.fst := by
  induction named generalizing marks with
  | nil =>
      obtain rfl := List.length_eq_zero_iff.mp paired.symm
      rfl
  | cons held rest ih =>
      obtain ⟨mark, marks, rfl⟩ := List.exists_cons_of_length_eq_add_one paired.symm
      exact congrArg (mark.1 :: ·) (ih (Nat.succ.inj paired))

theorem filterMap_noted {named : List (String × Node)} {columns : Dictionary Nat Nat}
    (paired : named.length = marks.length) (marked : ∀ mark ∈ marks, columns.find? mark.1 = some mark.2) :
    (noted named marks).filterMap (fun child => columns.find? child.2) = marks.map Prod.snd := by
  have byNumber := List.filterMap_map (f := Prod.snd) (g := columns.find?) (l := noted named marks)
  rw [map_snd_noted paired, List.filterMap_map] at byNumber
  rw [← List.filterMap_eq_map]
  exact byNumber.symm.trans (List.filterMap_congr marked)

theorem lookup_noted {named : List (String × Node)} {sets : Array NameSet} {argument : String} {child : Node}
    (held : marks.map (sets[·.2]?) = named.map fun held => some held.2.outermostColumns)
    (found : named.lookup argument = some child) :
    ∃ mark ∈ marks, (noted named marks).lookup argument = some mark.1 ∧ sets[mark.2]? = some child.outermostColumns := by
  induction named generalizing marks with
  | nil => cases found
  | cons first rest ih =>
      obtain ⟨mark, marks, rfl, isSet, held⟩ := List.map_eq_cons_iff.mp held
      rw [List.lookup_cons] at found
      rw [noted, List.zipWith_cons_cons, List.lookup_cons, ← noted]
      cases same : argument == first.1 with
      | true =>
          rw [same] at found
          obtain rfl : first.2 = child := Option.some.inj found
          exact ⟨mark, .head _, rfl, isSet⟩
      | false =>
          rw [same] at found
          obtain ⟨other, mem, number, isOther⟩ := ih held found
          exact ⟨other, .tail _ mem, number, isOther⟩

/-! ## Leaving a node -/

variable {o : Occurrence} {named : List (String × Node)}

theorem enter_own (o : Occurrence) (context : Context) (search : AlternativeSearch) :
    enter o o.node.cls.kind context search = (search.openNode o.slot?, !o.node.cls.isSealed) := by
  rw [NodeClass.isSealed]
  cases kind : o.node.cls.kind with
  | resultColumn => exact absurd kind NodeClass.kind_ne_resultColumn
  | _ => rfl

theorem leave_own {search : AlternativeSearch} {current : OpenNode} {outer : List OpenNode} {made : Array NameSet}
    {own : Nat} (opened : search.opened = current :: outer)
    (makes : makeSet o.node o.node.cls.kind (current.children.filterMap fun child => search.columns.find? child.2)
      search.sets = (made, own)) (context : Context) :
    leave o o.node.cls.kind context search = {
      entered := search.entered
      opened := outer
      sets := made
      columns := ((current.children.map Prod.snd).foldl Dictionary.erase search.columns).insert current.number own
      alternatives :=
        if o.node.cls = .orExpr then
          { node := o.node
            left := search.operand o.node current.children "this"
            right := search.operand o.node current.children "expression" } :: search.alternatives
        else search.alternatives } := by
  rw [List.foldl_map]
  cases kind : o.node.cls.kind with
  | resultColumn => exact absurd kind NodeClass.kind_ne_resultColumn
  | _ =>
      rw [kind] at makes
      simp only [leave, opened, makes]

theorem operand_noted {n : Node} {search : AlternativeSearch}
    (held : marks.map (search.sets[·.2]?) = n.namedChildren.map fun held => some held.2.outermostColumns)
    (marked : ∀ mark ∈ marks, search.columns.find? mark.1 = some mark.2) (argument : String) :
    search.operand n (noted n.namedChildren marks) argument = n.operandColumns argument := by
  rw [operand, Node.operandColumns]
  cases isChild : n.child? argument with
  | none => rfl
  | some child =>
      obtain ⟨mark, mem, number, isSet⟩ := lookup_noted held (Node.lookup_namedChildren isChild)
      simp [number, marked mark mem, isSet]

/-- Reading a node adds its number, its set and what is found in it, and notes it with its parent. -/
def Adds (before after : AlternativeSearch) (o : Occurrence) : Prop :=
  ∃ own, Reads before after [o.node] [(before.entered, own)] ∧ after.opened = note o.slot? before.entered before.opened

/-- The children of a node that are read. -/
def read (n : Node) : List (String × Node) := if n.cls.isSealed then [] else n.namedChildren

theorem map_snd_read (n : Node) : (read n).map Prod.snd = if n.cls.isSealed then [] else n.children := by
  rw [read]
  split <;> rfl

theorem children_eq_read {n : Node} (isOpen : n.cls.isFinal = false) : n.children = (read n).map Prod.snd := by
  rw [NodeClass.isFinal, Bool.or_eq_false_iff] at isOpen
  rw [map_snd_read, if_neg (Bool.eq_false_iff.mp isOpen.1)]

theorem comparisons_read (n : Node) : n.comparisons =
    (if n.cls = .orExpr then [Alternative.ofNode n] else []) ++ ((read n).map Prod.snd).flatMap Node.comparisons := by
  rw [Node.comparisons_eq, map_snd_read]

theorem alternative_noted {n : Node} {search : AlternativeSearch} (isOr : n.cls = .orExpr)
    (held : marks.map (search.sets[·.2]?) = (read n).map fun held => some held.2.outermostColumns)
    (marked : ∀ mark ∈ marks, search.columns.find? mark.1 = some mark.2) :
    Alternative.ofNode n = {
      node := n
      left := search.operand n (noted (read n) marks) "this"
      right := search.operand n (noted (read n) marks) "expression" } := by
  have children : read n = n.namedChildren := if_neg (by rw [isOr]; decide)
  rw [children] at held ⊢
  rw [operand_noted held marked, operand_noted held marked, Alternative.ofNode]

/-- What reading the children and then leaving the node adds to a search. -/
theorem leave_adds (numbered : before.IsNumbered)
    (reads : Reads (before.openNode o.slot?) after ((read o.node).map Prod.snd) marks)
    (opened : after.opened =
      ⟨before.entered, noted (read o.node) marks⟩ :: note o.slot? before.entered before.opened) (context : Context) :
    Adds before (leave o o.node.cls.kind context after) o := by
  have held := reads.held
  rw [List.map_map] at held
  have marked : ∀ mark ∈ marks, after.columns.find? mark.1 = some mark.2 := fun mark => reads.find?_mark
  have paired : (read o.node).length = marks.length := by simpa using (congrArg List.length held).symm
  have parts := filterMap_noted paired marked
  have heldParts : (marks.map Prod.snd).map (after.sets[·]?) =
      ((read o.node).map Prod.snd).map fun child => some child.outermostColumns := by
    rw [List.map_map, List.map_map]
    exact held
  have freshParts : ∀ part ∈ marks.map Prod.snd, before.sets.size ≤ part :=
    List.forall_mem_map.mpr fun mark mem => reads.fresh mark mem
  obtain ⟨made, own, makes, isOwn, fresh, grown, kept⟩ :=
    makeSet_holds children_eq_read heldParts reads.apart freshParts reads.grown
  have erased := reads.entries_foldl_erase (numbered.openNode o.slot?)
  have absent : before.entered ∉ ((marks.map Prod.fst).foldl Dictionary.erase after.columns).keys := by
    rw [Dictionary.keys, erased]
    exact fun mem => Nat.lt_irrefl _ (numbered _ mem)
  rw [leave_own opened (parts ▸ makes)]
  refine ⟨own, ?_, rfl⟩
  exact {
    entered := Nat.le_of_succ_le reads.entered
    numbered := List.forall_mem_singleton.mpr ⟨Nat.le_refl _, reads.entered⟩
    columns := by
      rw [map_snd_noted paired, Dictionary.entries_insert_of_notMem absent, erased]
      rfl
    grown := Nat.le_trans reads.grown grown
    fresh := List.forall_mem_singleton.mpr fresh
    apart := List.nodup_cons.mpr ⟨List.not_mem_nil, List.nodup_nil⟩
    held := congrArg (· :: []) isOwn
    kept := fun index old => (kept index old).trans (reads.kept index old)
    found := by
      rw [List.flatMap_singleton, comparisons_read, List.append_assoc]
      by_cases isOr : o.node.cls = .orExpr
      · rw [if_pos isOr, if_pos isOr, alternative_noted isOr held marked]
        exact reads.found.cons _
      · rw [if_neg isOr, if_neg isOr]
        exact reads.found }

/-! ## The walk -/

def searching : Visitor AlternativeSearch := ⟨enter, leave⟩

/-- Where each child adds itself, reading all of them one after the other notes all with their parent. -/
theorem visitAll_reads {cls : NodeClass} {context : Context} {named : List (String × Node)}
    (each : ∀ held ∈ named, ∀ before : AlternativeSearch, before.IsNumbered →
      Adds before (searching.visit ⟨held.2, some ⟨cls, held.1⟩⟩ context before) ⟨held.2, some ⟨cls, held.1⟩⟩)
    (numbered : before.IsNumbered) {parent : OpenNode} {outer : List OpenNode}
    (opened : before.opened = parent :: outer) :
    let after := searching.visitAll (named.map fun (argument, child) => ⟨child, some ⟨cls, argument⟩⟩) context before
    ∃ marks, Reads before after (named.map Prod.snd) marks ∧
      after.opened = { parent with children := parent.children ++ noted named marks } :: outer := by
  induction named generalizing before parent with
  | nil =>
      refine ⟨[], .nil before, ?_⟩
      rw [noted, List.zipWith_nil_right, List.append_nil]
      exact opened
  | cons held rest ih =>
      obtain ⟨first, others⟩ := List.forall_mem_cons.mp each
      obtain ⟨own, reads, isNoted⟩ := first before numbered
      rw [opened] at isNoted
      obtain ⟨marks, readsRest, openedRest⟩ := ih others (reads.isNumbered numbered) isNoted
      refine ⟨(before.entered, own) :: marks, reads.cons readsRest, openedRest.trans ?_⟩
      rw [List.append_assoc]
      rfl

theorem visit_adds {o : Occurrence} (own : o.isResultColumn = false) (context : Context)
    (numbered : before.IsNumbered) : Adds before (searching.visit o context before) o := by
  induction size : o.node.size using Nat.strongRecOn generalizing o context before with
  | ind _ ih =>
      have entered := numbered.openNode o.slot?
      have enters : searching.enter o o.node.cls.kind (context.entering o.node.cls.kind) before = _ :=
        enter_own o (context.entering o.node.cls.kind) before
      -- A sealed node has no children to read, and the number and set of any other's are new.
      obtain ⟨marks, reads, opened⟩ : ∃ marks,
          let after := if !o.node.cls.isSealed then
              searching.visitAll o.children (context.entering o.node.cls.kind) (before.openNode o.slot?)
            else before.openNode o.slot?
          Reads (before.openNode o.slot?) after ((read o.node).map Prod.snd) marks ∧
            after.opened = ⟨before.entered, noted (read o.node) marks⟩ ::
              note o.slot? before.entered before.opened := by
        cases isOpen : o.node.cls.isSealed with
        | true => exact ⟨[], by rw [read, if_pos isOpen]; exact .nil _, by rw [read, if_pos isOpen]; rfl⟩
        | false =>
            rw [read, if_neg (Bool.eq_false_iff.mp isOpen)]
            refine visitAll_reads (fun held mem between numbered => ?_) entered rfl
            have isChild : ⟨held.2, some ⟨o.node.cls, held.1⟩⟩ ∈ o.children := List.mem_map_of_mem mem
            exact ih _ (size ▸ Occurrence.size_lt_of_mem_children isChild)
              (Occurrence.children_own_kind isOpen isChild) _ numbered rfl
      rw [searching.visit_of_own_kind own]
      simp only [enters]
      exact leave_adds numbered reads opened (context.entering o.node.cls.kind)

end AlternativeSearch

/-- Every `OR` that is reached is left once, with the outermost columns of its operands. -/
theorem Node.alternatives_perm (condition : Node) : condition.alternatives.Perm condition.comparisons := by
  have start : ({} : AlternativeSearch).IsNumbered := List.forall_mem_nil _
  obtain ⟨own, reads, -⟩ :=
    @AlternativeSearch.visit_adds {} ⟨condition, none⟩ rfl .root start
  have found := reads.found
  rw [List.flatMap_singleton, List.append_nil] at found
  rw [alternatives, walk_eq_visit]
  exact found

end SqlAdvisor
