import Mathlib.Data.List.Basic
import SqlAdvisor.Report.Html

/-! # Tags come from markup

A tag reaches from a `<` to the next `>`. Escaped data has neither character. A page whose pieces of markup leave
no tag open has therefore the tags of its markup, in order, and no others.
-/

namespace SqlAdvisor

namespace Html

/-! ## Tags -/

/-- How far a text is read: its tags so far, and what is read of one that is not yet closed. -/
structure TagScan where
  tags : List String := []
  opened? : Option (List Char) := none

namespace TagScan

def read (scan : TagScan) (c : Char) : TagScan :=
  match scan.opened? with
  | none => if c = '<' then { scan with opened? := some ['<'] } else scan
  | some begun =>
    if c = '>' then { tags := scan.tags ++ [String.ofList (begun ++ ['>'])] }
    else { scan with opened? := some (begun ++ [c]) }

def ofText (s : String) : TagScan := s.toList.foldl read {}

theorem foldl_read (earlier : List String) (scan : TagScan) (cs : List Char) :
    cs.foldl read { scan with tags := earlier ++ scan.tags } =
      { cs.foldl read scan with tags := earlier ++ (cs.foldl read scan).tags } := by
  induction cs generalizing scan with
  | nil => rfl
  | cons c rest ih =>
      have step : read { scan with tags := earlier ++ scan.tags } c =
          { read scan c with tags := earlier ++ (read scan c).tags } := by
        simp only [read]
        split <;> split <;> simp
      rw [List.foldl_cons, List.foldl_cons, step, ih]

end TagScan

def tags (s : String) : List String := (TagScan.ofText s).tags

/-- The text leaves no tag open. -/
def IsClosed (s : String) : Prop := (TagScan.ofText s).opened? = none

instance (s : String) : Decidable (IsClosed s) := inferInstanceAs (Decidable (_ = none))

variable {s t : String}

theorem ofText_append (closed : IsClosed s) :
    TagScan.ofText (s ++ t) = { TagScan.ofText t with tags := tags s ++ tags t } := by
  have after : TagScan.ofText s = { tags := tags s, opened? := none } := congrArg (TagScan.mk (tags s)) closed
  rw [TagScan.ofText, String.toList_append, List.foldl_append, ← TagScan.ofText, after]
  have later := TagScan.foldl_read (tags s) {} t.toList
  simp only [List.append_nil] at later
  exact later

theorem tags_append (closed : IsClosed s) : tags (s ++ t) = tags s ++ tags t := by
  rw [tags, ofText_append closed]

theorem IsClosed.append (closed : IsClosed s) (next : IsClosed t) : IsClosed (s ++ t) := by
  rw [IsClosed, ofText_append closed]
  exact next

theorem ofText_plain (plain : '<' ∉ s.toList) : TagScan.ofText s = {} := by
  rw [TagScan.ofText]
  generalize s.toList = cs at plain
  induction cs with
  | nil => rfl
  | cons c rest ih =>
      obtain ⟨other, plain⟩ := not_or.mp (mt List.mem_cons.mpr plain)
      have step : TagScan.read {} c = {} := if_neg (Ne.symm other)
      rw [List.foldl_cons, step, ih plain]

theorem tags_plain (plain : '<' ∉ s.toList) : tags s = [] := by
  rw [tags, ofText_plain plain]

theorem isClosed_plain (plain : '<' ∉ s.toList) : IsClosed s := by
  rw [IsClosed, ofText_plain plain]

/-! ## Angle brackets -/

/-- The `<` and `>` of a text, in order. -/
def angles (s : String) : List Char := s.toList.filter fun c => c = '<' || c = '>'

@[simp] theorem angles_append : angles (s ++ t) = angles s ++ angles t := by
  rw [angles, String.toList_append, List.filter_append]
  rfl

theorem not_mem_of_angles (none : angles s = []) : '<' ∉ s.toList :=
  fun mem => List.filter_eq_nil_iff.mp none '<' mem rfl

theorem filter_escapeChar (c : Char) : (escapeChar c).filter (fun c => c = '<' || c = '>') = [] := by
  unfold escapeChar
  split
  case h_6 _ _ opens closes _ _ => simpa using ⟨opens, closes⟩
  all_goals decide

theorem angles_escape (s : String) : angles (escape s) = [] := by
  rw [angles, escape, String.toList_ofList, List.filter_flatMap, List.flatMap_eq_nil_iff]
  exact fun c _ => filter_escapeChar c

/-! ## Pages -/

/-- The piece without its data. -/
def blank : Html → Html
  | markup s => markup s
  | data _ => data ""

/-- A page without its data: the template that it fills. -/
def template (lines : List (List Html)) : List (List Html) := lines.map (List.map blank)

def ownTags : Html → List String
  | markup s => tags s
  | data _ => []

def ownAngles : Html → List Char
  | markup s => angles s
  | data _ => []

def ClosesTags : Html → Prop
  | markup s => IsClosed s
  | data _ => True

instance : (piece : Html) → Decidable piece.ClosesTags
  | markup s => inferInstanceAs (Decidable (IsClosed s))
  | data _ => inferInstanceAs (Decidable True)

/-- Markup on the page leaves no tag open. -/
def PageCloses (lines : List (List Html)) : Prop := ∀ line ∈ lines, ∀ piece ∈ line, piece.ClosesTags

instance (lines : List (List Html)) : Decidable (PageCloses lines) :=
  inferInstanceAs (Decidable (∀ line ∈ lines, ∀ piece ∈ line, piece.ClosesTags))

theorem angles_render (piece : Html) : angles piece.render = piece.ownAngles := by
  cases piece with
  | markup s => rfl
  | data s => exact angles_escape s

theorem tags_render (piece : Html) : tags piece.render = piece.ownTags := by
  cases piece with
  | markup s => rfl
  | data s => exact tags_plain (not_mem_of_angles (angles_escape s))

theorem ClosesTags.render {piece : Html} (closes : piece.ClosesTags) : IsClosed piece.render := by
  cases piece with
  | markup s => exact closes
  | data s => exact isClosed_plain (not_mem_of_angles (angles_escape s))

theorem angles_renderLine (line : List Html) : angles (renderLine line) = line.flatMap ownAngles := by
  rw [renderLine]
  induction line with
  | nil => rfl
  | cons piece rest ih => rw [List.map_cons, String.join_cons, angles_append, ih, angles_render, List.flatMap_cons]

theorem tags_renderLine {line : List Html} (closes : ∀ piece ∈ line, piece.ClosesTags) :
    tags (renderLine line) = line.flatMap ownTags ∧ IsClosed (renderLine line) := by
  rw [renderLine]
  induction line with
  | nil => exact ⟨rfl, rfl⟩
  | cons piece rest ih =>
      obtain ⟨first, others⟩ := List.forall_mem_cons.mp closes
      obtain ⟨tagsRest, closedRest⟩ := ih others
      rw [List.map_cons, String.join_cons, tags_append first.render, tagsRest, tags_render, List.flatMap_cons]
      exact ⟨rfl, first.render.append closedRest⟩

theorem angles_renderPage (lines : List (List Html)) :
    angles (renderPage lines) = lines.flatten.flatMap ownAngles := by
  rw [renderPage]
  induction lines with
  | nil => rfl
  | cons line rest ih =>
      rw [List.flatten_cons, List.flatMap_append, ← ih, ← angles_renderLine]
      cases rest with
      | nil => exact (List.append_nil _).symm
      | cons next rest =>
          rw [List.map_cons, List.map_cons, String.intercalate_cons_cons, angles_append, angles_append]
          exact congrArg (· ++ _) (List.append_nil _)

/-- The tags of a page are those of its markup, if that leaves none open. -/
theorem tags_renderPage {lines : List (List Html)} (closes : PageCloses lines) :
    tags (renderPage lines) = lines.flatten.flatMap ownTags := by
  rw [renderPage]
  induction lines with
  | nil => rfl
  | cons line rest ih =>
      obtain ⟨first, others⟩ := List.forall_mem_cons.mp closes
      obtain ⟨tagsLine, closedLine⟩ := tags_renderLine first
      rw [List.flatten_cons, List.flatMap_append, ← ih others, ← tagsLine]
      cases rest with
      | nil => simp [tags_plain]
      | cons next rest =>
          have closedBreak : IsClosed "\n" := rfl
          rw [List.map_cons, List.map_cons, String.intercalate_cons_cons, tags_append (closedLine.append closedBreak),
            tags_append closedLine]
          exact congrArg (· ++ _) (List.append_nil _)

/-! ## Templates -/

section Templates

variable {lines : List (List Html)}

@[simp] theorem template_append (others : List (List Html)) :
    template (lines ++ others) = template lines ++ template others :=
  List.map_append

@[simp] theorem template_fixed (written : List String) : template (fixed written) = fixed written := by
  simp [template, fixed, blank]

@[simp] theorem map_blank_within (start finish : String) (content : List Html) :
    (within start content finish).map blank = within start (content.map blank) finish := by
  simp [within, blank]

theorem map_blank_tableRow (start finish : String) (cells : List String) :
    (tableRow start finish cells).map blank = tableRow start finish (List.replicate cells.length "") := by
  rw [tableRow, tableRow, map_blank_within, List.map_flatMap, ← List.map_const', List.flatMap_map]
  simp only [map_blank_within]
  rfl

@[simp] theorem pageCloses_append {others : List (List Html)} :
    PageCloses (lines ++ others) ↔ PageCloses lines ∧ PageCloses others :=
  List.forall_mem_append

theorem pageCloses_singleton {line : List Html} : PageCloses [line] ↔ ∀ piece ∈ line, piece.ClosesTags :=
  List.forall_mem_singleton

theorem pageCloses_replicate {line : List Html} (closes : ∀ piece ∈ line, piece.ClosesTags) (count : Nat) :
    PageCloses (List.replicate count line) := by
  intro other mem
  rw [List.eq_of_mem_replicate mem]
  exact closes

theorem pageCloses_flatMap {α : Type} {items : List α} {page : α → List (List Html)}
    (closes : ∀ item ∈ items, PageCloses (page item)) : PageCloses (items.flatMap page) := by
  intro line mem
  obtain ⟨item, held, among⟩ := List.mem_flatMap.mp mem
  exact closes item held line among

theorem closesTags_tableRow {start finish : String} (starts : IsClosed start) (finishes : IsClosed finish)
    (cells : List String) : ∀ piece ∈ tableRow start finish cells, piece.ClosesTags := by
  have begun : IsClosed "<tr>" := by decide
  have ended : IsClosed "</tr>" := by decide
  simp only [tableRow, within, List.mem_append, List.mem_singleton, List.mem_flatMap]
  rintro piece ((rfl | ⟨cell, -, (rfl | rfl) | rfl⟩) | rfl)
  · exact begun
  · exact starts
  · trivial
  · exact finishes
  · exact ended

/-- The text is the template with data in its empty places. -/
def Fills (text : String) (empty : List (List Html)) : Prop :=
  ∃ lines, text = renderPage lines ∧ template lines = empty

theorem ownAngles_blank (piece : Html) : piece.blank.ownAngles = piece.ownAngles := by
  cases piece <;> rfl

theorem ownTags_blank (piece : Html) : piece.blank.ownTags = piece.ownTags := by
  cases piece <;> rfl

theorem closesTags_blank (piece : Html) : piece.blank.ClosesTags ↔ piece.ClosesTags := by
  cases piece <;> rfl

/-- What does not depend on data, a page has from its template. -/
theorem flatMap_template {α : Type} {own : Html → List α} (markupOnly : ∀ piece : Html, own piece.blank = own piece)
    (lines : List (List Html)) : (template lines).flatten.flatMap own = lines.flatten.flatMap own := by
  rw [template, ← List.map_flatten, List.flatMap_map]
  exact List.flatMap_congr fun piece _ => markupOnly piece

theorem pageCloses_template : PageCloses (template lines) ↔ PageCloses lines := by
  simp [PageCloses, template, closesTags_blank]

variable {text : String} {empty : List (List Html)}

theorem Fills.angles_eq (fills : Fills text empty) : angles text = empty.flatten.flatMap ownAngles := by
  obtain ⟨lines, rfl, rfl⟩ := fills
  rw [angles_renderPage, flatMap_template ownAngles_blank]

theorem Fills.tags_eq (fills : Fills text empty) (closes : PageCloses empty) :
    tags text = empty.flatten.flatMap ownTags := by
  obtain ⟨lines, rfl, rfl⟩ := fills
  rw [tags_renderPage (pageCloses_template.mp closes), flatMap_template ownTags_blank]

end Templates

end Html

end SqlAdvisor
