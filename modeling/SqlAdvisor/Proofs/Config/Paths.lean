import SqlAdvisor.Config.FileTree
import SqlAdvisor.Proofs.Steps

/-! # Paths that lead somewhere

A path is followed name by name. It leads to a place, or nowhere; of one thing that stops it a user is not told as of a
missing file: the path, or a name that is reached on its way, is too long.
-/

namespace SqlAdvisor

namespace FilePath

theorem pieces_eq_singleton {text : List Char} (unslashed : '/' ∉ text) : pieces text = [text] := by
  induction text with
  | nil => rfl
  | cons c rest ih =>
      obtain ⟨other, unslashed⟩ := List.ne_and_not_mem_of_not_mem_cons unslashed
      rw [pieces, if_neg (Ne.symm other), ih unslashed]

theorem rootOf_eq_empty {text : List Char} (unslashed : '/' ∉ text) : rootOf text = "" := by
  fun_cases rootOf text <;> simp_all

theorem ofText_name {name : String} (unslashed : '/' ∉ name.toList) (nonempty : name ≠ "") (undotted : name ≠ ".") :
    ofText name = ⟨"", [name]⟩ := by
  rw [ofText, rootOf_eq_empty unslashed, pieces_eq_singleton unslashed]
  simp [nonempty, undotted]

end FilePath

namespace FileTree

variable {files : FileTree} {path : FilePath}

/-- The path leads to a place. -/
def Leads (files : FileTree) (path : FilePath) : Prop := ∃ place, files.locate path = .ok place

/-- The path is too long, or a name that its way leads to is too long to be looked for. -/
def IsOverlong (files : FileTree) (path : FilePath) : Prop :=
  path.hasNull = false ∧
    (path.isTooLong = true ∨
      ∃ before name after here, path.parts = before ++ name :: after ∧ before.foldlM files.step path.start = .ok here ∧
        files.isDirectoryAt here = true ∧ FilePath.nameLimit < name.utf8ByteSize)

theorem step_eq_tooLong {here : FilePath} {name : String} : files.step here name = .error .tooLong ↔
    files.isDirectoryAt here = true ∧ FilePath.nameLimit < name.utf8ByteSize := by
  rw [step]
  by_cases directory : files.isDirectoryAt here = true
  · by_cases long : FilePath.nameLimit < name.utf8ByteSize
    · simp [directory, long]
    · have unstopped : ¬(!files.isDirectoryAt here) = true := by simp [directory]
      rw [if_neg unstopped, if_neg long]
      dsimp only
      split <;> simp [long]
  · simp [directory]

theorem checkText_eq_tooLong : checkText path = .error .tooLong ↔ path.hasNull = false ∧ path.isTooLong = true := by
  rw [checkText]
  cases path.hasNull <;> cases path.isTooLong <;> simp

theorem checkText_eq_ok : checkText path = .ok () ↔ path.hasNull = false ∧ path.isTooLong = false := by
  rw [checkText]
  cases path.hasNull <;> cases path.isTooLong <;> simp

theorem locate_eq_tooLong : files.locate path = .error .tooLong ↔ files.IsOverlong path := by
  have checked : (∃ passed, checkText path = .ok passed) ↔ path.hasNull = false ∧ path.isTooLong = false := by
    rw [← checkText_eq_ok]
    exact ⟨fun ⟨_, passes⟩ => passes, fun passes => ⟨(), passes⟩⟩
  rw [locate, Except.bind_eq_error, checkText_eq_tooLong, IsOverlong]
  simp only [exists_and_right, checked, Except.foldlM_eq_error, step_eq_tooLong]
  cases path.hasNull <;> cases path.isTooLong <;> simp

/-- Whether a path leads anywhere can be told unless it is overlong. -/
theorem holds_cases (files : FileTree) (path : FilePath) :
    files.Leads path ∧ files.holds path = .ok true ∨
      files.IsOverlong path ∧ files.holds path = .error .nameTooLong ∨
      ¬files.Leads path ∧ ¬files.IsOverlong path ∧ files.holds path = .ok false := by
  rw [Leads, ← locate_eq_tooLong, holds]
  cases files.locate path with
  | ok place => exact .inl ⟨⟨place, rfl⟩, rfl⟩
  | error fault => cases fault <;> simp

theorem IsOverlong.of_name {name : String} (unslashed : '/' ∉ name.toList) (bare : '\x00' ∉ name.toList)
    (long : FilePath.nameLimit < name.utf8ByteSize) (unlisted : files.contentAt? ⟨"", []⟩ = none) :
    files.IsOverlong (.ofText name) := by
  have nonempty : name ≠ "" := by
    rintro rfl
    exact absurd long (by decide)
  have undotted : name ≠ "." := by
    rintro rfl
    exact absurd long (by decide)
  have directory : files.isDirectoryAt ⟨"", []⟩ = true := by
    rw [isDirectoryAt, unlisted]
    rfl
  rw [FilePath.ofText_name unslashed nonempty undotted]
  refine ⟨?_, .inr ⟨[], name, [], _, rfl, rfl, directory, long⟩⟩
  simpa [FilePath.hasNull, FilePath.display] using bare

theorem IsOverlong.not_leads (long : files.IsOverlong path) : ¬files.Leads path := by
  rintro ⟨place, located⟩
  exact nomatch located.symm.trans (locate_eq_tooLong.mpr long)

theorem IsOverlong.holds_eq (long : files.IsOverlong path) : files.holds path = .error .nameTooLong := by
  rw [holds, locate_eq_tooLong.mpr long]

theorem Leads.of_read {found : FileContent} (reads : files.read path = .ok found) : files.Leads path := by
  rw [read, content] at reads
  cases located : files.locate path with
  | ok place => exact ⟨place, located⟩
  | error fault =>
      rw [located] at reads
      cases reads

theorem Leads.holds_eq (leads : files.Leads path) : files.holds path = .ok true := by
  obtain ⟨place, located⟩ := leads
  rw [holds, located]

end FileTree

end SqlAdvisor
