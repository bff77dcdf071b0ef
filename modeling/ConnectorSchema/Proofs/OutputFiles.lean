import ConnectorSchema.Proofs.DirectoryMaking
import ConnectorSchema.Proofs.Lines

/-!
The two files of a connector, its target and its draft. Their names tell the connector and which of the
two it is, so no connector has a file of another one's, and none of them is a document.
-/

namespace ConnectorSchema

namespace Path

/-- The name of a connector's generated file. -/
def targetName (kind : EntityKind) (code : String) : String :=
  kind.name ++ "_" ++ code ++ "." ++ outputExtension

/-- The name of the file with a text that was rejected. -/
def draftName (kind : EntityKind) (code : String) : String := draft (targetName kind code)

/-- The names of a connector's two files. -/
def fileNames (kind : EntityKind) (code : String) : List String :=
  [targetName kind code, draftName kind code]

section

variable {kind kind' : EntityKind} {code code' dir : String}

theorem output_eq : output dir kind code = join dir (targetName kind code) := rfl

theorem draft_join (dir name : String) : draft (join dir name) = join dir (draft name) := by
  unfold join draft
  split
  · rfl
  · split
    · rw [String.append_assoc]
    · rw [String.append_assoc]

theorem draft_output : draft (output dir kind code) = join dir (draftName kind code) := draft_join _ _

theorem toList_targetName (kind : EntityKind) (code : String) :
    (targetName kind code).toList = kind.name.toList ++ '_' :: (code.toList ++ ".go".toList) := by
  simp [targetName, outputExtension]

theorem toList_draftName (kind : EntityKind) (code : String) :
    (draftName kind code).toList = (targetName kind code).toList ++ ".unformatted".toList := by
  rw [draftName, draft, String.toList_append]

theorem notMem_kindName (kind : EntityKind) : '_' ∉ kind.name.toList ∧ '/' ∉ kind.name.toList := by
  cases kind <;> decide

theorem targetName_injective (same : targetName kind code = targetName kind' code') :
    kind = kind' ∧ code = code' := by
  have letters := congrArg String.toList same
  rw [toList_targetName, toList_targetName] at letters
  obtain ⟨names, rest⟩ :=
    Go.cut_unique (notMem_kindName kind).1 (notMem_kindName kind').1 letters
  refine ⟨?_, String.toList_inj.mp (List.append_cancel_right rest)⟩
  revert names
  cases kind <;> cases kind' <;> decide

theorem draftName_injective (same : draftName kind code = draftName kind' code') :
    kind = kind' ∧ code = code' := by
  refine targetName_injective (String.toList_inj.mp ?_)
  have letters := congrArg String.toList same
  rw [toList_draftName, toList_draftName] at letters
  exact List.append_cancel_right letters

/-- A target ends in another letter than a draft. -/
theorem targetName_ne_draftName : targetName kind code ≠ draftName kind' code' := by
  intro same
  have letters := congrArg (fun name => name.toList.getLast?) same
  rw [toList_draftName, toList_targetName] at letters
  simp [List.getLast?_append, List.getLast?_cons] at letters

theorem isEntryName_of_underscore {name : String} (underscore : '_' ∈ name.toList)
    (noSlash : '/' ∉ name.toList) : IsEntryName name := by
  have other {special : String} (without : '_' ∉ special.toList) : name ≠ special :=
    fun same => without (same ▸ underscore)
  exact ⟨other (by decide), other (by decide), other (by decide), noSlash⟩

theorem isEntryName_targetName (noSlash : '/' ∉ code.toList) : IsEntryName (targetName kind code) := by
  refine isEntryName_of_underscore (by simp [toList_targetName]) ?_
  rw [toList_targetName]
  simp [(notMem_kindName kind).2, noSlash]

theorem isEntryName_draftName (noSlash : '/' ∉ code.toList) : IsEntryName (draftName kind code) := by
  refine isEntryName_of_underscore (by simp [toList_draftName, toList_targetName]) ?_
  rw [toList_draftName, toList_targetName]
  simp [(notMem_kindName kind).2, noSlash]

/-- No connector has a file of another one's. -/
theorem disjoint_fileNames (different : (kind, code) ≠ (kind', code')) :
    (fileNames kind code).Disjoint (fileNames kind' code') := by
  have apart (same : kind = kind' ∧ code = code') : False :=
    different (Prod.ext same.1 same.2)
  intro name mine its
  simp only [fileNames, List.mem_cons, List.not_mem_nil, or_false] at mine its
  rcases mine with rfl | rfl
  · rcases its with same | same
    · exact apart (targetName_injective same)
    · exact targetName_ne_draftName same
  · rcases its with same | same
    · exact targetName_ne_draftName same.symm
    · exact apart (draftName_injective same)

/-- No document is a file of a connector. -/
theorem documentName_notMem_fileNames : documentName ∉ fileNames kind code := by
  have without : '_' ∉ documentName.toList := by decide
  intro member
  simp only [fileNames, List.mem_cons, List.not_mem_nil, or_false] at member
  rcases member with same | same
  · exact without (same ▸ by simp [toList_targetName])
  · exact without (same ▸ by simp [toList_draftName, toList_targetName])

end

end Path

end ConnectorSchema
