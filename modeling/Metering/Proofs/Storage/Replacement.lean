/-
What is seen of a replacement from outside. All of its steps but the last touch only the file
beside the target, or make directories above a target that is not there. So wherever it is
interrupted, by a step that fails or by the end of the process, the target reads as it did before,
and after the last step it reads as what was written. This needs the file beside the target to be
another one. For a target with the ending of that file it is the target itself, which is then
emptied first and lost if the replacement does not get to its end.
-/

import Metering.Proofs.Storage.SnapshotFile

namespace Metering.SnapshotFile

/-- The file that is written first is not the target, and the names of the target lead down. -/
structure Separate (path : Path) : Prop where
  apart : temporary path ≠ path.bare
  down : ".." ∉ path

variable {path : Path} {files : Files}

/-! ### Steps before the last -/

theorem Separate.ne_temporary (separate : Separate path) : path ≠ temporary path := by
  intro same
  rcases path.onlyDirectory_cases with rfl | isDot | ⟨_, isBare⟩
  · exact separate.apart (temporary_of_bare_nil rfl)
  · have sameLength := congrArg List.length same
    rw [length_temporary] at sameLength
    have longer := congrArg List.length isDot
    rw [List.length_append, List.length_singleton] at longer
    omega
  · exact separate.apart (same.symm.trans isBare.symm)

theorem Separate.temporary_not_above (separate : Separate path) : temporary path ∉ path.above := by
  have notAboveBare : temporary path ∉ path.bare.above := fun member => by
    have shorter := Path.length_lt_of_mem_above member
    rw [length_temporary] at shorter
    exact Nat.lt_irrefl _ shorter
  rcases path.onlyDirectory_cases with isRoot | isDot | ⟨_, isBare⟩
  · rw [isRoot]
    exact List.not_mem_nil
  · intro member
    rw [isDot, Path.mem_above_concat, ← isDot] at member
    exact member.2.elim notAboveBare separate.apart
  · rwa [isBare] at notAboveBare

/-- Whether a step only puts together the file beside a target. -/
def IsBeside (path : Path) (step : Files.Step) : Prop :=
  step = .create (temporary path) ∨ ∃ piece, step = .append (temporary path) piece

theorem IsBeside.read {step : Files.Step} {after : Files} (isBeside : IsBeside path step)
    (separate : Separate path) (done : step.apply files = .ok after) :
    after.read path = files.read path := by
  rcases isBeside with rfl | ⟨piece, rfl⟩
  · obtain ⟨_, _, _, rfl⟩ := Files.create_ok done
    exact Files.read_put _ separate.temporary_not_above separate.ne_temporary
  · rw [Files.Step.apply] at done
    cases isRead : files.read (temporary path) with
    | error problem => rw [isRead] at done; cases done
    | ok content =>
      rw [isRead] at done
      rw [← Except.ok.inj done]
      exact Files.read_put _ separate.temporary_not_above separate.ne_temporary

/-- What is put together beside a target is not seen at the target. -/
theorem read_of_beside (separate : Separate path) {steps : List Files.Step}
    (beside : ∀ step ∈ steps, IsBeside path step) :
    (files.run steps).2.read path = files.read path := by
  induction steps generalizing files with
  | nil => rfl
  | cons step rest inductionHypothesis =>
    obtain ⟨first, others⟩ := List.forall_mem_cons.mp beside
    rw [Files.run]
    cases applied : step.apply files with
    | error problem => rfl
    | ok changed => exact (inductionHypothesis others).trans (first.read separate applied)

/-- Directories that are made above a target are not seen at the target. -/
theorem read_of_makeDirectories (wellFormed : files.WellFormed) {place : Path}
    (isAbove : ∀ directory ∈ place.row, directory ∈ path.bare.above) {mode : Nat} {after : Files}
    (made : Files.Step.apply (.makeDirectories mode place) files = .ok after) :
    after.read path = files.read path :=
  Files.read_of_made wellFormed fun other =>
    (Files.makeAll_ok made other).imp_right fun ⟨inRow, others⟩ => ⟨isAbove other inRow, others⟩

theorem mem_above_of_mem_row {place directory : Path} (isMade : place ∈ path.parent.row)
    (inRow : directory ∈ place.row) : directory ∈ path.bare.above := by
  have placeAbove := Path.mem_above_of_mem_row_parent isMade
  rcases List.mem_append.mp (List.mem_filter.mp inRow).1 with upper | same
  · exact Path.mem_above_trans upper placeAbove
  · rwa [List.mem_singleton.mp same]

/-! ### Interrupted and whole replacements -/

/-- A replacement that is interrupted is not seen at the target. -/
theorem read_of_interrupted (wellFormed : files.WellFormed) (separate : Separate path)
    {pieces : List Bytes} {steps : List Files.Step}
    (isPrefix : steps <+: replacement path pieces) (unfinished : steps ≠ replacement path pieces) :
    (files.run steps).2.read path = files.read path := by
  rw [replacement, List.prefix_concat_iff] at isPrefix
  rcases isPrefix.resolve_left unfinished with isPrefix
  cases steps with
  | nil => rfl
  | cons step rest =>
    rw [List.cons_append] at isPrefix
    obtain ⟨rfl, restFirst⟩ := List.cons_prefix_cons.mp isPrefix
    have beside : ∀ step ∈ rest, IsBeside path step := fun step member => by
      rcases List.mem_cons.mp (restFirst.subset member) with isCreate | isAppend
      · exact Or.inl isCreate
      · obtain ⟨piece, _, isPiece⟩ := List.mem_map.mp isAppend
        exact Or.inr ⟨piece, isPiece.symm⟩
    rw [Files.run]
    cases made : Files.Step.apply (.makeDirectories privateMode path.parent) files with
    | error problem => rfl
    | ok changed =>
      exact (read_of_beside separate beside).trans (read_of_makeDirectories wellFormed
        (fun _ => Path.mem_above_of_mem_row_parent) made)

theorem run_of_write_error [Gzip.Deflater] {contents : Contents} {problem : StorageError}
    {after : Files} (failed : write path contents files = (.error problem, after)) :
    ∃ steps, steps <+: replacement path [Snapshot.encode contents] ∧
      steps ≠ replacement path [Snapshot.encode contents] ∧ files.run steps = (.ok (), after) := by
  rw [write] at failed
  split at failed
  · cases failed
  · next ran =>
    rw [← (Prod.mk.inj failed).2]
    exact Files.run_error ran

theorem read_congr {after : Files} (same : after.read path = files.read path) :
    read path after = read path files := by
  rw [read, read, same]

/-- What a target reads as while a snapshot is written to it, and afterwards. -/
structure Replaces [Gzip.Deflater] (path : Path) (files : Files) : Prop where
  /-- The target reads as before however many of the directories are made, -/
  directories : ∀ place ∈ path.parent.row, ∀ mode,
    read path (files.run [.makeDirectories mode place]).2 = read path files
  /-- and however far the steps get without the last, in whatever pieces the content comes. -/
  interrupted : ∀ pieces steps, steps <+: replacement path pieces →
    steps ≠ replacement path pieces → read path (files.run steps).2 = read path files
  failed : ∀ contents problem after, write path contents files = (.error problem, after) →
    read path after = read path files
  /-- Once all is done it reads as the snapshot. -/
  done : ∀ contents after, write path contents files = (.ok (), after) →
    Snapshot.Fits contents → read path after = .ok (some contents)

/-- A snapshot takes the place of the target in one step, if the file that is written first is
another one. -/
theorem replaces_of_separate [Gzip.Deflater] [Gzip.LawfulDeflater] {path : Path}
    (separate : Separate path) {files : Files} (wellFormed : files.WellFormed) :
    Replaces path files where
  directories place isMade mode := by
    rw [Files.run]
    cases made : Files.Step.apply (.makeDirectories mode place) files with
    | error problem => rfl
    | ok changed =>
      exact read_congr
        (read_of_makeDirectories wellFormed (fun _ => mem_above_of_mem_row isMade) made)
  interrupted pieces steps isPrefix unfinished :=
    read_congr (read_of_interrupted wellFormed separate isPrefix unfinished)
  failed contents problem after failed := by
    obtain ⟨steps, isPrefix, unfinished, left⟩ := run_of_write_error failed
    have same := read_of_interrupted wellFormed separate isPrefix unfinished
    rw [left] at same
    exact read_congr same
  done contents after done fits := read_of_read fits (of_write done).1

theorem replaces_of_separate_nested :
    Replaces ["state", "metrics.db"] (Files.empty.put ["state"] (.directory 0o700)) :=
  replaces_of_separate ⟨by decide, by decide⟩ (Files.wellFormed_empty.putDirectory rfl 0o700)

/-! ### Targets that are written first -/

/-- A target that is the file written first reads as no snapshot once that file is made. -/
theorem read_of_created (ready : Ready path files) (same : temporary path = path)
    (pieces : List Bytes) :
    read path (files.run ((replacement path pieces).take 2)).2 = .error .encode := by
  have isRead : (besideOf path [] files).read path = .ok [] := by
    have isBare := Path.bare_of_named ready.named
    have beside : (besideOf path [] files).read (temporary path) = .ok [] :=
      read_besideOf (isBare.symm ▸ ready.above)
    rwa [same] at beside
  have firstTwo : (replacement path pieces).take 2 =
      [.makeDirectories privateMode path.parent, .create (temporary path)] := by
    rw [replacement_eq]
    rfl
  rw [firstTwo, Files.run, makeDirectories_of_above ready.named ready.above]
  dsimp only
  rw [Files.run, Files.Step.apply, create_besideOf ready]
  dsimp only
  rw [Files.run, read, isRead]
  rfl

/-- A snapshot in a file with the ending of the file that is written first is lost if the next one
is interrupted. -/
theorem lost_if_interrupted :
    let files := Files.empty.put ["metrics.tmp"] (.file (Snapshot.encode .empty))
    let steps := (replacement ["metrics.tmp"] [Snapshot.encode .empty]).take 2
    read ["metrics.tmp"] files = .ok (some .empty) ∧
      read ["metrics.tmp"] (files.run steps).2 = .error .encode := by
  intro files steps
  have same : temporary ["metrics.tmp"] = ["metrics.tmp"] := by decide
  have free : files.IsFree ["metrics.tmp"] := Files.isFree_of_file (Files.node?_put _ _ _)
  exact ⟨read_of_read (by decide) rfl, read_of_created ⟨rfl, rfl, free, same.symm ▸ free⟩ same _⟩

/-- With a separator behind such a name the target cannot be written, and after the failure it does
not read as before. -/
theorem changed_by_failure :
    let contents : Contents := ⟨KeyMap.ofList [("a", 1)], KeyMap.empty⟩
    let written := write ["x.tmp", "."] contents Files.empty
    read ["x.tmp", "."] Files.empty = .ok none ∧ written.1 = .error .io ∧
      read ["x.tmp", "."] written.2 = .error .io :=
  ⟨rfl, rfl, rfl⟩

end Metering.SnapshotFile
