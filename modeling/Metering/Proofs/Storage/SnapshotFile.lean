/-
Where a snapshot has been written to a file, the file holds it, and the next snapshot can be
written there too: the directories are there by then, and nothing stands in the way.
-/

import Metering.Proofs.Files
import Metering.Proofs.Storage.Snapshot
import Metering.Storage.SnapshotFile

namespace Metering.SnapshotFile

/-- A snapshot of any contents can be written to a path. -/
def Writable [Gzip.Deflater] (path : Path) (files : Files) : Prop :=
  ∀ contents, (write path contents files).1 = .ok ()

/-- What a replacement needs once the directories are made. -/
structure Ready (path : Path) (files : Files) : Prop where
  named : path.onlyDirectory = false
  above : files.checkAbove path = .ok ()
  free : files.IsFree path
  besideFree : files.IsFree (temporary path)

/-! ### The file beside the target -/

theorem temporary_of_bare_nil {path : Path} (isRoot : path.bare = []) : temporary path = [] := by
  rw [temporary, Path.withEnding, isRoot]
  rfl

theorem exists_temporary {path front : Path} {name : String}
    (isBare : path.bare = front ++ [name]) :
    ∃ other, temporary path = front ++ [other] ∧ other ≠ "." := by
  rw [temporary, Path.withEnding, Path.parent, isBare, List.getLast?_concat, List.dropLast_concat]
  dsimp only
  split
  · next isUp => exact ⟨name, rfl, by rw [isUp]; decide⟩
  · refine ⟨_, rfl, fun same => ?_⟩
    have sameLength := congrArg String.length same
    rw [String.length_append, String.length_append] at sameLength
    have endingLength : "tmp".length = 3 := rfl
    have dotLength : ".".length = 1 := rfl
    omega

theorem above_temporary (path : Path) : (temporary path).above = path.bare.above := by
  rcases List.eq_nil_or_concat' path.bare with isRoot | ⟨front, name, isBare⟩
  · rw [temporary_of_bare_nil isRoot, isRoot]
  · obtain ⟨other, isTemporary, _⟩ := exists_temporary isBare
    rw [isTemporary, isBare, Path.above_concat, Path.above_concat]

theorem length_temporary (path : Path) : (temporary path).length = path.bare.length := by
  rcases List.eq_nil_or_concat' path.bare with isRoot | ⟨front, name, isBare⟩
  · rw [temporary_of_bare_nil isRoot, isRoot]
  · obtain ⟨other, isTemporary, _⟩ := exists_temporary isBare
    rw [isTemporary, isBare, List.length_append, List.length_append, List.length_singleton,
      List.length_singleton]

theorem onlyDirectory_temporary {path : Path} (named : path.onlyDirectory = false) :
    (temporary path).onlyDirectory = false := by
  have isBare := Path.bare_of_named named
  rcases List.eq_nil_or_concat' path with rfl | ⟨front, name, isConcat⟩
  · cases named
  · obtain ⟨other, isTemporary, notDot⟩ := exists_temporary (isBare.trans isConcat)
    rw [isTemporary, Path.onlyDirectory, List.getLast?_concat]
    simp [notDot]

/-- The file beside the target is not a directory above it. -/
theorem ne_temporary_of_lt {path directory : Path} (above : directory.length < path.bare.length) :
    directory ≠ temporary path := by
  rintro rfl
  rw [length_temporary] at above
  exact Nat.lt_irrefl _ above

/-! ### The steps of a replacement -/

/-- The files when a content stands beside the target. -/
def besideOf (path : Path) (content : Bytes) (files : Files) : Files :=
  files.put (temporary path) (.file content)

/-- The files when a content has taken the place of the target. -/
def replacedBy (path : Path) (content : Bytes) (files : Files) : Files :=
  ((besideOf path content files).remove (temporary path)).put path (.file content)

variable {path : Path} {content : Bytes} {files : Files}

theorem node?_besideOf_self {other : Path} (same : other = temporary path) :
    (besideOf path content files).node? other = some (.file content) := by
  rw [same]
  exact Files.node?_put _ _ _

theorem node?_besideOf_other {other : Path} (different : other ≠ temporary path) :
    (besideOf path content files).node? other = files.node? other :=
  Files.node?_put_other _ _ different

theorem checkAbove_besideOf (above : files.checkAbove path.bare = .ok ()) :
    (besideOf path content files).checkAbove path.bare = .ok () :=
  Files.checkAbove_of_same above fun _ shorter =>
    node?_besideOf_other (ne_temporary_of_lt shorter)

theorem read_besideOf (above : files.checkAbove path.bare = .ok ()) :
    (besideOf path content files).read (temporary path) = .ok content := by
  refine Files.read_of_node? ?_ (node?_besideOf_self rfl)
  rw [Files.checkAbove, above_temporary]
  exact checkAbove_besideOf above

theorem append_besideOf (above : files.checkAbove path.bare = .ok ()) (piece : Bytes) :
    Files.Step.apply (.append (temporary path) piece) (besideOf path content files) =
      .ok (besideOf path (content ++ piece) files) := by
  rw [Files.Step.apply, read_besideOf above]
  exact congrArg Except.ok (Files.put_put _ _ _ _)

/-- The pieces of a content are put together beside the target. -/
theorem run_pieces (above : files.checkAbove path.bare = .ok ()) (pieces : List Bytes) :
    (besideOf path content files).run (pieces.map (.append (temporary path))) =
      (.ok (), besideOf path (content ++ pieces.flatten) files) := by
  induction pieces generalizing content with
  | nil => rw [List.flatten_nil, List.append_nil]; rfl
  | cons piece rest inductionHypothesis =>
    rw [List.map_cons, Files.run, append_besideOf above]
    exact inductionHypothesis.trans (by rw [List.flatten_cons, List.append_assoc])

theorem isFree_besideOf (free : files.IsFree path) : (besideOf path content files).IsFree path := by
  rintro ⟨mode, isThere⟩
  by_cases same : path = temporary path
  · rw [node?_besideOf_self same] at isThere
    cases isThere
  · rw [node?_besideOf_other same] at isThere
    exact free ⟨mode, isThere⟩

/-! ### Files after a replacement -/

section

variable (named : path.onlyDirectory = false) (above : files.checkAbove path = .ok ())

include named above

theorem checkAbove_replacedBy : (replacedBy path content files).checkAbove path = .ok () := by
  have isBare := Path.bare_of_named named
  refine Files.checkAbove_of_same above fun directory shorter => ?_
  have notTemporary : directory ≠ temporary path := ne_temporary_of_lt (isBare.symm ▸ shorter)
  have notTarget : directory ≠ path := fun same => Nat.lt_irrefl _ (same ▸ shorter)
  rw [replacedBy, Files.node?_put_other _ _ notTarget, Files.node?_remove_other _ notTemporary,
    node?_besideOf_other notTemporary]

theorem read_replacedBy : (replacedBy path content files).read path = .ok content :=
  Files.read_of_node? (checkAbove_replacedBy named above) (Files.node?_put _ _ _)

theorem ready_replacedBy : Ready path (replacedBy path content files) where
  named := named
  above := checkAbove_replacedBy named above
  free := Files.isFree_of_file (Files.node?_put _ _ _)
  besideFree := by
    by_cases same : temporary path = path
    · rw [same]
      exact Files.isFree_of_file (Files.node?_put _ _ _)
    · rintro ⟨mode, isThere⟩
      rw [replacedBy, Files.node?_put_other _ _ same, Files.node?_remove_self] at isThere
      cases isThere

end

/-! ### Whole replacements -/

theorem replacement_eq (path : Path) (pieces : List Bytes) :
    replacement path pieces =
      .makeDirectories privateMode path.parent :: .create (temporary path) ::
        (pieces.map (.append (temporary path)) ++ [.rename (temporary path) path]) := by
  rw [replacement, List.append_assoc]
  rfl

theorem makeDirectories_of_above (named : path.onlyDirectory = false)
    (above : files.checkAbove path = .ok ()) :
    Files.Step.apply (.makeDirectories privateMode path.parent) files = .ok files := by
  refine Files.makeAll_of_directories privateMode fun directory member => ?_
  rw [Files.checkAbove_ok_iff] at above
  exact above directory (Path.bare_of_named named ▸ Path.mem_above_of_mem_row_parent member)

theorem create_besideOf (ready : Ready path files) :
    files.create (temporary path) = .ok (besideOf path [] files) := by
  have isBare := Path.bare_of_named ready.named
  refine Files.create_of_free (onlyDirectory_temporary ready.named) ?_ ready.besideFree
  rw [Files.checkAbove, above_temporary, isBare]
  exact ready.above

/-- Where all is ready a content takes the place of the target. -/
theorem run_of_ready (ready : Ready path files) (pieces : List Bytes) :
    files.run (replacement path pieces) = (.ok (), replacedBy path pieces.flatten files) := by
  have isBare := Path.bare_of_named ready.named
  have bareAbove : files.checkAbove path.bare = .ok () := isBare.symm ▸ ready.above
  have stillAbove : (besideOf path pieces.flatten files).checkAbove path = .ok () := by
    have unchanged : (besideOf path pieces.flatten files).checkAbove path.bare = .ok () :=
      checkAbove_besideOf bareAbove
    rwa [isBare] at unchanged
  have renamed := Files.rename_of_free (read_besideOf bareAbove) ready.named stillAbove
    (isFree_besideOf ready.free)
  rw [replacement_eq, Files.run, makeDirectories_of_above ready.named ready.above]
  dsimp only
  rw [Files.run, Files.Step.apply, create_besideOf ready]
  dsimp only
  rw [Files.run_append (run_pieces bareAbove pieces), List.nil_append, Files.run,
    Files.Step.apply, renamed]
  rfl

/-- A replacement that succeeds comes to the same, once it has made the directories. -/
theorem of_run {pieces : List Bytes} {after : Files}
    (done : files.run (replacement path pieces) = (.ok (), after)) :
    ∃ made : Files, path.onlyDirectory = false ∧ made.checkAbove path = .ok () ∧
      after = replacedBy path pieces.flatten made := by
  rw [replacement_eq] at done
  obtain ⟨made, _, others⟩ := Files.run_cons_ok done
  obtain ⟨created, isCreated, others⟩ := Files.run_cons_ok others
  obtain ⟨_, above, _, rfl⟩ := Files.create_ok isCreated
  rw [Files.checkAbove, above_temporary] at above
  have pieced : (made.put (temporary path) (.file [])).run
      (pieces.map (.append (temporary path))) = (.ok (), besideOf path pieces.flatten made) :=
    run_pieces above pieces
  rw [Files.run_append pieced] at others
  obtain ⟨renamed, isRenamed, same⟩ := Files.run_cons_ok others
  obtain ⟨found, isFound, named, _, _, rfl⟩ := Files.rename_ok isRenamed
  obtain rfl := Except.ok.inj ((read_besideOf above).symm.trans isFound)
  exact ⟨made, named, Path.bare_of_named named ▸ above, (Prod.mk.inj same).2.symm⟩

/-! ### Writing snapshots -/

section

variable [Gzip.Deflater]

theorem run_of_write {contents : Contents} {after : Files}
    (done : write path contents files = (.ok (), after)) :
    files.run (replacement path [Snapshot.encode contents]) = (.ok (), after) := by
  rw [write] at done
  split at done
  · next written ran => rw [ran, (Prod.mk.inj done).2]
  · cases done

theorem writable_of_ready (ready : Ready path files) : Writable path files := by
  intro contents
  rw [write, run_of_ready ready]

theorem writable_empty (name : String) (notDot : name ≠ ".") :
    Writable [name] Files.empty := by
  refine writable_of_ready ⟨?_, rfl, (nomatch ·.choose_spec), (nomatch ·.choose_spec)⟩
  rw [Path.onlyDirectory, List.getLast?_singleton]
  simp [notDot]

/-- The file holds what was written to it last, and can be written to again. -/
theorem of_write {contents : Contents} {after : Files}
    (done : write path contents files = (.ok (), after)) :
    after.read path = .ok (Snapshot.encode contents) ∧ Writable path after := by
  obtain ⟨made, named, above, rfl⟩ := of_run (run_of_write done)
  rw [List.flatten_singleton]
  exact ⟨read_replacedBy named above, writable_of_ready (ready_replacedBy named above)⟩

theorem read_of_writable (writable : Writable path files) (contents : Contents) :
    (write path contents files).2.read path = .ok (Snapshot.encode contents) :=
  (of_write (Prod.ext (writable contents) rfl)).1

/-- What was written is read back. -/
theorem read_of_read [Gzip.LawfulDeflater] {contents : Contents} (fits : Snapshot.Fits contents)
    (held : files.read path = .ok (Snapshot.encode contents)) :
    read path files = .ok (some contents) := by
  rw [read, held]
  dsimp only
  rw [Snapshot.decode_encode fits]
  rfl

end

end Metering.SnapshotFile
