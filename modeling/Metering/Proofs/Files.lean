/-
What the operations on files come to. The nodes above a path have shorter paths than the path
itself, so what is put at a path, or taken away there, does not touch the directories above it.
-/

import Mathlib.Data.List.Basic
import Mathlib.Data.List.Induction
import Metering.Files

namespace Metering

namespace Path

theorem above_concat (front : Path) (name : String) :
    above (front ++ [name]) = if front.isEmpty then [] else above front ++ [front] := by
  have takes : ∀ count ∈ (List.range front.length).drop 1,
      (front ++ [name]).take count = front.take count := fun count member =>
    List.take_append_of_le_length (Nat.le_of_lt (List.mem_range.mp (List.mem_of_mem_drop member)))
  cases front with
  | nil => rfl
  | cons first rest =>
    have small : 1 ≤ (List.range (first :: rest).length).length := by
      rw [List.length_range, List.length_cons]
      omega
    rw [above, List.length_append, List.length_singleton, List.range_succ,
      List.drop_append_of_le_length small, List.map_append, List.map_congr_left takes,
      List.map_singleton, List.take_left', above]
    · rfl
    · rfl

/-- A path is the root's, or has a dot at its end, or leads to a name. -/
theorem onlyDirectory_cases (path : Path) :
    path = [] ∨ path = path.bare ++ ["."] ∨ path.onlyDirectory = false ∧ path.bare = path := by
  cases path using List.reverseRecOn with
  | nil => exact Or.inl rfl
  | append_singleton front name =>
    rw [bare, onlyDirectory, List.getLast?_concat, List.dropLast_concat]
    by_cases isDot : name = "."
    · subst isDot
      rw [if_pos rfl]
      exact Or.inr (Or.inl rfl)
    · have notDot : ¬ some name = some "." := fun same => isDot (Option.some.inj same)
      rw [if_neg notDot]
      exact Or.inr (Or.inr ⟨by simp [isDot], rfl⟩)

theorem bare_of_named {path : Path} (named : path.onlyDirectory = false) : path.bare = path := by
  rcases onlyDirectory_cases path with rfl | isDot | ⟨_, same⟩
  · rfl
  · rw [isDot, onlyDirectory, List.getLast?_concat] at named
    simp at named
  · exact same

theorem above_cons (name : String) (rest : Path) :
    above (name :: rest) = (List.range rest.length).map fun count => name :: rest.take count := by
  rw [above, List.length_cons, List.range_succ_eq_map, List.drop_one, List.tail_cons,
    List.map_map]
  rfl

/-- The directories above a path are the ones that it begins with. -/
theorem mem_above_iff {path directory : Path} :
    directory ∈ path.above ↔ directory ≠ [] ∧ directory <+: path ∧ directory ≠ path := by
  cases path with
  | nil =>
    exact ⟨nofun, fun ⟨notRoot, isPrefix, _⟩ => absurd (List.prefix_nil.mp isPrefix) notRoot⟩
  | cons name rest =>
    rw [above_cons, List.mem_map]
    constructor
    · rintro ⟨count, inRange, rfl⟩
      refine ⟨List.cons_ne_nil _ _, List.cons_prefix_cons.mpr ⟨rfl, List.take_prefix _ _⟩, ?_⟩
      intro same
      have shorter := congrArg List.length (List.cons.inj same).2
      rw [List.length_take] at shorter
      have := List.mem_range.mp inRange
      omega
    · rintro ⟨notRoot, isPrefix, different⟩
      obtain ⟨first, others, rfl⟩ := List.exists_cons_of_ne_nil notRoot
      obtain ⟨rfl, othersFirst⟩ := List.cons_prefix_cons.mp isPrefix
      refine ⟨others.length, List.mem_range.mpr ?_, ?_⟩
      · refine Nat.lt_of_le_of_ne othersFirst.length_le fun sameLength => different ?_
        rw [othersFirst.eq_of_length sameLength]
      · rw [← List.prefix_iff_eq_take.mp othersFirst]

theorem mem_above_trans {first second third : Path} (upper : first ∈ second.above)
    (lower : second ∈ third.above) : first ∈ third.above := by
  obtain ⟨notRoot, isPrefix, _⟩ := mem_above_iff.mp upper
  obtain ⟨_, isLonger, different⟩ := mem_above_iff.mp lower
  refine mem_above_iff.mpr ⟨notRoot, isPrefix.trans isLonger, ?_⟩
  rintro rfl
  exact different (isLonger.eq_of_length_le isPrefix.length_le)

/-- The directories above a path come from the root down. -/
theorem pairwise_above (path : Path) :
    path.above.Pairwise fun directory other => directory ∈ other.above := by
  cases path with
  | nil => exact List.Pairwise.nil
  | cons name rest =>
    rw [above_cons, List.pairwise_map]
    refine List.pairwise_lt_range.imp_of_mem fun {count other} _ inRange less => ?_
    refine mem_above_iff.mpr ⟨List.cons_ne_nil _ _, ?_, fun same => ?_⟩
    · exact List.cons_prefix_cons.mpr ⟨rfl, List.take_prefix_take_left (Nat.le_of_lt less)⟩
    · have sameLength := congrArg List.length (List.cons.inj same).2
      have below := List.mem_range.mp inRange
      rw [List.length_take, List.length_take] at sameLength
      omega

theorem mem_above_concat {front directory : Path} {name : String} :
    directory ∈ above (front ++ [name]) ↔
      front ≠ [] ∧ (directory ∈ above front ∨ directory = front) := by
  rw [above_concat]
  cases front with
  | nil => exact ⟨nofun, fun notRoot => absurd rfl notRoot.1⟩
  | cons first rest =>
    rw [List.isEmpty_cons, if_neg Bool.false_ne_true, List.mem_append, List.mem_singleton]
    exact ⟨fun member => ⟨List.cons_ne_nil _ _, member⟩, And.right⟩

/-- The directories that have to be made for a path are above it. -/
theorem mem_above_of_mem_row_parent {path directory : Path}
    (member : directory ∈ path.parent.row) : directory ∈ path.bare.above := by
  obtain ⟨inRow, named⟩ := List.mem_filter.mp member
  have notRoot : directory ≠ [] := by
    rintro rfl
    cases named
  rcases List.eq_nil_or_concat' path.bare with isRoot | ⟨front, name, isBare⟩
  · rw [parent, isRoot] at inRow
    exact absurd (List.mem_singleton.mp inRow) notRoot
  · rw [parent, isBare, List.dropLast_concat, List.mem_append, List.mem_singleton] at inRow
    rw [isBare, mem_above_concat]
    refine ⟨?_, inRow⟩
    rintro rfl
    rcases inRow with inRow | isRoot
    · cases inRow
    · exact notRoot isRoot

theorem length_bare_le (path : Path) : path.bare.length ≤ path.length := by
  rw [bare]
  split
  · rw [List.length_dropLast]
    exact Nat.sub_le _ _
  · exact Nat.le_refl _

theorem length_lt_of_mem_above {path directory : Path} (member : directory ∈ path.above) :
    directory.length < path.length := by
  obtain ⟨count, inRange, rfl⟩ := List.mem_map.mp member
  have below := List.mem_range.mp (List.mem_of_mem_drop inRange)
  rw [List.length_take]
  omega

end Path

namespace Files

variable {files : Files} {path other : Path}

/-! ### Nodes -/

theorem node?_put (files : Files) (path : Path) (node : Node) :
    (files.put path node).node? path = some node := List.lookup_cons_self

theorem lookup_filter (different : other ≠ path) (nodes : List (Path × Node)) :
    (nodes.filter fun entry => entry.1 != path).lookup other = nodes.lookup other := by
  induction nodes with
  | nil => rfl
  | cons entry rest inductionHypothesis =>
    obtain ⟨place, node⟩ := entry
    rw [List.filter_cons]
    by_cases same : place = path
    · have isOther : (other == place) = false := beq_false_of_ne (same ▸ different)
      rw [if_neg (by rw [same, bne_self_eq_false]; exact Bool.false_ne_true),
        inductionHypothesis, List.lookup_cons, isOther]
    · rw [if_pos (bne_iff_ne.mpr same), List.lookup_cons, List.lookup_cons, inductionHypothesis]

theorem node?_remove_self (files : Files) (path : Path) :
    (files.remove path).node? path = none :=
  List.lookup_eq_none_iff.mpr fun entry member => by
    have different : entry.1 ≠ path := bne_iff_ne.mp (List.mem_filter.mp member).2
    exact bne_iff_ne.mpr different.symm

theorem node?_remove_other (files : Files) (different : other ≠ path) :
    (files.remove path).node? other = files.node? other := lookup_filter different files.nodes

theorem node?_put_other (files : Files) (node : Node) (different : other ≠ path) :
    (files.put path node).node? other = files.node? other := by
  rw [node?, put, List.lookup_cons, beq_false_of_ne different]
  exact lookup_filter different files.nodes

/-- What is put at a path later stands in place of what was put there before. -/
theorem put_put (files : Files) (path : Path) (first second : Node) :
    (files.put path first).put path second = files.put path second := by
  simp only [put, List.filter_cons, bne_self_eq_false, Bool.false_eq_true, if_false,
    List.filter_filter, Bool.and_self]

/-! ### Directories above -/

/-- There is a directory at a path. -/
def HasDirectory (files : Files) (path : Path) : Prop :=
  ∃ mode, files.node? path = some (.directory mode)

theorem checkDirectory_ok_iff : files.checkDirectory path = .ok () ↔ files.HasDirectory path := by
  rw [checkDirectory, HasDirectory]
  rcases files.node? path with _ | _ | mode
  · exact ⟨nofun, nofun⟩
  · exact ⟨nofun, nofun⟩
  · exact ⟨fun _ => ⟨mode, rfl⟩, fun _ => rfl⟩

theorem forM_checkDirectory_ok_iff (row : List Path) :
    row.forM files.checkDirectory = .ok () ↔ ∀ directory ∈ row, files.HasDirectory directory := by
  induction row with
  | nil => exact ⟨fun _ => nofun, fun _ => rfl⟩
  | cons directory rest inductionHypothesis =>
    rw [List.forall_mem_cons, ← inductionHypothesis, ← checkDirectory_ok_iff]
    change (files.checkDirectory directory >>= fun _ => rest.forM files.checkDirectory) = _ ↔ _
    cases files.checkDirectory directory with
    | error problem => exact ⟨nofun, fun both => nomatch both.1⟩
    | ok _ => exact ⟨fun others => ⟨rfl, others⟩, And.right⟩

theorem checkAbove_ok_iff :
    files.checkAbove path = .ok () ↔ ∀ directory ∈ path.above, files.HasDirectory directory :=
  forM_checkDirectory_ok_iff path.above

/-- What is done to nodes of the same depth does not touch the directories above a path. -/
theorem checkAbove_of_same {after : Files} (check : files.checkAbove path = .ok ())
    (same : ∀ directory : Path, directory.length < path.length →
      after.node? directory = files.node? directory) : after.checkAbove path = .ok () := by
  rw [checkAbove_ok_iff] at check ⊢
  intro directory member
  rw [HasDirectory, same directory (Path.length_lt_of_mem_above member)]
  exact check directory member

theorem makeAll_of_directories (mode : Nat) {row : List Path}
    (there : ∀ directory ∈ row, files.HasDirectory directory) :
    makeAll mode row files = .ok files := by
  induction row with
  | nil => rfl
  | cons directory rest inductionHypothesis =>
    obtain ⟨⟨held, isThere⟩, others⟩ := List.forall_mem_cons.mp there
    rw [makeAll, isThere]
    exact inductionHypothesis others

/-! ### Steps that succeed -/

/-- No directory stands at a path. -/
def IsFree (files : Files) (path : Path) : Prop := ¬ files.HasDirectory path

theorem isFree_of_file {content : Bytes} (isFile : files.node? path = some (.file content)) :
    files.IsFree path := fun ⟨_, isThere⟩ => nomatch isFile.symm.trans isThere

theorem read_of_node? {content : Bytes} (check : files.checkAbove path = .ok ())
    (isFile : files.node? path = some (.file content)) : files.read path = .ok content := by
  rw [read, check, isFile]
  rfl

theorem create_ok {after : Files} (done : files.create path = .ok after) :
    path.onlyDirectory = false ∧ files.checkAbove path = .ok () ∧ files.IsFree path ∧
      after = files.put path (.file []) := by
  rw [create] at done
  cases check : files.checkAbove path with
  | error problem => rw [check] at done; cases done
  | ok _ =>
    rw [check] at done
    dsimp only [bind, Except.bind] at done
    split at done
    · cases done
    · next free =>
      split at done
      · cases done
      · next named =>
        exact ⟨Bool.eq_false_iff.mpr named, rfl,
          fun ⟨mode, isThere⟩ => free mode isThere, (Except.ok.inj done).symm⟩

theorem create_of_free (named : path.onlyDirectory = false) (check : files.checkAbove path = .ok ())
    (free : files.IsFree path) : files.create path = .ok (files.put path (.file [])) := by
  rw [create, check]
  dsimp only [bind, Except.bind]
  split
  · next mode isThere => exact absurd ⟨mode, isThere⟩ free
  · exact if_neg (by rw [named]; exact Bool.false_ne_true)

theorem rename_ok {source target : Path} {after : Files}
    (done : files.rename source target = .ok after) :
    ∃ content, files.read source = .ok content ∧ target.onlyDirectory = false ∧
      files.checkAbove target = .ok () ∧ files.IsFree target ∧
        after = (files.remove source).put target (.file content) := by
  rw [rename] at done
  cases isRead : files.read source with
  | error problem => rw [isRead] at done; cases done
  | ok content =>
    rw [isRead] at done
    cases check : files.checkAbove target with
    | error problem => rw [check] at done; cases done
    | ok _ =>
      rw [check] at done
      dsimp only [bind, Except.bind] at done
      split at done
      · cases done
      · next free =>
        split at done
        · cases done
        · next named =>
          exact ⟨content, rfl, Bool.eq_false_iff.mpr named, rfl,
            fun ⟨mode, isThere⟩ => free mode isThere, (Except.ok.inj done).symm⟩

theorem rename_of_free {source target : Path} {content : Bytes}
    (isRead : files.read source = .ok content) (named : target.onlyDirectory = false)
    (check : files.checkAbove target = .ok ()) (free : files.IsFree target) :
    files.rename source target = .ok ((files.remove source).put target (.file content)) := by
  rw [rename, isRead, check]
  dsimp only [bind, Except.bind]
  split
  · next mode isThere => exact absurd ⟨mode, isThere⟩ free
  · exact if_neg (by rw [named]; exact Bool.false_ne_true)

/-- Steps that all succeed, the first of them and the others. -/
theorem run_cons_ok {step : Step} {rest : List Step} {after : Files}
    (done : files.run (step :: rest) = (.ok (), after)) :
    ∃ next, step.apply files = .ok next ∧ next.run rest = (.ok (), after) := by
  rw [run] at done
  split at done
  · next changed applied => exact ⟨changed, applied, done⟩
  · cases done

/-- Steps in a row are the first of them and then the others. -/
theorem run_append {first second : List Step} {middle : Files}
    (done : files.run first = (.ok (), middle)) :
    files.run (first ++ second) = middle.run second := by
  induction first generalizing files with
  | nil => rw [← (Prod.mk.inj done).2, List.nil_append]
  | cons step rest inductionHypothesis =>
    obtain ⟨next, applied, others⟩ := run_cons_ok done
    rw [List.cons_append, run, applied]
    exact inductionHypothesis others

/-- Steps that fail have succeeded up to one of them. -/
theorem run_error {steps : List Step} {problem : FileError} {left : Files}
    (failed : files.run steps = (.error problem, left)) :
    ∃ first, first <+: steps ∧ first ≠ steps ∧ files.run first = (.ok (), left) := by
  induction steps generalizing files with
  | nil => cases failed
  | cons step rest inductionHypothesis =>
    rw [run] at failed
    split at failed
    · next changed applied =>
      obtain ⟨first, isPrefix, unfinished, done⟩ := inductionHypothesis failed
      refine ⟨step :: first, List.cons_prefix_cons.mpr ⟨rfl, isPrefix⟩, ?_, ?_⟩
      · exact fun same => unfinished (List.cons.inj same).2
      · rw [run, applied]
        exact done
    · exact ⟨[], List.nil_prefix, (List.cons_ne_nil _ _).symm,
        by rw [← (Prod.mk.inj failed).2, run]⟩

/-! ### Steps that cannot be seen at a path -/

/-- Every node is in directories that are there. -/
def WellFormed (files : Files) : Prop :=
  ∀ path node, files.node? path = some node → ∀ directory ∈ path.above, files.HasDirectory directory

theorem WellFormed.node?_of_missing (wellFormed : files.WellFormed) {directory : Path}
    (missing : files.node? directory = none) (below : directory ∈ path.above) :
    files.node? path = none := by
  refine Option.eq_none_iff_forall_ne_some.mpr fun node isNode => ?_
  obtain ⟨mode, isDirectory⟩ := wellFormed path node isNode directory below
  cases missing.symm.trans isDirectory

theorem forM_checkDirectory_cons (directory : Path) (rest : List Path) :
    (directory :: rest).forM files.checkDirectory =
      (files.checkDirectory directory >>= fun _ => rest.forM files.checkDirectory) := rfl

theorem forM_checkDirectory_congr {after : Files} {row : List Path}
    (same : ∀ directory ∈ row, after.node? directory = files.node? directory) :
    row.forM after.checkDirectory = row.forM files.checkDirectory := by
  induction row with
  | nil => rfl
  | cons directory rest inductionHypothesis =>
    obtain ⟨sameFirst, sameRest⟩ := List.forall_mem_cons.mp same
    rw [forM_checkDirectory_cons, forM_checkDirectory_cons, inductionHypothesis sameRest,
      checkDirectory, checkDirectory, sameFirst]

/-- Where no file is in the way, places are directories or one is missing. -/
theorem forM_checkDirectory_of_noFile {row : List Path}
    (noFile : ∀ directory ∈ row, files.node? directory = none ∨ files.HasDirectory directory) :
    row.forM files.checkDirectory = .ok () ∨ row.forM files.checkDirectory = .error .missing := by
  induction row with
  | nil => exact Or.inl rfl
  | cons directory rest inductionHypothesis =>
    obtain ⟨first, others⟩ := List.forall_mem_cons.mp noFile
    rw [forM_checkDirectory_cons]
    rcases first with missing | isThere
    · rw [checkDirectory, missing]
      exact Or.inr rfl
    · rw [checkDirectory_ok_iff.mpr isThere]
      exact inductionHypothesis others

/-- Directories that are made where nothing was let a check fail at a later place at most, unless
they were all that was missing. -/
theorem forM_checkDirectory_of_made {after : Files} {row : List Path}
    (made : ∀ directory ∈ row, after.node? directory = files.node? directory ∨
      files.node? directory = none ∧ after.HasDirectory directory)
    (closed : row.Pairwise fun directory other =>
      files.node? directory = none → files.node? other = none) :
    row.forM after.checkDirectory = row.forM files.checkDirectory ∨
      row.forM files.checkDirectory = .error .missing ∧ row.forM after.checkDirectory = .ok () ∧
        ∃ directory ∈ row, files.node? directory = none := by
  induction row with
  | nil => exact Or.inl rfl
  | cons directory rest inductionHypothesis =>
    obtain ⟨madeFirst, madeRest⟩ := List.forall_mem_cons.mp made
    obtain ⟨closedFirst, closedRest⟩ := List.pairwise_cons.mp closed
    rw [forM_checkDirectory_cons, forM_checkDirectory_cons]
    rcases madeFirst with same | ⟨missing, isMade⟩
    · rw [checkDirectory, checkDirectory, same]
      rcases files.node? directory with _ | _ | _
      · exact Or.inl rfl
      · exact Or.inl rfl
      · rcases inductionHypothesis madeRest closedRest with
          equal | ⟨before, now, other, member, none⟩
        · exact Or.inl equal
        · exact Or.inr ⟨before, now, other, List.mem_cons_of_mem _ member, none⟩
    · have noFile : ∀ other ∈ rest, after.node? other = none ∨ after.HasDirectory other :=
        fun other member => (madeRest other member).imp
          (fun same => same.trans (closedFirst other member missing)) And.right
      rw [checkDirectory_ok_iff.mpr isMade, checkDirectory, missing]
      rcases forM_checkDirectory_of_noFile noFile with passed | failed
      · exact Or.inr ⟨rfl, passed, directory, List.mem_cons_self, missing⟩
      · exact Or.inl failed

theorem wellFormed_empty : empty.WellFormed := nofun

/-- A directory can be made in directories that are there. -/
theorem WellFormed.putDirectory (wellFormed : files.WellFormed)
    (check : files.checkAbove path = .ok ()) (mode : Nat) :
    (files.put path (.directory mode)).WellFormed := by
  have isKept (directory : Path) (isThere : files.HasDirectory directory) :
      (files.put path (.directory mode)).HasDirectory directory := by
    by_cases same : directory = path
    · exact ⟨mode, same ▸ node?_put files path (.directory mode)⟩
    · rwa [HasDirectory, node?_put_other _ _ same]
  intro place node isNode directory isAbove
  by_cases same : place = path
  · rw [same] at isAbove
    exact isKept directory (checkAbove_ok_iff.mp check directory isAbove)
  · rw [node?_put_other _ _ same] at isNode
    exact isKept directory (wellFormed place node isNode directory isAbove)

theorem read_of_same {after : Files} (sameAbove : ∀ directory ∈ path.above,
      after.node? directory = files.node? directory)
    (same : after.node? path = files.node? path) : after.read path = files.read path := by
  have sameCheck : after.checkAbove path = files.checkAbove path :=
    forM_checkDirectory_congr sameAbove
  rw [read, read, sameCheck, same]

/-- A place that is neither a path nor above it is not seen at the path. -/
theorem read_put {place : Path} (node : Node) (notAbove : place ∉ path.above)
    (different : path ≠ place) : (files.put place node).read path = files.read path :=
  read_of_same (fun _ member => node?_put_other _ _ fun same => notAbove (same ▸ member))
    (node?_put_other _ _ different)

/-- What the making of directories does to a place. -/
theorem makeAll_ok {mode : Nat} {row : List Path} {after : Files}
    (made : makeAll mode row files = .ok after) (place : Path) :
    after.node? place = files.node? place ∨
      place ∈ row ∧ files.node? place = none ∧ after.HasDirectory place := by
  induction row generalizing files with
  | nil =>
    obtain rfl := Except.ok.inj made
    exact Or.inl rfl
  | cons first rest inductionHypothesis =>
    rw [makeAll] at made
    split at made
    · next missing =>
      by_cases same : place = first
      · subst same
        right
        refine ⟨List.mem_cons_self, missing, mode, ?_⟩
        rcases inductionHypothesis made with stays | ⟨_, stillMissing, _⟩
        · rw [stays, node?_put]
        · rw [node?_put] at stillMissing
          cases stillMissing
      · have before : (files.put first (.directory mode)).node? place = files.node? place :=
          node?_put_other _ _ same
        rcases inductionHypothesis made with stays | ⟨member, isMissing, isMade⟩
        · exact Or.inl (stays.trans before)
        · exact Or.inr ⟨List.mem_cons_of_mem _ member, before ▸ isMissing, isMade⟩
    · exact (inductionHypothesis made).imp_right fun ⟨member, others⟩ =>
        ⟨List.mem_cons_of_mem _ member, others⟩
    · cases made

/-- Directories that are made above a path are not seen at the path. -/
theorem read_of_made {after : Files} (wellFormed : files.WellFormed)
    (made : ∀ place, after.node? place = files.node? place ∨
      place ∈ path.bare.above ∧ files.node? place = none ∧ after.HasDirectory place) :
    after.read path = files.read path := by
  have stays (place : Path) (notAbove : place ∉ path.bare.above) :
      after.node? place = files.node? place :=
    (made place).resolve_right fun isMade => notAbove isMade.1
  have notAboveItself : path.bare ∉ path.bare.above := fun member =>
    Nat.lt_irrefl _ (Path.length_lt_of_mem_above member)
  have notAbove : path ∉ path.bare.above := fun member =>
    Nat.not_lt.mpr path.length_bare_le (Path.length_lt_of_mem_above member)
  have closed : path.above.Pairwise fun directory other =>
      files.node? directory = none → files.node? other = none :=
    path.pairwise_above.imp fun below missing => wellFormed.node?_of_missing missing below
  rcases forM_checkDirectory_of_made (fun place _ => (made place).imp_right And.right) closed with
    same | ⟨before, now, directory, isAbove, missing⟩
  · have sameCheck : after.checkAbove path = files.checkAbove path := same
    rw [read, read, sameCheck, stays path notAbove]
  · have checkBefore : files.checkAbove path = .error .missing := before
    have checkNow : after.checkAbove path = .ok () := now
    rcases path.onlyDirectory_cases with rfl | isDot | ⟨named, _⟩
    · cases isAbove
    · -- The place without the dot is above the path, and nobody has made a directory there.
      rw [isDot, Path.mem_above_concat] at isAbove
      obtain ⟨notRoot, isAbove⟩ := isAbove
      have bareMissing : files.node? path.bare = none := by
        rcases isAbove with below | rfl
        · exact wellFormed.node?_of_missing missing below
        · exact missing
      have bareAbove : path.bare ∈ path.above := by
        rw [isDot, Path.mem_above_concat, ← isDot]
        exact ⟨notRoot, Or.inr rfl⟩
      obtain ⟨mode, isThere⟩ := checkAbove_ok_iff.mp checkNow _ bareAbove
      rw [stays path.bare notAboveItself, bareMissing] at isThere
      cases isThere
    · have pathMissing := wellFormed.node?_of_missing missing isAbove
      rw [read, read, checkNow, checkBefore, stays path notAbove, pathMissing, named]
      rfl

end Files

end Metering
