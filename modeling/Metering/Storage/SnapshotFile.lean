/-
Snapshot files. A snapshot is written to a file of its own beside the target, which then takes
the place of the target in one step, so a reader of the target meets the old snapshot or the
new one. Directories that are missing are made for the owner alone.
-/

import Metering.Files
import Metering.Storage.Snapshot

namespace Metering.SnapshotFile

/-- The path of the file that a snapshot is written to first. -/
def temporary (path : Path) : Path := path.withEnding "tmp"

/-- The mode of a directory for the owner alone. -/
def privateMode : Nat := 0o700

/-- The steps that put the pieces of a content in the place of a file. -/
def replacement (path : Path) (pieces : List Bytes) : List Files.Step :=
  [.makeDirectories privateMode path.parent, .create (temporary path)] ++
    pieces.map (Files.Step.append (temporary path)) ++ [.rename (temporary path) path]

/-- Writes the snapshot of some contents to a file. -/
def write [Gzip.Deflater] (path : Path) (contents : Contents) (files : Files) :
    Except StorageError Unit × Files :=
  match files.run (replacement path [Snapshot.encode contents]) with
  | (.ok (), written) => (.ok (), written)
  | (.error _, left) => (.error .io, left)

/-- Reads the contents from a file, if it is there. -/
def read (path : Path) (files : Files) : Except StorageError (Option Contents) :=
  match files.read path with
  | .ok content => (Snapshot.decode content).map some
  | .error .missing => .ok none
  | .error .notDirectory => .error .io
  | .error .isDirectory => .error .encode

end Metering.SnapshotFile
