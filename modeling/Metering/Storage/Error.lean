/-
What can go wrong in a storage. What a database or a file system says of its own failure is
not passed on.
-/

namespace Metering

/-- Why a storage refuses or fails. -/
inductive StorageError
  | notFound (key : String)
  | wrongKind (key : String)
  | database
  | io
  | encode
  deriving DecidableEq, Repr

/-- The text of an error. -/
def StorageError.message : StorageError → String
  | .notFound key => "Storage: metric '" ++ key ++ "' not found"
  | .wrongKind key => "Storage: metric '" ++ key ++ "' is stored under a different kind"
  | .database => "Storage: database error: <db>"
  | .io => "Storage: I/O error"
  | .encode => "Storage: snapshot encoding error"

end Metering
