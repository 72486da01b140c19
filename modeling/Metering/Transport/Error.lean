/-
What a sender hears of a batch it handed over: that the server took all of it, or why not. Only
some failures are worth another attempt with the same batch.
-/

namespace Metering

/-- Why a batch was not acknowledged. -/
inductive TransportError
  | transient (reason : String)
  | permanent (reason : String)
  deriving DecidableEq, Repr

/-- The text of an error. -/
def TransportError.message : TransportError → String
  | .transient reason => "transient: " ++ reason
  | .permanent reason => "permanent: " ++ reason

/-- What a sender hears of a batch. -/
abbrev Acknowledgement : Type := Except TransportError Unit

end Metering
