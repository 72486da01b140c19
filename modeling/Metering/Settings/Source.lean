/-
Where settings come from: the environment, the flags of the command line and a settings file,
the earlier of these going before the later, and defaults where none of them says anything.
Texts count as they are; numbers and truth values from the environment may have blanks around
them.
-/

import Metering.Numeral.Whole
import Metering.Settings.Flags
import Metering.Text.Blank
import Metering.Toml.Reading

namespace Metering

/-- The variables of the environment that are set. -/
abbrev Environment : Type := String → Option String

/-- The texts of the files that can be read. -/
abbrev SettingsFiles : Type := String → Option String

/-- Why there are no settings although the command line is well formed. -/
inductive SettingsError
  | unreadableFile (path : String)
  | malformedFile (path : String)
  | badNumber (written name : String) (fault : Whole.Fault)
  | badTruth (written name : String)
  | badSubnet (written : String)
  | zeroReportInterval
  | zeroPollInterval
  | zeroRequestTimeout
  deriving DecidableEq, Repr

namespace SettingsError

/-- The text of an error. -/
def message : SettingsError → String
  | .unreadableFile path => "cannot read config file " ++ path
  | .malformedFile path => "cannot parse config file " ++ path
  | .badNumber written name _ => "invalid value '" ++ written ++ "' for " ++ name
  | .badTruth written name => "invalid value '" ++ written ++ "' for " ++ name
  | .badSubnet written => "invalid trusted subnet '" ++ written ++ "'"
  | .zeroReportInterval => "report interval must be positive"
  | .zeroPollInterval => "poll interval must be positive"
  | .zeroRequestTimeout => "request timeout must be positive"

/-- The text of what is behind an error, if there is more to say. -/
def cause? : SettingsError → Option String
  | .badNumber _ _ fault => some fault.message
  | .badTruth .. => some "provided string was not `true` or `false`"
  | _ => none

end SettingsError

/-- Why a command line, an environment and a file give no settings. -/
inductive StartError
  | flags (error : FlagError)
  | settings (error : SettingsError)
  deriving DecidableEq, Repr

/-- The text of an error. -/
def StartError.message : StartError → String
  | .flags error => error.message
  | .settings error => error.message

namespace Source

/-! ### Texts -/

/-- The number that a text writes. -/
def readNumber (name written : String) : Except SettingsError Nat :=
  match Whole.read Whole.Range.unsigned64 (Text.trim written) with
  | .ok number => .ok number.toNat
  | .error fault => .error (.badNumber written name fault)

/-- The truth value that a text writes. -/
def readTruth (name written : String) : Except SettingsError Bool :=
  let trimmed := Text.trim written
  if trimmed = "true" then .ok true
  else if trimmed = "false" then .ok false
  else .error (.badTruth written name)

/-- The numbers that a text lists between commas; empty members do not count. -/
def readDelays (name written : String) : Except SettingsError (List Nat) :=
  let members := ((Text.pieces ',' written).map Text.trim).filter fun member => !member.isEmpty
  members.mapM (readNumber name)

/-- What a text that may be missing writes. -/
def readOptional {Result : Type} (read : String → Except SettingsError Result) :
    Option String → Except SettingsError (Option Result)
  | none => .ok none
  | some written => (read written).map some

/-- What a variable of the environment writes, if it is set. -/
def fromVariable {Result : Type} (environment : Environment) (name : String)
    (read : String → String → Except SettingsError Result) :
    Except SettingsError (Option Result) :=
  readOptional (read name) (environment name)

/-! ### Files -/

/-- What stands under a key of a settings file, if anything does; it must be of the right
kind. -/
def member? {Result : Type} (members : Toml.Members) (key : String)
    (read? : Toml.Item → Option Result) : Option (Option Result) :=
  match members.lookup key with
  | none => some none
  | some item => (read? item).map some

/-- The settings of a file, if one is named, or else the defaults. -/
def readFile {Settings : Type} (files : SettingsFiles) (defaults : Settings)
    (ofMembers? : Toml.Members → Option Settings) :
    Option String → Except SettingsError Settings
  | none => .ok defaults
  | some path =>
    match files path with
    | none => .error (.unreadableFile path)
    | some text =>
      match (Toml.read? text).bind ofMembers? with
      | some settings => .ok settings
      | none => .error (.malformedFile path)

end Source

end Metering
