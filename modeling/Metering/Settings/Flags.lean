/-
Reading the flags of a command line. A flag is named by a long name or by a letter and takes a
value, in the same argument or in the next one. A value that comes in the next argument is
checked only when the next flag is met or at the end, so a fault of the argument behind it may
be found first. There are no arguments besides flags.
-/

import Metering.Numeral.Whole
import Metering.Text.Cut

namespace Metering

/-- What the value of a flag is. -/
inductive FlagKind
  | text
  | path
  | number
  | truth
  deriving DecidableEq, Repr

/-- A flag that takes a value. -/
structure Flag where
  long : String
  letter : Option Char
  kind : FlagKind
  deriving DecidableEq, Repr

/-- The value of a flag. -/
inductive FlagValue
  | text (content : String)
  | number (count : Nat)
  | truth (holds : Bool)
  deriving DecidableEq, Repr

/-- Why a command line gives no settings: it asks for something else, or is at fault. -/
inductive FlagError
  | helpWanted
  | versionWanted
  | unknownArgument
  | repeatedFlag
  | invalidValue
  | invalidNumber
  | valueNotTaken
  deriving DecidableEq, Repr

/-- The text of an error. -/
def FlagError.message : FlagError → String
  | .helpWanted => "help was asked for"
  | .versionWanted => "the version was asked for"
  | .unknownArgument => "unexpected argument found"
  | .repeatedFlag => "a flag cannot be used more than once"
  | .invalidValue => "a flag has no value or none that it can take"
  | .invalidNumber => "the value of a flag is not a number in range"
  | .valueNotTaken => "a flag that takes no value has one"

/-- The value that a text is for a kind of flag. -/
def FlagKind.read (text : String) : FlagKind → Except FlagError FlagValue
  | .text => .ok (.text text)
  | .path => if text.isEmpty then .error .invalidValue else .ok (.text text)
  | .number =>
    match Whole.read Whole.Range.unsigned64 text with
    | .ok count => .ok (.number count.toNat)
    | .error _ => .error .invalidNumber
  | .truth =>
    if text = "true" then .ok (.truth true)
    else if text = "false" then .ok (.truth false)
    else .error .invalidValue

/-- The flags that were given, with their values. -/
abbrev GivenFlags : Type := List (String × FlagValue)

namespace GivenFlags

/-- The text given for a flag. -/
def text? (given : GivenFlags) (long : String) : Option String :=
  match given.lookup long with
  | some (.text content) => some content
  | _ => none

/-- The number given for a flag. -/
def number? (given : GivenFlags) (long : String) : Option Nat :=
  match given.lookup long with
  | some (.number count) => some count
  | _ => none

/-- The truth value given for a flag. -/
def truth? (given : GivenFlags) (long : String) : Option Bool :=
  match given.lookup long with
  | some (.truth holds) => some holds
  | _ => none

end GivenFlags

namespace Flag

/-- What an argument looks like. -/
inductive Argument
  /-- Two hyphens alone: no flags follow. -/
  | ending
  /-- A long name, with a value behind an equals sign or without one. -/
  | long (name : String) (attached : Option String)
  /-- A letter and what stands behind it. -/
  | short (letter : Char) (behind : List Char)
  /-- Anything else. -/
  | plain (text : String)
  deriving DecidableEq, Repr

/-- What an argument looks like. -/
def look (argument : String) : Argument :=
  match argument.toList with
  | ['-', '-'] => .ending
  | '-' :: '-' :: name =>
    match Text.cutChars? '=' name with
    | some (before, after) => .long (String.ofList before) (some (String.ofList after))
    | none => .long (String.ofList name) none
  | '-' :: letter :: behind => .short letter behind
  | _ => .plain argument

/-- The value that stands behind a letter, if any does; an equals sign in front of it does not
belong to it. -/
def attachedTo (behind : List Char) : Option String :=
  match behind with
  | [] => none
  | '=' :: value => some (String.ofList value)
  | value => some (String.ofList value)

/-- The reading of a command line so far: the flags given, the flag that is still to be checked
with its value as far as there is one, and whether flags may still follow. -/
structure Reading where
  given : GivenFlags
  pending : Option (Flag × Option String)
  isEnded : Bool
  deriving DecidableEq, Repr

namespace Reading

/-- Nothing read yet. -/
def start : Reading := ⟨[], none, false⟩

/-- The reading with a flag and its value checked. -/
def give (reading : Reading) (flag : Flag) (value : Option String) : Except FlagError Reading :=
  match value with
  | none => .error .invalidValue
  | some text => do
    if (reading.given.lookup flag.long).isSome then throw .repeatedFlag
    return { reading with given := reading.given ++ [(flag.long, ← flag.kind.read text)] }

/-- The reading with the pending flag checked. -/
def settle (reading : Reading) : Except FlagError Reading :=
  match reading.pending with
  | none => .ok reading
  | some (flag, value) => { reading with pending := none }.give flag value

/-- The reading after a flag was met, with or without a value in the same argument. -/
def meet (reading : Reading) (flag : Flag) (attached : Option String) :
    Except FlagError Reading := do
  let settled ← reading.settle
  match attached with
  | none => return { settled with pending := some (flag, none) }
  | some text => settled.give flag (some text)

/-- The reading after something was asked for instead of settings. -/
def interrupt (reading : Reading) (wanted : FlagError) : Except FlagError Reading := do
  let _ ← reading.settle
  throw wanted

/-- The reading after a long name. -/
def meetLong (flags : List Flag) (reading : Reading) (name : String)
    (attached : Option String) : Except FlagError Reading :=
  let wanted := [("help", FlagError.helpWanted), ("version", FlagError.versionWanted)].lookup name
  match flags.find? (·.long == name), wanted, attached with
  | some flag, _, _ => reading.meet flag attached
  | none, some _, some _ => .error .valueNotTaken
  | none, some wanted, none => reading.interrupt wanted
  | none, none, _ => .error .unknownArgument

/-- The reading after a letter and what stands behind it. -/
def meetShort (flags : List Flag) (reading : Reading) (letter : Char) (behind : List Char) :
    Except FlagError Reading :=
  let wanted := [('h', FlagError.helpWanted), ('V', FlagError.versionWanted)].lookup letter
  match flags.find? (·.letter == some letter), wanted with
  | some flag, _ => reading.meet flag (attachedTo behind)
  | none, some wanted => reading.interrupt wanted
  | none, none => .error .unknownArgument

/-- The reading after one more argument. -/
def step (flags : List Flag) (reading : Reading) (argument : String) :
    Except FlagError Reading :=
  if reading.isEnded then .error .unknownArgument
  else
    match look argument, reading.pending with
    | .ending, _ => .ok { reading with isEnded := true }
    | .long name attached, _ => reading.meetLong flags name attached
    | .short letter behind, _ => reading.meetShort flags letter behind
    | .plain text, some (flag, none) => .ok { reading with pending := some (flag, some text) }
    | .plain _, _ => .error .unknownArgument

end Reading

/-- The flags that a command line gives. -/
def read (flags : List Flag) (arguments : List String) : Except FlagError GivenFlags := do
  let reading ← arguments.foldlM (Reading.step flags) Reading.start
  return (← reading.settle).given

end Flag

end Metering
