/-
One field of the settings of a program, and how it is settled: by the variable of the environment
that is its own, or else by its own flag, or else by what stands under its own key in the settings
file, or else by its default. Whether a program resolves its settings in this way is stated here
for any program, and what follows from it is proved here.
-/

import Metering.Settings.Source

namespace Metering

/-! ### Forms -/

/-- How the three sources write a value. What is given for a flag may be a text that cannot be
read, as what stands in a variable or in a file may. -/
structure Form (Result : Type) where
  ofText? : String → Option Result
  given? : GivenFlags → String → Option (Option Result)
  ofItem? : Toml.Item → Option Result

/-- What a source says that may be silent, if what it says can be read. -/
def told? {Written Result : Type} (read? : Written → Option Result) :
    Option Written → Option (Option Result)
  | none => some none
  | some written => (read? written).map some

theorem told?_some {Result : Type} (word : Option Result) : told? some word = some word := by
  cases word <;> rfl

namespace Form

/-- The number that a text writes with blanks around it. -/
def numberOf? (written : String) : Option Nat :=
  (Whole.read Whole.Range.unsigned64 (Text.trim written)).toOption.map Int.toNat

/-- The truth value that a text writes with blanks around it. -/
def truthOf? (written : String) : Option Bool :=
  if Text.trim written = "true" then some true
  else if Text.trim written = "false" then some false
  else none

/-- The numbers that a text lists between commas with blanks around them, empty members left
out. -/
def delaysOf? (written : String) : Option (List Nat) :=
  (((Text.pieces ',' written).map Text.trim).filter fun member => !member.isEmpty).mapM numberOf?

/-- Texts, as they are. -/
def text : Form String where
  ofText? := some
  given? given long := some (given.text? long)
  ofItem? := Toml.Item.text?

def number : Form Nat where
  ofText? := numberOf?
  given? given long := some (given.number? long)
  ofItem? := Toml.Item.natural?

def truth : Form Bool where
  ofText? := truthOf?
  given? given long := some (given.truth? long)
  ofItem? := Toml.Item.boolean?

/-- Lists of delays; a flag gives them as a text. -/
def delays : Form (List Nat) where
  ofText? := delaysOf?
  given? given long := told? delaysOf? (given.text? long)
  ofItem? := Toml.Item.naturals?

end Form

namespace Source

/-! ### What is read -/

/-- What is read in two steps, errors aside. -/
theorem toOption_bind {Problem First Second : Type} (first : Except Problem First)
    (next : First → Except Problem Second) :
    (first >>= next).toOption = first.toOption.bind fun value => (next value).toOption := by
  cases first <;> rfl

/-- What passes a check is what is read. -/
theorem toOption_checked {Problem Passed Result : Type} (check : Result → Except Problem Passed)
    (result : Result) : (check result >>= fun _ => pure result).toOption =
      Option.guard (fun other => (check other).toOption.isSome) result := by
  rw [Option.guard]
  cases check result <;> rfl

theorem toOption_eq_some_iff {Problem Result : Type} {outcome : Except Problem Result}
    {result : Result} : outcome.toOption = some result ↔ outcome = .ok result := by
  cases outcome with
  | ok other => exact ⟨fun same => congrArg _ (Option.some.inj same),
      fun same => congrArg _ (Except.ok.inj same)⟩
  | error problem => exact ⟨nofun, nofun⟩

theorem toOption_readNumber (name written : String) :
    (readNumber name written).toOption = Form.numberOf? written := by
  rw [readNumber, Form.numberOf?]
  cases Whole.read Whole.Range.unsigned64 (Text.trim written) <;> rfl

theorem toOption_readTruth (name written : String) :
    (readTruth name written).toOption = Form.truthOf? written := by
  simp only [readTruth, Form.truthOf?]
  split
  · rfl
  · split <;> rfl

theorem toOption_mapM {Problem Written Result : Type} (read : Written → Except Problem Result)
    (members : List Written) :
    (members.mapM read).toOption = members.mapM fun member => (read member).toOption := by
  induction members with
  | nil => rfl
  | cons member rest inductionHypothesis =>
    rw [List.mapM_cons, List.mapM_cons, toOption_bind, ← inductionHypothesis]
    refine congrArg (Option.bind _) (funext fun first => ?_)
    rw [toOption_bind]
    rfl

theorem toOption_readDelays (name written : String) :
    (readDelays name written).toOption = Form.delaysOf? written := by
  simp only [readDelays, Form.delaysOf?, toOption_mapM, toOption_readNumber]

theorem toOption_readOptional {Result : Type} {read : String → Except SettingsError Result}
    {read? : String → Option Result} (same : ∀ written, (read written).toOption = read? written)
    (written : Option String) : (readOptional read written).toOption = told? read? written := by
  cases written with
  | none => rfl
  | some written =>
    rw [readOptional, told?, ← same]
    cases read written <;> rfl

theorem member?_eq {Result : Type} (members : Toml.Members) (key : String)
    (read? : Toml.Item → Option Result) :
    member? members key read? = told? read? (members.lookup key) := by
  rw [member?]
  cases members.lookup key <;> rfl

end Source

/-! ### Fields -/

/-- What settings are resolved from. -/
structure Sources where
  environment : Environment
  given : GivenFlags
  files : SettingsFiles

/-- What the settings file says, nothing if none is named; there is no answer if it cannot be
read or is no document. -/
def Sources.members? (sources : Sources) : Option Toml.Members :=
  match sources.given.text? "config" with
  | none => some []
  | some path => (sources.files path).bind Toml.read?

/-- The settings of the settings file are those of its members. -/
theorem Source.toOption_readFile (sources : Sources) {Settings : Type} {defaults : Settings}
    {ofMembers? : Toml.Members → Option Settings} (silent : ofMembers? [] = some defaults) :
    (readFile sources.files defaults ofMembers? (sources.given.text? "config")).toOption =
      sources.members?.bind ofMembers? := by
  rw [Sources.members?]
  cases sources.given.text? "config" with
  | none => exact silent.symm
  | some path =>
    show _ = ((sources.files path).bind Toml.read?).bind ofMembers?
    rw [readFile]
    cases sources.files path with
    | none => rfl
    | some text =>
      dsimp only [Option.bind_some]
      cases (Toml.read? text).bind ofMembers? <;> rfl

/-- A field: where the sources have it, how they write it, its default if there is one, and which
of its values are sound. -/
structure Field (Result : Type) where
  variableName : String
  flag : String
  key : String
  form : Form Result
  otherwise : Option Result
  IsSound : Result → Prop

namespace Field

/-- A field all of whose values are sound. -/
def free {Result : Type} (form : Form Result) (variableName flag key : String)
    (otherwise : Option Result) : Field Result :=
  ⟨variableName, flag, key, form, otherwise, fun _ => True⟩

variable {Result : Type} (field : Field Result) (sources : Sources)

/-- What is written in the variable of the field, if it is set. -/
def written? : Option String := sources.environment field.variableName

/-- What stands under the key of the field, if anything does. -/
def item? : Option Toml.Item := sources.members?.bind fun members => members.lookup field.key

/-- What the environment says about the field, if that can be read. -/
def inEnvironment? : Option (Option Result) := told? field.form.ofText? (field.written? sources)

/-- What the flags say about the field, if that can be read. -/
def inFlags? : Option (Option Result) := field.form.given? sources.given field.flag

/-- What the settings file says about the field, if that can be read. -/
def inFile? : Option (Option Result) := told? field.form.ofItem? (field.item? sources)

/-- The value that the first source that has the field gives it, or else the default. -/
inductive Settles : Option Result → Prop
  | byVariable {written : String} {value : Result} (isSet : field.written? sources = some written)
      (reads : field.form.ofText? written = some value) : Settles (some value)
  | byFlag {value : Result} (unset : field.written? sources = none)
      (isGiven : field.inFlags? sources = some (some value)) : Settles (some value)
  | byFile {item : Toml.Item} {value : Result} (unset : field.written? sources = none)
      (notGiven : field.inFlags? sources = some none) (stands : field.item? sources = some item)
      (reads : field.form.ofItem? item = some value) : Settles (some value)
  | byDefault (unset : field.written? sources = none)
      (notGiven : field.inFlags? sources = some none) (absent : field.item? sources = none) :
      Settles field.otherwise

/-- Whatever the sources say about the field can be read, also where it does not count. -/
structure IsLegible : Prop where
  inEnvironment : field.inEnvironment? sources ≠ none
  inFlags : field.inFlags? sources ≠ none
  inFile : field.inFile? sources ≠ none

/-- The sources say the same about the field as others, whatever they say about other fields. -/
structure Agrees (others : Sources) : Prop where
  written : field.written? sources = field.written? others
  given : field.inFlags? sources = field.inFlags? others
  item : field.item? sources = field.item? others

variable {field sources}

theorem Settles.unique {value other : Option Result} (settles : field.Settles sources value)
    (settlesOther : field.Settles sources other) : value = other := by
  cases settles <;> cases settlesOther <;> simp_all

theorem Settles.of_agrees {others : Sources} {value : Option Result}
    (agrees : field.Agrees sources others) (settles : field.Settles sources value) :
    field.Settles others value := by
  obtain ⟨sameWritten, sameGiven, sameItem⟩ := agrees
  cases settles with
  | byVariable isSet reads => exact .byVariable (sameWritten ▸ isSet) reads
  | byFlag unset isGiven => exact .byFlag (sameWritten ▸ unset) (sameGiven ▸ isGiven)
  | byFile unset notGiven stands reads =>
    exact .byFile (sameWritten ▸ unset) (sameGiven ▸ notGiven) (sameItem ▸ stands) reads
  | byDefault unset notGiven absent =>
    exact .byDefault (sameWritten ▸ unset) (sameGiven ▸ notGiven) (sameItem ▸ absent)

/-- What the sources say, the first before the second and that before the third, settles the
field. -/
theorem settles_orElse {first second third : Option Result}
    (isFirst : field.inEnvironment? sources = some first)
    (isSecond : field.inFlags? sources = some second)
    (isThird : field.inFile? sources = some third) :
    field.Settles sources (first <|> second <|> third <|> field.otherwise) := by
  -- each source in turn, where those before it are silent
  cases written : field.written? sources with
  | some text =>
    rw [inEnvironment?, written, told?, Option.map_eq_some_iff] at isFirst
    obtain ⟨value, reads, rfl⟩ := isFirst
    exact .byVariable written reads
  | none =>
    rw [inEnvironment?, written] at isFirst
    obtain rfl := Option.some.inj isFirst
    cases second with
    | some value => exact .byFlag written isSecond
    | none =>
      cases stands : field.item? sources with
      | some item =>
        rw [inFile?, stands, told?, Option.map_eq_some_iff] at isThird
        obtain ⟨value, reads, rfl⟩ := isThird
        exact .byFile written isSecond stands reads
      | none =>
        rw [inFile?, stands] at isThird
        obtain rfl := Option.some.inj isThird
        exact .byDefault written isSecond stands

/-- What a file that can be read says about the field. -/
theorem inFile?_eq {members : Toml.Members} (isRead : sources.members? = some members) :
    field.inFile? sources = told? field.form.ofItem? (members.lookup field.key) := by
  rw [inFile?, item?, isRead]
  rfl

/-- A variable that is set and cannot be read makes the field illegible. -/
theorem not_isLegible {written : String} (isSet : field.written? sources = some written)
    (unread : field.form.ofText? written = none) : ¬ field.IsLegible sources := fun legible =>
  legible.inEnvironment (by rw [inEnvironment?, isSet, told?, unread, Option.map_none])

end Field

/-! ### Settings -/

/-- One field of settings, and the value that it has in them, if it has one. -/
structure Setting (Settings : Type) where
  Result : Type
  field : Field Result
  get : Settings → Option Result

/-- The field is settled in the settings by the sources, with a sound value. -/
structure Setting.IsSettled {Settings : Type} (setting : Setting Settings) (sources : Sources)
    (settings : Settings) : Prop where
  legible : setting.field.IsLegible sources
  settles : setting.field.Settles sources (setting.get settings)
  sound : ∀ value, setting.get settings = some value → setting.field.IsSound value

variable {Name Settings : Type}

/-- Settings are resolved by precedence, field by field. -/
structure ByPrecedence (setting : Name → Setting Settings)
    (resolve : Sources → Except SettingsError Settings) : Prop where
  /-- Settings come out just if the settings file can be read, what the sources say about any
  field can be read, and every field is settled by the first source that has it, with a sound
  value. -/
  resolved : ∀ sources settings, resolve sources = .ok settings ↔
    sources.members? ≠ none ∧ ∀ name, (setting name).IsSettled sources settings
  /-- The fields make up the settings. -/
  complete : ∀ settings others : Settings,
    (∀ name, (setting name).get settings = (setting name).get others) → settings = others
  /-- A field does not depend on what the sources say about other fields. -/
  independent : ∀ sources others settings otherSettings name,
    resolve sources = .ok settings → resolve others = .ok otherSettings →
    (setting name).field.Agrees sources others →
    (setting name).get settings = (setting name).get otherSettings
  /-- No settings come out if a variable that is set cannot be read. -/
  illegible : ∀ sources name written, (setting name).field.written? sources = some written →
    (setting name).field.form.ofText? written = none →
    ∃ problem, resolve sources = .error problem
  /-- No settings come out if a field is settled by a value that is not sound. -/
  unsound : ∀ sources name value, (setting name).field.Settles sources (some value) →
    ¬ (setting name).field.IsSound value → ∃ problem, resolve sources = .error problem

theorem exists_error_of_forall_ne_ok {Problem Result : Type} {outcome : Except Problem Result}
    (noResult : ∀ result, outcome ≠ .ok result) : ∃ problem, outcome = .error problem := by
  cases outcome with
  | ok result => exact absurd rfl (noResult result)
  | error problem => exact ⟨problem, rfl⟩

/-- All else follows from what the settings are that come out. -/
theorem ByPrecedence.of_resolved {setting : Name → Setting Settings}
    {resolve : Sources → Except SettingsError Settings}
    (complete : ∀ settings others : Settings,
      (∀ name, (setting name).get settings = (setting name).get others) → settings = others)
    (resolved : ∀ sources settings, resolve sources = .ok settings ↔
      sources.members? ≠ none ∧ ∀ name, (setting name).IsSettled sources settings) :
    ByPrecedence setting resolve where
  resolved
  complete
  independent sources others settings otherSettings name done otherDone agrees := by
    have settled := ((resolved sources settings).mp done).2 name
    have otherSettled := ((resolved others otherSettings).mp otherDone).2 name
    exact (settled.settles.of_agrees agrees).unique otherSettled.settles
  illegible sources name written isSet unread := by
    refine exists_error_of_forall_ne_ok fun settings done => ?_
    exact Field.not_isLegible isSet unread (((resolved sources settings).mp done).2 name).legible
  unsound sources name value settles notSound := by
    refine exists_error_of_forall_ne_ok fun settings done => ?_
    have settled := ((resolved sources settings).mp done).2 name
    exact notSound (settled.sound value (settled.settles.unique settles))

/-! ### Layers -/

theorem some_getD {Result : Type} (word : Option Result) (otherwise : Result) :
    some (word.getD otherwise) = (word <|> some otherwise) := by
  cases word <;> rfl

theorem orElse_none {Result : Type} (word : Option Result) : word = (word <|> none) := by
  cases word <;> rfl

/-- Settings after a source is laid over them. What the source says about any field can be read,
and where it is silent the field is as it was. -/
def Overlays (setting : Name → Setting Settings)
    (words : (name : Name) → Option (Option (setting name).Result))
    (before after : Settings) : Prop :=
  ∀ name, ∃ word, words name = some word ∧
    (setting name).get after = (word <|> (setting name).get before)

/-- What comes of laying a source over settings: something does if what the source says about any
field can be read, and it is the settings with the source laid over them. -/
structure IsLayer (setting : Name → Setting Settings)
    (words : (name : Name) → Option (Option (setting name).Result))
    (before : Settings) (after? : Option Settings) : Prop where
  overlays : ∀ after, after? = some after → Overlays setting words before after
  exists_after : (∀ name, words name ≠ none) → ∃ after, after? = some after

theorem Overlays.legible {setting : Name → Setting Settings}
    {words : (name : Name) → Option (Option (setting name).Result)} {before after : Settings}
    (overlays : Overlays setting words before after) (name : Name) : words name ≠ none := by
  obtain ⟨word, isWord, _⟩ := overlays name
  exact isWord ▸ Option.some_ne_none word

/-- How a program comes to its settings: with the file, the flags and the environment laid over the
defaults, and then a check. -/
structure Scheme (Name Settings : Type) where
  setting : Name → Setting Settings
  defaults : Settings
  ofMembers? : Toml.Members → Option Settings
  applyFlags? : GivenFlags → Settings → Option Settings
  applyEnvironment? : Environment → Settings → Option Settings
  passes : Settings → Bool
  get_defaults : ∀ name, (setting name).get defaults = (setting name).field.otherwise
  file : ∀ members, IsLayer setting
    (fun name => told? (setting name).field.form.ofItem? (members.lookup (setting name).field.key))
    defaults (ofMembers? members)
  flags : ∀ (sources : Sources) before,
    IsLayer setting (fun name => (setting name).field.inFlags? sources) before
      (applyFlags? sources.given before)
  environment : ∀ (sources : Sources) before,
    IsLayer setting (fun name => (setting name).field.inEnvironment? sources) before
      (applyEnvironment? sources.environment before)
  passes_iff : ∀ settings, passes settings = true ↔ ∀ name value,
    (setting name).get settings = some value → (setting name).field.IsSound value
  complete : ∀ settings others : Settings,
    (∀ name, (setting name).get settings = (setting name).get others) → settings = others

namespace Scheme

variable (scheme : Scheme Name Settings)

/-- The settings that the sources come to, if they can be read and the settings pass. -/
def outcome? (sources : Sources) : Option Settings := do
  let members ← sources.members?
  let fromFile ← scheme.ofMembers? members
  let withFlags ← scheme.applyFlags? sources.given fromFile
  let settings ← scheme.applyEnvironment? sources.environment withFlags
  Option.guard scheme.passes settings

variable {scheme} {sources : Sources} {settings : Settings}

/-- What the settings file says is laid over the defaults. -/
theorem isLayer_file {members : Toml.Members} (isRead : sources.members? = some members) :
    IsLayer scheme.setting (fun name => (scheme.setting name).field.inFile? sources)
      scheme.defaults (scheme.ofMembers? members) := by
  simp only [Field.inFile?_eq isRead]
  exact scheme.file members

/-- The three sources laid over the defaults settle every field. -/
theorem settles_of_overlays {fromFile withFlags : Settings}
    (file : Overlays scheme.setting (fun name => (scheme.setting name).field.inFile? sources)
      scheme.defaults fromFile)
    (flags : Overlays scheme.setting (fun name => (scheme.setting name).field.inFlags? sources)
      fromFile withFlags)
    (environment : Overlays scheme.setting
      (fun name => (scheme.setting name).field.inEnvironment? sources) withFlags settings)
    (name : Name) : (scheme.setting name).field.Settles sources
      ((scheme.setting name).get settings) := by
  obtain ⟨third, isThird, getFile⟩ := file name
  obtain ⟨second, isSecond, getFlags⟩ := flags name
  obtain ⟨first, isFirst, getEnvironment⟩ := environment name
  rw [getEnvironment, getFlags, getFile, scheme.get_defaults]
  exact Field.settles_orElse isFirst isSecond isThird

/-- What comes out has each of the sources laid over what was there before. -/
theorem outcome?_eq_some_iff : scheme.outcome? sources = some settings ↔
    ∃ members fromFile withFlags, sources.members? = some members ∧
      scheme.ofMembers? members = some fromFile ∧
      scheme.applyFlags? sources.given fromFile = some withFlags ∧
      scheme.applyEnvironment? sources.environment withFlags = some settings ∧
      scheme.passes settings = true := by
  simp only [outcome?, Option.bind_eq_bind, Option.bind_eq_some_iff, Option.guard_eq_some_iff]
  constructor
  · rintro ⟨members, isRead, fromFile, isFile, withFlags, isFlags, _, isSettings, rfl, passed⟩
    exact ⟨members, fromFile, withFlags, isRead, isFile, isFlags, isSettings, passed⟩
  · rintro ⟨members, fromFile, withFlags, isRead, isFile, isFlags, isSettings, passed⟩
    exact ⟨members, isRead, fromFile, isFile, withFlags, isFlags, settings, isSettings, rfl,
      passed⟩

/-- The outcome is what settles every field with a sound value. -/
theorem outcome?_iff_isSettled : scheme.outcome? sources = some settings ↔
    sources.members? ≠ none ∧ ∀ name, (scheme.setting name).IsSettled sources settings := by
  rw [outcome?_eq_some_iff]
  constructor
  · rintro ⟨members, fromFile, withFlags, isRead, isFile, isFlags, isSettings, passed⟩
    have file := (isLayer_file isRead).overlays fromFile isFile
    have flags := (scheme.flags sources fromFile).overlays withFlags isFlags
    have environment := (scheme.environment sources withFlags).overlays settings isSettings
    refine ⟨isRead ▸ Option.some_ne_none members, fun name => ?_⟩
    exact {
      legible := ⟨environment.legible name, flags.legible name, file.legible name⟩
      settles := settles_of_overlays file flags environment name
      sound := (scheme.passes_iff settings).mp passed name }
  · rintro ⟨readable, settled⟩
    obtain ⟨members, isRead⟩ := Option.ne_none_iff_exists'.mp readable
    obtain ⟨fromFile, isFile⟩ := (isLayer_file isRead).exists_after fun name =>
      (settled name).legible.inFile
    obtain ⟨withFlags, isFlags⟩ := (scheme.flags sources fromFile).exists_after fun name =>
      (settled name).legible.inFlags
    obtain ⟨others, isOthers⟩ := (scheme.environment sources withFlags).exists_after fun name =>
      (settled name).legible.inEnvironment
    have settles := settles_of_overlays
      ((isLayer_file isRead).overlays fromFile isFile)
      ((scheme.flags sources fromFile).overlays withFlags isFlags)
      ((scheme.environment sources withFlags).overlays others isOthers)
    obtain rfl : others = settings := scheme.complete others settings fun name =>
      (settles name).unique (settled name).settles
    exact ⟨members, fromFile, withFlags, isRead, isFile, isFlags, isOthers,
      (scheme.passes_iff others).mpr fun name => (settled name).sound⟩

/-- A program whose settings are the outcome resolves them by precedence. -/
theorem byPrecedence {resolve : Sources → Except SettingsError Settings}
    (resolves : ∀ sources, (resolve sources).toOption = scheme.outcome? sources) :
    ByPrecedence scheme.setting resolve := by
  refine .of_resolved scheme.complete fun sources settings => ?_
  rw [← Source.toOption_eq_some_iff, resolves, outcome?_iff_isSettled]

end Scheme

end Metering
