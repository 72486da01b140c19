/-
The settings of servers and of agents are resolved by precedence, field by field. The variable,
the flag and the key of a field, how they write it, its default and its sound values stand in one
table for each program. Each source is shown to be laid over the settings before it as the table
says, and what the check lets pass to be what is sound; the rest holds for any program.
-/

import Mathlib.Tactic.Choose
import Metering.Proofs.Settings.Field
import Metering.Settings.Agent
import Metering.Settings.Server

namespace Metering

/-! ### Servers -/

/-- The fields of a server's settings. -/
inductive ServerField
  | address
  | grpcAddress
  | storeInterval
  | filePath
  | restore
  | dsn
  | key
  | cryptoKey
  | subnet
  | shutdownTimeout
  deriving DecidableEq

namespace ServerField

/-- The subnet that is in effect with a text for it. A blank text puts none into effect. -/
def effectiveSubnet? (written : String) : Option String :=
  some (Text.trim written) |>.filter (!·.isEmpty)

/-- Where the fields come from, and what they are in the settings. A subnet in effect has to be
one. -/
def setting : ServerField → Setting ServerSettings
  | .address => ⟨String, .free .text "ADDRESS" "address" "address" (some "localhost:8080"),
      fun settings => some settings.address⟩
  | .grpcAddress => ⟨String, .free .text "GRPC_ADDRESS" "grpc-address" "grpc_address" none,
      fun settings => settings.grpcAddress⟩
  | .storeInterval => ⟨Nat, .free .number "STORE_INTERVAL" "store-interval" "store_interval"
      (some 300), fun settings => some settings.storeInterval⟩
  | .filePath => ⟨String, .free .text "FILE_STORAGE_PATH" "file-storage-path" "file_storage_path"
      (some "/tmp/metrics-db.json"), fun settings => some settings.filePath⟩
  | .restore => ⟨Bool, .free .truth "RESTORE" "restore" "restore" (some true),
      fun settings => some settings.restore⟩
  | .dsn => ⟨String, .free .text "DATABASE_DSN" "database-dsn" "database_dsn" none,
      fun settings => settings.dsn⟩
  | .key => ⟨String, .free .text "KEY" "key" "key" none, fun settings => settings.key⟩
  | .cryptoKey => ⟨String, .free .text "CRYPTO_KEY" "crypto-key" "crypto_key" none,
      fun settings => settings.cryptoKey⟩
  | .subnet => ⟨String, ⟨"TRUSTED_SUBNET", "trusted-subnet", "trusted_subnet", .text, none,
      fun written => ∀ effective, effectiveSubnet? written = some effective →
        Subnet.ofText? effective ≠ none⟩, fun settings => settings.subnet⟩
  | .shutdownTimeout => ⟨Nat, .free .number "SHUTDOWN_TIMEOUT" "shutdown-timeout"
      "shutdown_timeout" (some 10), fun settings => some settings.shutdownTimeout⟩

theorem complete (settings others : ServerSettings)
    (same : ∀ name : ServerField, name.setting.get settings = name.setting.get others) :
    settings = others := by
  cases settings
  cases others
  rw [ServerSettings.mk.injEq]
  exact ⟨Option.some.inj (same .address), same .grpcAddress,
    Option.some.inj (same .storeInterval), Option.some.inj (same .filePath),
    Option.some.inj (same .restore), same .dsn, same .key, same .cryptoKey, same .subnet,
    Option.some.inj (same .shutdownTimeout)⟩

/-- The check passes just if the subnet in effect is one. -/
theorem trusted_isSome_iff (settings : ServerSettings) :
    settings.trusted.toOption.isSome = true ↔ ∀ written, settings.subnet = some written →
      ∀ effective, effectiveSubnet? written = some effective → Subnet.ofText? effective ≠ none := by
  rw [ServerSettings.trusted]
  cases settings.subnet with
  | none => exact iff_of_true rfl nofun
  | some written =>
    simp only [Option.some.injEq, forall_eq', effectiveSubnet?, Option.getD_some]
    cases blank : (Text.trim written).isEmpty with
    | true => simp [Option.filter, blank, Except.toOption]
    | false =>
      simp only [Option.filter, blank, Bool.not_false, if_true, Option.some.injEq, forall_eq']
      cases Subnet.ofText? (Text.trim written) with
      | none => exact iff_of_false Bool.false_ne_true fun isSubnet => isSubnet rfl
      | some subnet => exact iff_of_true rfl (Option.some_ne_none subnet)

/-- All values are sound just if the subnet is. -/
theorem passes_iff (settings : ServerSettings) :
    settings.trusted.toOption.isSome = true ↔ ∀ (name : ServerField) value,
      name.setting.get settings = some value → name.setting.field.IsSound value := by
  rw [trusted_isSome_iff]
  constructor
  · intro isSubnet name
    cases name with
    | subnet => exact isSubnet
    | _ => exact fun _ _ => trivial
  · exact fun sound => sound .subnet

theorem get_defaults (name : ServerField) :
    name.setting.get ServerSettings.defaults = name.setting.field.otherwise := by
  cases name <;> rfl

/-- The settings of a file are the defaults with what the file says laid over them. -/
theorem isLayer_ofMembers? (members : Toml.Members) :
    IsLayer setting
      (fun name => told? name.setting.field.form.ofItem? (members.lookup name.setting.field.key))
      ServerSettings.defaults (ServerSettings.ofMembers? members) where
  overlays after isAfter := by
    simp only [ServerSettings.ofMembers?, Source.member?_eq, Option.bind_eq_bind,
      Option.bind_eq_some_iff] at isAfter
    obtain ⟨_, _, _, _, _, _, _, _, _, _, _, _, _, _, _, _, _, _, _, _, same⟩ := isAfter
    obtain rfl := Option.some.inj same
    intro name
    cases name with
    | address | storeInterval | filePath | restore | shutdownTimeout =>
      refine ⟨_, ?_, some_getD _ _⟩
      assumption
    | grpcAddress | dsn | key | cryptoKey | subnet =>
      refine ⟨_, ?_, orElse_none _⟩
      assumption
  exists_after legible := by
    choose words isWord using fun name => Option.ne_none_iff_exists'.mp (legible name)
    simp only [ServerSettings.ofMembers?, Source.member?_eq, Option.bind_eq_bind,
      Option.bind_eq_some_iff]
    exact ⟨_, _, isWord .address, _, isWord .grpcAddress, _, isWord .storeInterval, _,
      isWord .filePath, _, isWord .restore, _, isWord .dsn, _, isWord .key, _, isWord .cryptoKey,
      _, isWord .subnet, _, isWord .shutdownTimeout, rfl⟩

/-- The flags of a server are laid over the settings. -/
theorem isLayer_applyFlags (sources : Sources) (before : ServerSettings) :
    IsLayer setting (fun name => name.setting.field.inFlags? sources) before
      (some (before.applyFlags sources.given)) where
  overlays after isAfter := by
    obtain rfl := Option.some.inj isAfter
    intro name
    cases name with
    | address | storeInterval | filePath | restore | shutdownTimeout =>
      exact ⟨_, rfl, some_getD _ _⟩
    | grpcAddress | dsn | key | cryptoKey | subnet => exact ⟨_, rfl, rfl⟩
  exists_after _ := ⟨_, rfl⟩

/-- The environment of a server is laid over the settings. -/
theorem isLayer_applyEnvironment (sources : Sources) (before : ServerSettings) :
    IsLayer setting (fun name => name.setting.field.inEnvironment? sources) before
      (before.applyEnvironment sources.environment).toOption := by
  simp only [ServerSettings.applyEnvironment, Source.fromVariable, Source.toOption_bind,
    Source.toOption_readOptional (Source.toOption_readNumber _),
    Source.toOption_readOptional (Source.toOption_readTruth _)]
  constructor
  · intro after isAfter
    simp only [Option.bind_eq_some_iff] at isAfter
    obtain ⟨_, isInterval, _, isRestore, _, isTimeout, same⟩ := isAfter
    obtain rfl := Option.some.inj same
    intro name
    cases name <;>
      simp only [setting, Field.free, Field.inEnvironment?, Field.written?, Form.text, Form.number,
        Form.truth, told?_some]
    case storeInterval => exact ⟨_, isInterval, some_getD _ _⟩
    case restore => exact ⟨_, isRestore, some_getD _ _⟩
    case shutdownTimeout => exact ⟨_, isTimeout, some_getD _ _⟩
    case address | filePath => exact ⟨_, rfl, some_getD _ _⟩
    case grpcAddress | dsn | key | cryptoKey | subnet => exact ⟨_, rfl, rfl⟩
  · intro legible
    obtain ⟨_, isInterval⟩ := Option.ne_none_iff_exists'.mp (legible .storeInterval)
    obtain ⟨_, isRestore⟩ := Option.ne_none_iff_exists'.mp (legible .restore)
    obtain ⟨_, isTimeout⟩ := Option.ne_none_iff_exists'.mp (legible .shutdownTimeout)
    simp only [setting, Field.free, Field.inEnvironment?, Field.written?, Form.number,
      Form.truth] at isInterval isRestore isTimeout
    simp only [isInterval, isRestore, isTimeout]
    exact ⟨_, rfl⟩

/-- How the settings of a server come about. -/
def scheme : Scheme ServerField ServerSettings where
  setting
  defaults := ServerSettings.defaults
  ofMembers? := ServerSettings.ofMembers?
  applyFlags? given before := some (before.applyFlags given)
  applyEnvironment? environment before := (before.applyEnvironment environment).toOption
  passes settings := settings.trusted.toOption.isSome
  get_defaults
  file := isLayer_ofMembers?
  flags := isLayer_applyFlags
  environment := isLayer_applyEnvironment
  passes_iff
  complete

/-- A server has the settings that its sources come to. -/
theorem toOption_resolve (sources : Sources) :
    (ServerSettings.resolve sources.environment sources.files sources.given).toOption =
      scheme.outcome? sources := by
  have silent : ServerSettings.ofMembers? [] = some ServerSettings.defaults := rfl
  rw [ServerSettings.resolve, Source.toOption_bind, Source.toOption_readFile sources silent,
    Scheme.outcome?, Option.bind_assoc]
  refine Option.bind_congr fun members _ => Option.bind_congr fun fromFile _ => ?_
  rw [Source.toOption_bind]
  refine Option.bind_congr fun settings _ => ?_
  dsimp only [scheme]
  exact Source.toOption_checked ServerSettings.trusted settings

end ServerField

/-! ### Agents -/

/-- The fields of an agent's settings. -/
inductive AgentField
  | address
  | grpcAddress
  | reportInterval
  | pollInterval
  | key
  | cryptoKey
  | retryDelays
  | requestTimeout
  deriving DecidableEq

namespace AgentField

/-- Where the fields come from, and what they are in the settings. The intervals and the timeout
have to be positive. -/
def setting : AgentField → Setting AgentSettings
  | .address => ⟨String, .free .text "ADDRESS" "address" "address" (some "localhost:8080"),
      fun settings => some settings.address⟩
  | .grpcAddress => ⟨String, .free .text "GRPC_ADDRESS" "grpc-address" "grpc_address" none,
      fun settings => settings.grpcAddress⟩
  | .reportInterval => ⟨Nat, ⟨"REPORT_INTERVAL", "report-interval", "report_interval", .number,
      some 10, (0 < ·)⟩, fun settings => some settings.reportInterval⟩
  | .pollInterval => ⟨Nat, ⟨"POLL_INTERVAL", "poll-interval", "poll_interval", .number, some 2,
      (0 < ·)⟩, fun settings => some settings.pollInterval⟩
  | .key => ⟨String, .free .text "KEY" "key" "key" none, fun settings => settings.key⟩
  | .cryptoKey => ⟨String, .free .text "CRYPTO_KEY" "crypto-key" "crypto_key" none,
      fun settings => settings.cryptoKey⟩
  | .retryDelays => ⟨List Nat, .free .delays "RETRY_DELAYS" "retry-delays" "retry_delays"
      (some [1, 3, 5]), fun settings => some settings.retryDelays⟩
  | .requestTimeout => ⟨Nat, ⟨"REQUEST_TIMEOUT", "request-timeout", "request_timeout", .number,
      some 10, (0 < ·)⟩, fun settings => some settings.requestTimeout⟩

theorem complete (settings others : AgentSettings)
    (same : ∀ name : AgentField, name.setting.get settings = name.setting.get others) :
    settings = others := by
  cases settings
  cases others
  rw [AgentSettings.mk.injEq]
  exact ⟨Option.some.inj (same .address), same .grpcAddress,
    Option.some.inj (same .reportInterval), Option.some.inj (same .pollInterval), same .key,
    same .cryptoKey, Option.some.inj (same .retryDelays),
    Option.some.inj (same .requestTimeout)⟩

/-- The check passes just if the intervals and the timeout are positive. -/
theorem check_isSome_iff (settings : AgentSettings) :
    settings.check.toOption.isSome = true ↔
      0 < settings.reportInterval ∧ 0 < settings.pollInterval ∧ 0 < settings.requestTimeout := by
  simp only [AgentSettings.check, Nat.pos_iff_ne_zero]
  split
  · next zero => exact iff_of_false Bool.false_ne_true fun positive => positive.1 zero
  · next report =>
    split
    · next zero => exact iff_of_false Bool.false_ne_true fun positive => positive.2.1 zero
    · next poll =>
      split
      · next zero => exact iff_of_false Bool.false_ne_true fun positive => positive.2.2 zero
      · next timeout => exact iff_of_true rfl ⟨report, poll, timeout⟩

/-- All values are sound just if the intervals and the timeout are positive. -/
theorem passes_iff (settings : AgentSettings) :
    settings.check.toOption.isSome = true ↔ ∀ (name : AgentField) value,
      name.setting.get settings = some value → name.setting.field.IsSound value := by
  rw [check_isSome_iff]
  constructor
  · rintro ⟨report, poll, timeout⟩ name value isValue
    cases name with
    | reportInterval => exact Option.some.inj isValue ▸ report
    | pollInterval => exact Option.some.inj isValue ▸ poll
    | requestTimeout => exact Option.some.inj isValue ▸ timeout
    | _ => trivial
  · exact fun sound => ⟨sound .reportInterval _ rfl, sound .pollInterval _ rfl,
      sound .requestTimeout _ rfl⟩

theorem get_defaults (name : AgentField) :
    name.setting.get AgentSettings.defaults = name.setting.field.otherwise := by
  cases name <;> rfl

/-- The settings of a file are the defaults with what the file says laid over them. -/
theorem isLayer_ofMembers? (members : Toml.Members) :
    IsLayer setting
      (fun name => told? name.setting.field.form.ofItem? (members.lookup name.setting.field.key))
      AgentSettings.defaults (AgentSettings.ofMembers? members) where
  overlays after isAfter := by
    simp only [AgentSettings.ofMembers?, Source.member?_eq, Option.bind_eq_bind,
      Option.bind_eq_some_iff] at isAfter
    obtain ⟨_, _, _, _, _, _, _, _, _, _, _, _, _, _, _, _, same⟩ := isAfter
    obtain rfl := Option.some.inj same
    intro name
    cases name with
    | address | reportInterval | pollInterval | retryDelays | requestTimeout =>
      refine ⟨_, ?_, some_getD _ _⟩
      assumption
    | grpcAddress | key | cryptoKey =>
      refine ⟨_, ?_, orElse_none _⟩
      assumption
  exists_after legible := by
    choose words isWord using fun name => Option.ne_none_iff_exists'.mp (legible name)
    simp only [AgentSettings.ofMembers?, Source.member?_eq, Option.bind_eq_bind,
      Option.bind_eq_some_iff]
    exact ⟨_, _, isWord .address, _, isWord .grpcAddress, _, isWord .reportInterval, _,
      isWord .pollInterval, _, isWord .key, _, isWord .cryptoKey, _, isWord .retryDelays, _,
      isWord .requestTimeout, rfl⟩

/-- The flags of an agent are laid over the settings, and the delays are read even if a variable
goes before them. -/
theorem isLayer_applyFlags (sources : Sources) (before : AgentSettings) :
    IsLayer setting (fun name => name.setting.field.inFlags? sources) before
      (before.applyFlags sources.given).toOption := by
  simp only [AgentSettings.applyFlags, Source.toOption_bind,
    Source.toOption_readOptional (Source.toOption_readDelays _)]
  constructor
  · intro after isAfter
    obtain ⟨_, isDelays, same⟩ := Option.bind_eq_some_iff.mp isAfter
    obtain rfl := Option.some.inj same
    intro name
    cases name <;>
      simp only [setting, Field.free, Field.inFlags?, Form.text, Form.number, Form.delays]
    case retryDelays => exact ⟨_, isDelays, some_getD _ _⟩
    case address | reportInterval | pollInterval | requestTimeout =>
      exact ⟨_, rfl, some_getD _ _⟩
    case grpcAddress | key | cryptoKey => exact ⟨_, rfl, rfl⟩
  · intro legible
    obtain ⟨_, isDelays⟩ := Option.ne_none_iff_exists'.mp (legible .retryDelays)
    simp only [setting, Field.free, Field.inFlags?, Form.delays] at isDelays
    exact ⟨_, Option.bind_eq_some_iff.mpr ⟨_, isDelays, rfl⟩⟩

/-- The environment of an agent is laid over the settings. -/
theorem isLayer_applyEnvironment (sources : Sources) (before : AgentSettings) :
    IsLayer setting (fun name => name.setting.field.inEnvironment? sources) before
      (before.applyEnvironment sources.environment).toOption := by
  simp only [AgentSettings.applyEnvironment, Source.fromVariable, Source.toOption_bind,
    Source.toOption_readOptional (Source.toOption_readNumber _),
    Source.toOption_readOptional (Source.toOption_readDelays _)]
  constructor
  · intro after isAfter
    simp only [Option.bind_eq_some_iff] at isAfter
    obtain ⟨_, isReport, _, isPoll, _, isDelays, _, isTimeout, same⟩ := isAfter
    obtain rfl := Option.some.inj same
    intro name
    cases name <;>
      simp only [setting, Field.free, Field.inEnvironment?, Field.written?, Form.text, Form.number,
        Form.delays, told?_some]
    case reportInterval => exact ⟨_, isReport, some_getD _ _⟩
    case pollInterval => exact ⟨_, isPoll, some_getD _ _⟩
    case retryDelays => exact ⟨_, isDelays, some_getD _ _⟩
    case requestTimeout => exact ⟨_, isTimeout, some_getD _ _⟩
    case address => exact ⟨_, rfl, some_getD _ _⟩
    case grpcAddress | key | cryptoKey => exact ⟨_, rfl, rfl⟩
  · intro legible
    obtain ⟨_, isReport⟩ := Option.ne_none_iff_exists'.mp (legible .reportInterval)
    obtain ⟨_, isPoll⟩ := Option.ne_none_iff_exists'.mp (legible .pollInterval)
    obtain ⟨_, isDelays⟩ := Option.ne_none_iff_exists'.mp (legible .retryDelays)
    obtain ⟨_, isTimeout⟩ := Option.ne_none_iff_exists'.mp (legible .requestTimeout)
    simp only [setting, Field.free, Field.inEnvironment?, Field.written?, Form.number,
      Form.delays] at isReport isPoll isDelays isTimeout
    simp only [isReport, isPoll, isDelays, isTimeout]
    exact ⟨_, rfl⟩

/-- How the settings of an agent come about. -/
def scheme : Scheme AgentField AgentSettings where
  setting
  defaults := AgentSettings.defaults
  ofMembers? := AgentSettings.ofMembers?
  applyFlags? given before := (before.applyFlags given).toOption
  applyEnvironment? environment before := (before.applyEnvironment environment).toOption
  passes settings := settings.check.toOption.isSome
  get_defaults
  file := isLayer_ofMembers?
  flags := isLayer_applyFlags
  environment := isLayer_applyEnvironment
  passes_iff
  complete

/-- An agent has the settings that its sources come to. -/
theorem toOption_resolve (sources : Sources) :
    (AgentSettings.resolve sources.environment sources.files sources.given).toOption =
      scheme.outcome? sources := by
  have silent : AgentSettings.ofMembers? [] = some AgentSettings.defaults := rfl
  rw [AgentSettings.resolve, Source.toOption_bind, Source.toOption_readFile sources silent,
    Scheme.outcome?, Option.bind_assoc]
  refine Option.bind_congr fun members _ => Option.bind_congr fun fromFile _ => ?_
  rw [Source.toOption_bind]
  refine Option.bind_congr fun withFlags _ => ?_
  rw [Source.toOption_bind]
  refine Option.bind_congr fun settings _ => ?_
  dsimp only [scheme]
  exact Source.toOption_checked AgentSettings.check settings

end AgentField

/-! ### Both programs -/

/-- Servers and agents have each field of their settings from its variable, or else from its flag,
or else from the settings file, or else by default. -/
theorem resolve_byPrecedence :
    ByPrecedence ServerField.setting (fun sources =>
      ServerSettings.resolve sources.environment sources.files sources.given) ∧
    ByPrecedence AgentField.setting (fun sources =>
      AgentSettings.resolve sources.environment sources.files sources.given) :=
  ⟨ServerField.scheme.byPrecedence ServerField.toOption_resolve,
    AgentField.scheme.byPrecedence AgentField.toOption_resolve⟩

/-- The variable goes before the flag and the file, the flag before the default, the file as well,
and a variable that cannot be read, a subnet that is none, or an interval of zero leaves no
settings. -/
theorem resolve_byPrecedence_every_source :
    let files : SettingsFiles := fun path =>
      if path = "server.toml" then some "store_interval = 1\nkey = 'k'\n" else none
    let environment : Environment := fun name =>
      if name = "STORE_INTERVAL" then some " 5 " else none
    let given : GivenFlags :=
      [("config", .text "server.toml"), ("store-interval", .number 7), ("address", .text ":9000")]
    (∃ settings, ServerSettings.resolve environment files given = .ok settings ∧
      settings.storeInterval = 5 ∧ settings.address = ":9000" ∧ settings.key = some "k" ∧
      settings.shutdownTimeout = 10) ∧
    (∃ problem, ServerSettings.resolve (fun _ => some "soon") files given = .error problem) ∧
    (∃ problem, ServerSettings.resolve environment files
      [("trusted-subnet", .text "10.0.0.0")] = .error problem) ∧
    ∃ problem, AgentSettings.resolve environment files
      [("poll-interval", .number 0)] = .error problem := by
  intro files environment given
  obtain ⟨server, agent⟩ := resolve_byPrecedence
  have done : ServerSettings.resolve environment files given = .ok ⟨":9000", none, 5,
    "/tmp/metrics-db.json", true, none, some "k", none, none, 10⟩ := rfl
  have settled := ((server.resolved ⟨environment, given, files⟩ _).mp done).2
  refine ⟨⟨_, done, ?_, ?_, ?_, ?_⟩, ?_, ?_, ?_⟩
  · exact Option.some.inj ((settled .storeInterval).settles.unique (.byVariable rfl rfl))
  · exact Option.some.inj ((settled .address).settles.unique (.byFlag rfl rfl))
  · exact (settled .key).settles.unique (.byFile rfl rfl rfl rfl)
  · exact Option.some.inj ((settled .shutdownTimeout).settles.unique (.byDefault rfl rfl rfl))
  · exact server.illegible ⟨fun _ => some "soon", given, files⟩ .storeInterval "soon" rfl rfl
  · exact server.unsound ⟨environment, [("trusted-subnet", .text "10.0.0.0")], files⟩ .subnet
      "10.0.0.0" (.byFlag rfl rfl) fun sound => sound "10.0.0.0" rfl rfl
  · exact agent.unsound ⟨environment, [("poll-interval", .number 0)], files⟩ .pollInterval
      (0 : Nat) (.byFlag rfl rfl) (Nat.lt_irrefl 0)

end Metering
