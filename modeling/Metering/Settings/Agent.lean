/-
The settings of an agent, which come about as those of a server do. The intervals and the timeout
have to be positive in the end; the delays between attempts may be none or zero.
-/

import Metering.Settings.Source

namespace Metering

/-- The settings of an agent; times are in seconds. -/
structure AgentSettings where
  address : String
  grpcAddress : Option String
  reportInterval : Nat
  pollInterval : Nat
  key : Option String
  cryptoKey : Option String
  retryDelays : List Nat
  requestTimeout : Nat
  deriving DecidableEq, Repr

namespace AgentSettings

/-- The flags of an agent. -/
def flags : List Flag :=
  [⟨"config", none, .path⟩, ⟨"address", some 'a', .text⟩, ⟨"grpc-address", some 'g', .text⟩,
    ⟨"report-interval", some 'r', .number⟩, ⟨"poll-interval", some 'p', .number⟩,
    ⟨"key", some 'k', .text⟩, ⟨"crypto-key", none, .path⟩, ⟨"retry-delays", none, .text⟩,
    ⟨"request-timeout", none, .number⟩]

/-- The settings that no source says anything about. -/
def defaults : AgentSettings where
  address := "localhost:8080"
  grpcAddress := none
  reportInterval := 10
  pollInterval := 2
  key := none
  cryptoKey := none
  retryDelays := [1, 3, 5]
  requestTimeout := 10

/-- The settings of a file, if everything that it says is of the right kind. -/
def ofMembers? (members : Toml.Members) : Option AgentSettings := do
  return {
    address := (← Source.member? members "address" Toml.Item.text?).getD defaults.address
    grpcAddress := ← Source.member? members "grpc_address" Toml.Item.text?
    reportInterval :=
      (← Source.member? members "report_interval" Toml.Item.natural?).getD
        defaults.reportInterval
    pollInterval :=
      (← Source.member? members "poll_interval" Toml.Item.natural?).getD defaults.pollInterval
    key := ← Source.member? members "key" Toml.Item.text?
    cryptoKey := ← Source.member? members "crypto_key" Toml.Item.text?
    retryDelays :=
      (← Source.member? members "retry_delays" Toml.Item.naturals?).getD defaults.retryDelays
    requestTimeout :=
      (← Source.member? members "request_timeout" Toml.Item.natural?).getD
        defaults.requestTimeout }

/-- The settings after the flags, if the list of delays can be read. -/
def applyFlags (given : GivenFlags) (settings : AgentSettings) :
    Except SettingsError AgentSettings := do
  let settings := { settings with address := (given.text? "address").getD settings.address }
  let settings :=
    { settings with grpcAddress := given.text? "grpc-address" <|> settings.grpcAddress }
  let settings :=
    { settings with
      reportInterval := (given.number? "report-interval").getD settings.reportInterval }
  let settings :=
    { settings with pollInterval := (given.number? "poll-interval").getD settings.pollInterval }
  let settings := { settings with key := given.text? "key" <|> settings.key }
  let settings := { settings with cryptoKey := given.text? "crypto-key" <|> settings.cryptoKey }
  let retryDelays ← Source.readOptional (Source.readDelays "--retry-delays")
    (given.text? "retry-delays")
  let settings := { settings with retryDelays := retryDelays.getD settings.retryDelays }
  return { settings with
    requestTimeout := (given.number? "request-timeout").getD settings.requestTimeout }

/-- The settings after the environment, up to the first variable that cannot be read. -/
def applyEnvironment (environment : Environment) (settings : AgentSettings) :
    Except SettingsError AgentSettings := do
  let settings := { settings with address := (environment "ADDRESS").getD settings.address }
  let settings :=
    { settings with grpcAddress := environment "GRPC_ADDRESS" <|> settings.grpcAddress }
  let reportInterval ← Source.fromVariable environment "REPORT_INTERVAL" Source.readNumber
  let settings :=
    { settings with reportInterval := reportInterval.getD settings.reportInterval }
  let pollInterval ← Source.fromVariable environment "POLL_INTERVAL" Source.readNumber
  let settings := { settings with pollInterval := pollInterval.getD settings.pollInterval }
  let settings := { settings with key := environment "KEY" <|> settings.key }
  let settings := { settings with cryptoKey := environment "CRYPTO_KEY" <|> settings.cryptoKey }
  let retryDelays ← Source.fromVariable environment "RETRY_DELAYS" Source.readDelays
  let settings := { settings with retryDelays := retryDelays.getD settings.retryDelays }
  let requestTimeout ← Source.fromVariable environment "REQUEST_TIMEOUT" Source.readNumber
  return { settings with requestTimeout := requestTimeout.getD settings.requestTimeout }

/-- Checks that the intervals and the timeout are positive. -/
def check (settings : AgentSettings) : Except SettingsError Unit :=
  if settings.reportInterval = 0 then .error .zeroReportInterval
  else if settings.pollInterval = 0 then .error .zeroPollInterval
  else if settings.requestTimeout = 0 then .error .zeroRequestTimeout
  else .ok ()

/-- The settings that the file that the flags name, the flags and an environment come to, each
laid over those before. -/
def resolve (environment : Environment) (files : SettingsFiles) (given : GivenFlags) :
    Except SettingsError AgentSettings := do
  let settings ← Source.readFile files defaults ofMembers? (given.text? "config")
  let settings ← settings.applyFlags given
  let settings ← settings.applyEnvironment environment
  settings.check
  return settings

/-- The settings that a command line, an environment and the files come to. -/
def start (environment : Environment) (files : SettingsFiles) (arguments : List String) :
    Except StartError AgentSettings := do
  let given ← (Flag.read flags arguments).mapError StartError.flags
  (resolve environment files given).mapError StartError.settings

/-! ### What the settings mean -/

/-- The shared secret, if there is one. -/
def secret? (settings : AgentSettings) : Option String := settings.key.filter (!·.isEmpty)

/-- The address that remote calls are made to, if they are wanted. -/
def grpcUsed? (settings : AgentSettings) : Option String :=
  settings.grpcAddress.filter (!·.isEmpty)

/-- The settings that have no effect because remote calls carry neither tags nor encrypted
bodies. -/
def ignored (settings : AgentSettings) : List String :=
  if settings.grpcUsed?.isNone then []
  else
    (if settings.secret?.isSome then ["key"] else []) ++
      if settings.cryptoKey.isSome then ["crypto_key"] else []

end AgentSettings

end Metering
