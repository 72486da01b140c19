/-
The settings of a server: the defaults, with the settings file, the flags and the environment laid
over them one after the other. The subnet must be one in the end; an empty text stands for none,
as it does for the shared secret, the second address and the connection string.
-/

import Metering.Address.Subnet
import Metering.Settings.Source
import Metering.Storage.Basic

namespace Metering

/-- The settings of a server; times are in seconds. -/
structure ServerSettings where
  address : String
  grpcAddress : Option String
  storeInterval : Nat
  filePath : String
  restore : Bool
  dsn : Option String
  key : Option String
  cryptoKey : Option String
  subnet : Option String
  shutdownTimeout : Nat
  deriving DecidableEq, Repr

namespace ServerSettings

/-- The flags of a server. -/
def flags : List Flag :=
  [⟨"config", none, .path⟩, ⟨"address", some 'a', .text⟩, ⟨"grpc-address", some 'g', .text⟩,
    ⟨"store-interval", some 'i', .number⟩, ⟨"file-storage-path", some 'f', .text⟩,
    ⟨"restore", some 'r', .truth⟩, ⟨"database-dsn", some 'd', .text⟩, ⟨"key", some 'k', .text⟩,
    ⟨"crypto-key", none, .path⟩, ⟨"trusted-subnet", some 't', .text⟩,
    ⟨"shutdown-timeout", none, .number⟩]

/-- The settings that no source says anything about. -/
def defaults : ServerSettings where
  address := "localhost:8080"
  grpcAddress := none
  storeInterval := 300
  filePath := "/tmp/metrics-db.json"
  restore := true
  dsn := none
  key := none
  cryptoKey := none
  subnet := none
  shutdownTimeout := 10

/-- The settings of a file, if everything that it says is of the right kind. -/
def ofMembers? (members : Toml.Members) : Option ServerSettings := do
  return {
    address := (← Source.member? members "address" Toml.Item.text?).getD defaults.address
    grpcAddress := ← Source.member? members "grpc_address" Toml.Item.text?
    storeInterval :=
      (← Source.member? members "store_interval" Toml.Item.natural?).getD defaults.storeInterval
    filePath :=
      (← Source.member? members "file_storage_path" Toml.Item.text?).getD defaults.filePath
    restore := (← Source.member? members "restore" Toml.Item.boolean?).getD defaults.restore
    dsn := ← Source.member? members "database_dsn" Toml.Item.text?
    key := ← Source.member? members "key" Toml.Item.text?
    cryptoKey := ← Source.member? members "crypto_key" Toml.Item.text?
    subnet := ← Source.member? members "trusted_subnet" Toml.Item.text?
    shutdownTimeout :=
      (← Source.member? members "shutdown_timeout" Toml.Item.natural?).getD
        defaults.shutdownTimeout }

/-- The settings after the flags. -/
def applyFlags (given : GivenFlags) (settings : ServerSettings) : ServerSettings :=
  let settings := { settings with address := (given.text? "address").getD settings.address }
  let settings :=
    { settings with grpcAddress := given.text? "grpc-address" <|> settings.grpcAddress }
  let settings :=
    { settings with
      storeInterval := (given.number? "store-interval").getD settings.storeInterval }
  let settings :=
    { settings with filePath := (given.text? "file-storage-path").getD settings.filePath }
  let settings := { settings with restore := (given.truth? "restore").getD settings.restore }
  let settings := { settings with dsn := given.text? "database-dsn" <|> settings.dsn }
  let settings := { settings with key := given.text? "key" <|> settings.key }
  let settings := { settings with cryptoKey := given.text? "crypto-key" <|> settings.cryptoKey }
  let settings := { settings with subnet := given.text? "trusted-subnet" <|> settings.subnet }
  { settings with
    shutdownTimeout := (given.number? "shutdown-timeout").getD settings.shutdownTimeout }

/-- The settings after the environment, up to the first variable that cannot be read. -/
def applyEnvironment (environment : Environment) (settings : ServerSettings) :
    Except SettingsError ServerSettings := do
  let settings := { settings with address := (environment "ADDRESS").getD settings.address }
  let settings :=
    { settings with grpcAddress := environment "GRPC_ADDRESS" <|> settings.grpcAddress }
  let storeInterval ← Source.fromVariable environment "STORE_INTERVAL" Source.readNumber
  let settings :=
    { settings with storeInterval := storeInterval.getD settings.storeInterval }
  let settings :=
    { settings with filePath := (environment "FILE_STORAGE_PATH").getD settings.filePath }
  let restore ← Source.fromVariable environment "RESTORE" Source.readTruth
  let settings := { settings with restore := restore.getD settings.restore }
  let settings := { settings with dsn := environment "DATABASE_DSN" <|> settings.dsn }
  let settings := { settings with key := environment "KEY" <|> settings.key }
  let settings := { settings with cryptoKey := environment "CRYPTO_KEY" <|> settings.cryptoKey }
  let settings := { settings with subnet := environment "TRUSTED_SUBNET" <|> settings.subnet }
  let shutdownTimeout ← Source.fromVariable environment "SHUTDOWN_TIMEOUT" Source.readNumber
  return { settings with
    shutdownTimeout := shutdownTimeout.getD settings.shutdownTimeout }

/-- The subnet that clients have to be in, if there is one. -/
def trusted (settings : ServerSettings) : Except SettingsError (Option Subnet) :=
  let written := Text.trim (settings.subnet.getD "")
  if written.isEmpty then .ok none
  else
    match Subnet.ofText? written with
    | some subnet => .ok (some subnet)
    | none => .error (.badSubnet written)

/-- The settings that the file that the flags name, the flags and an environment come to, each
laid over those before. -/
def resolve (environment : Environment) (files : SettingsFiles) (given : GivenFlags) :
    Except SettingsError ServerSettings := do
  let settings ← Source.readFile files defaults ofMembers? (given.text? "config")
  let settings := settings.applyFlags given
  let settings ← settings.applyEnvironment environment
  let _ ← settings.trusted
  return settings

/-- The settings that a command line, an environment and the files come to. -/
def start (environment : Environment) (files : SettingsFiles) (arguments : List String) :
    Except StartError ServerSettings := do
  let given ← (Flag.read flags arguments).mapError StartError.flags
  (resolve environment files given).mapError StartError.settings

/-! ### What the settings mean -/

/-- The shared secret, if there is one. -/
def secret? (settings : ServerSettings) : Option String := settings.key.filter (!·.isEmpty)

/-- The address of the second front end, if there is one. -/
def grpcUsed? (settings : ServerSettings) : Option String :=
  settings.grpcAddress.filter (!·.isEmpty)

/-- How the metrics are kept. -/
def storage (settings : ServerSettings) : StorageSettings where
  path := some (Text.trim settings.filePath) |>.filter (!·.isEmpty)
  interval := 1000 * settings.storeInterval
  restore := settings.restore
  dsn := settings.dsn.filter (!·.isEmpty)

/-- A connection string with the password masked: what stands between the first colon of the
user and the first at sign. -/
def redact (dsn : String) : String :=
  match Text.cutAtPhrase? "://" dsn with
  | none => dsn
  | some (scheme, rest) =>
    match Text.cutAt? '@' rest with
    | none => dsn
    | some (login, host) =>
      let user := ((Text.pieces ':' login).head?).getD ""
      scheme ++ "://" ++ user ++ ":***@" ++ host

/-- The connection string with the password masked, if there is one. -/
def redactedDsn? (settings : ServerSettings) : Option String := settings.dsn.map redact

end ServerSettings

end Metering
