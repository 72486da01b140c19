/-
The command line. The first argument says whether the settings of a server or of an agent are
wanted; the flags behind it, the environment and a settings file are put together, and what they
come to is printed, without secrets. The exit code is 2 for a command line at fault and 1 for
settings at fault.
-/

import Metering.Settings.Agent
import Metering.Settings.Server

namespace Metering.CommandLine

/-- The variables that may hold settings. -/
def variableNames : List String :=
  ["ADDRESS", "GRPC_ADDRESS", "STORE_INTERVAL", "FILE_STORAGE_PATH", "RESTORE", "DATABASE_DSN",
    "KEY", "CRYPTO_KEY", "TRUSTED_SUBNET", "SHUTDOWN_TIMEOUT", "REPORT_INTERVAL",
    "POLL_INTERVAL", "RETRY_DELAYS", "REQUEST_TIMEOUT"]

/-- How the program is called. -/
def usage : String := "usage: metering server|agent [flags]"

/-- The version. -/
def version : String := "metering 0.1.0"

/-- A flag as the help shows it. -/
def flagLine (flag : Flag) : String :=
  let letter := match flag.letter with
    | some letter => "  -" ++ String.singleton letter ++ ", "
    | none => "      "
  letter ++ "--" ++ flag.long ++ " <value>"

/-- The help about flags. -/
def help (flags : List Flag) : String :=
  "\n".intercalate (usage :: flags.map flagLine)

/-- The lines that show the settings of a server. -/
def serverLines (settings : ServerSettings) : List String :=
  ["address: " ++ settings.address, "grpc address: " ++ settings.grpcUsed?.getD "none",
    "storage: " ++ (settings.redactedDsn?.filter (!·.isEmpty)).getD settings.filePath,
    "store interval: " ++ toString settings.storeInterval ++ " s",
    "restore: " ++ toString settings.restore,
    "signed: " ++ toString settings.secret?.isSome,
    "encrypted: " ++ toString settings.cryptoKey.isSome,
    "trusted subnet: " ++ settings.subnet.getD "none",
    "shutdown timeout: " ++ toString settings.shutdownTimeout ++ " s"]

/-- The lines that show the settings of an agent. -/
def agentLines (settings : AgentSettings) : List String :=
  ["server: " ++ settings.grpcUsed?.getD settings.address,
    "report interval: " ++ toString settings.reportInterval ++ " s",
    "poll interval: " ++ toString settings.pollInterval ++ " s",
    "retry delays: " ++ ", ".intercalate (settings.retryDelays.map toString),
    "request timeout: " ++ toString settings.requestTimeout ++ " s",
    "signed: " ++ toString settings.secret?.isSome,
    "encrypted: " ++ toString settings.cryptoKey.isSome,
    "ignored: " ++ ", ".intercalate settings.ignored]

/-- The variables of the environment that are set. -/
def environment : IO Environment := do
  let values ← variableNames.filterMapM fun name => do
    return (← IO.getEnv name).map fun value => (name, value)
  return fun name => values.lookup name

/-- The text of the settings file that flags name, if it can be read. -/
def settingsFile (given : GivenFlags) : IO SettingsFiles := do
  match given.text? "config" with
  | none => return fun _ => none
  | some path =>
    let content ← (some <$> IO.FS.readFile path) <|> pure none
    return fun name => if name = path then content else none

/-- Prints what flags, the environment and a settings file come to. -/
def report {Settings : Type} (flags : List Flag) (lines : Settings → List String)
    (resolve : Environment → SettingsFiles → GivenFlags → Except SettingsError Settings)
    (arguments : List String) : IO UInt32 := do
  match Flag.read flags arguments with
  | .error .helpWanted => IO.println (help flags); return 0
  | .error .versionWanted => IO.println version; return 0
  | .error problem => IO.eprintln problem.message; return 2
  | .ok given =>
    match resolve (← environment) (← settingsFile given) given with
    | .ok settings => (lines settings).forM IO.println; return 0
    | .error problem =>
      IO.eprintln (problem.message ++ (problem.cause?.map (": " ++ ·)).getD "")
      return 1

end Metering.CommandLine

open Metering in
/-- Runs the command that the arguments name. -/
def main (arguments : List String) : IO UInt32 := do
  match arguments with
  | "server" :: rest =>
    CommandLine.report ServerSettings.flags CommandLine.serverLines ServerSettings.resolve rest
  | "agent" :: rest =>
    CommandLine.report AgentSettings.flags CommandLine.agentLines AgentSettings.resolve rest
  | _ => IO.eprintln CommandLine.usage; return 2
