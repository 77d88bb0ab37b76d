import ReportQuery.CommandLine
import ReportQuery.CommandLine.Arguments
import Std.Time.Format

namespace ReportQuery.Program

open CommandLine

def readText? (path : String) : IO (Option String) :=
  try
    let text ← IO.FS.readFile path
    pure (some text)
  catch _ => pure none

def environment : IO (Entries String) := do
  let names := ["PROPERTY_ID", "DOMAIN", "CREDENTIALS_FILE", "SCOPING_DIMENSION", "LOG_LEVEL"]
  let names := names.map ("GA4_" ++ ·)
  let found ← (names ++ names.map Settings.fold).filterMapM fun name => do
    pure ((← IO.getEnv name).map (name, ·))
  pure found

def now : IO String := do
  pure (Std.Time.DateTime.ofTimestamp (← Std.Time.Timestamp.now) .UTC).toISO8601String

def freshId : IO String := do
  let n ← IO.rand 0 0xffffffffffff
  pure (String.ofList (Text.hex 12 n))

/-- The client of the program, for which there is no connection to the service. -/
def unconnected : ReportClient Report :=
  .inMemory (.error ⟨.transport, "no connection to the reporting service", none⟩)

def perform (command : Effect) (time : String) : IO UInt32 := do
  let effect := command.withLineFeeds
  let stderr ← IO.getStderr
  stderr.putStr effect.err
  for record in effect.log do
    stderr.putStrLn (record.line time)
  IO.print effect.out
  match effect.crash with
  | some crash => stderr.putStrLn crash.message
  | none => pure ()
  pure effect.exitCode.toUInt32

def run (arguments : Arguments) : IO UInt32 := do
  let settings := Settings.ofSources (← environment) (← readText? ".env")
  let time ← now
  match arguments with
  | .explain path propertyId =>
    let file : RequestFile := ⟨path, ← readText? path⟩
    perform (withLogging settings (explain settings file propertyId)) time
  | .query path trace =>
    let file : RequestFile := ⟨path, ← readText? path⟩
    let key ← readText? settings.credentialsFile
    let connect (keyPath : String) : Except Crash (ReportClient Report) :=
      if key.isNone then .error (.noKeyFile keyPath) else .ok unconnected
    perform (withLogging settings (query settings file trace connect (← freshId) time)) time

end ReportQuery.Program

def main (args : List String) : IO UInt32 := do
  match ReportQuery.CommandLine.Arguments.parse args with
  | some arguments => ReportQuery.Program.run arguments
  | none =>
    (← IO.getStderr).putStr ReportQuery.CommandLine.Arguments.usage
    pure 2
