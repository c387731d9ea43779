import PeriodScaler.Controller.Startup
import PeriodScaler.Manifest.Definition

/-!
# Command line

Two programs in one: `crdgen` prints the definition of the resource type, and `scaler-controller`
starts a controller, which ends where it would need a cluster.

Model of the two functions `main`, with the name of the program as first argument.
-/

namespace PeriodScaler.CommandLine

/-- The variables that the controller reads. -/
def settingNames : List String :=
  ["STEADY_REQUEUE_SECONDS", "ERROR_REQUEUE_SECONDS", "RUN_ONCE_GRACE_SECONDS",
    "STATUS_UPDATE_RETRIES", "WATCH_NAMESPACE", "METRICS_ADDR", "RUST_LOG"]

/-- The variables that are set, with their values. -/
def environment : IO (List (String × String)) := do
  let read ← settingNames.mapM fun name => do
    return (← IO.getEnv name).map fun value => (name, value)
  return read.reduceOption

/-- Prints the definition of the resource type. -/
def printDefinition : IO UInt32 := do
  IO.print Manifest.document
  return 0

/-- Starts a controller. -/
def startController : IO UInt32 := do
  let values ← environment
  let transcript := Startup.withoutCluster fun name => values.lookup name
  for entry in transcript.log do
    IO.println entry
  IO.eprintln transcript.errorText
  return 1

/-- Tells how the programs are called. -/
def printUsage : IO UInt32 := do
  IO.eprintln "usage: crdgen | scaler-controller"
  return 2

/-- Runs the program that the arguments name. -/
def run : List String → IO UInt32
  | ["crdgen"] => printDefinition
  | ["scaler-controller"] => startController
  | _ => printUsage

end PeriodScaler.CommandLine

/-- Runs the program that the arguments name. -/
def main (args : List String) : IO UInt32 :=
  PeriodScaler.CommandLine.run args
