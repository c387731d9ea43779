import PeriodScaler.Controller.Config
import PeriodScaler.Controller.LogFilter

/-!
# Start of the controller

What the controller tells about itself before it has reached a cluster: that it starts, and then its
settings, or what is wrong with them. Without a cluster it ends there. Characters that would steer
the screen of a reader are written as numbers.

Model of `main` up to the point where it needs a cluster. Left out: `Controller` with `new` and
`run`, which join the library's controller to the parts that are modelled apart.
-/

namespace PeriodScaler.Startup

/-- What a program leaves behind: its log, and the error that ends it. -/
structure Transcript where
  log : List String
  failure : ControllerError
  deriving DecidableEq, Repr

/-- The target of the controller's own messages. -/
def target : String := "scaler_controller"

/-- The filter that a variable names; the standard one when it is not set or makes no sense. -/
def filter (lookup : Config.Lookup) : LogFilter :=
  ((lookup "RUST_LOG").bind LogFilter.ofText?).getD LogFilter.standard

/-- A character of a message as it is written. -/
def shownChar (c : Char) : List Char :=
  if c = '\x1b' ∨ c = '\x07' ∨ c = '\x08' ∨ c = '\x0c' ∨ c = '\x7f' then
    ['\\', 'x', Text.hexDigit (c.toNat / 16), Text.hexDigit (c.toNat % 16)]
  else if '\x80' ≤ c ∧ c ≤ '\x9f' then
    "\\u\x7b".toList ++ Nat.toDigits 16 c.toNat ++ ['\x7d']
  else [c]

/-- A message as it is written. -/
def shown (message : String) : String :=
  String.ofList (message.toList.flatMap shownChar)

/-- The settings as they are told. -/
def settingsLines (c : Config) : List String :=
  ["Configuration:",
    "  Namespace: " ++ c.namespaceName.getD "all namespaces",
    "  Steady requeue: " ++ c.settings.steady.text,
    "  Error requeue: " ++ c.settings.afterError.text,
    "  Run-once grace: " ++ c.settings.grace.text,
    "  Status update retries: " ++ Text.ofNat c.settings.attempts,
    "  Metrics address: " ++ c.metricsAddress.text]

/-- A start that never reaches a cluster. -/
def withoutCluster (lookup : Config.Lookup) : Transcript :=
  let greeting := "Starting CloudScaler Controller"
  let transcript : Transcript :=
    match Config.load lookup with
    | .error e => ⟨[greeting], e⟩
    | .ok c => ⟨(greeting :: settingsLines c).map shown, .cluster⟩
  if (filter lookup).allows target .info then transcript else { transcript with log := [] }

/-- How the error that ends a program is told. -/
def Transcript.errorText (t : Transcript) : String :=
  "Error: " ++ t.failure.message

end PeriodScaler.Startup
