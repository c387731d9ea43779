import PeriodScaler.Json.Record
import PeriodScaler.Period.Declaration

/-!
# Instances of a project

Virtual machines and the operations on them, with the forms in which the service describes them.
Only the fields that a schedule needs are kept.

Model of `InstanceStatus`, `Instance`, `InstanceList` (`InstancePage`), `Operation`,
`OperationErrorItem` (`OperationFault`) and `TokenResponse` (`TokenAnswer`) with their derived forms
in JSON. `following` is the choice of the next page in `list_instances`. Nothing is left out.
-/

namespace PeriodScaler

/-- The state of an instance in its life. -/
inductive InstanceStatus where
  | provisioning | staging | running | stopping | stopped | suspending | suspended | repairing
  | terminated
  /-- Any state that is not one of the others. -/
  | unknown
  deriving DecidableEq, Repr, Inhabited

namespace InstanceStatus

/-- The states, each with the word for it. -/
def words : List (InstanceStatus × String) :=
  [(provisioning, "PROVISIONING"), (staging, "STAGING"), (running, "RUNNING"),
    (stopping, "STOPPING"), (stopped, "STOPPED"), (suspending, "SUSPENDING"),
    (suspended, "SUSPENDED"), (repairing, "REPAIRING"), (terminated, "TERMINATED")]

/-- The word for a state. -/
def name (s : InstanceStatus) : String :=
  (words.lookup s).getD "UNKNOWN"

/-- The state of a word. -/
def ofName (word : String) : InstanceStatus :=
  ((words.find? fun (_, w) => w == word).map Prod.fst).getD unknown

/-- Whether the instance is up or on its way up. -/
def isRunning (s : InstanceStatus) : Bool :=
  s == provisioning || s == staging || s == running

/-- Whether the instance is down and can be started. -/
def isStopped (s : InstanceStatus) : Bool :=
  s == stopped || s == terminated

/-- The JSON form. -/
def toJson (s : InstanceStatus) : Json :=
  .text s.name

/-- Reads the JSON form. -/
def ofJson? (j : Json) : Option InstanceStatus :=
  j.bareName?.map ofName

end InstanceStatus

/-- A virtual machine. -/
structure Instance where
  name : String
  zone : String
  status : InstanceStatus
  labels : List (String × String)
  deriving DecidableEq, Repr

namespace Instance

/-- What follows the last slash of the zone. -/
def zoneName (i : Instance) : String :=
  String.ofList ((i.zone.toList.reverse.takeWhile (· ≠ '/')).reverse)

/-- The JSON form. -/
def toJson (i : Instance) : Json :=
  .object [("name", .text i.name), ("zone", .text i.zone), ("status", i.status.toJson),
    ("labels", Json.ofTextMap i.labels)]

/-- Reads the JSON form. -/
def ofJson? (j : Json) : Option Instance := do
  let r ← j.record? ["name", "zone", "status", "labels"]
  return {
    name := ← r.required "name" Json.text?
    zone := ← r.withDefault "zone" "" Json.text?
    status := ← r.required "status" InstanceStatus.ofJson?
    labels := ← r.withDefault "labels" [] Json.textMap? }

end Instance

/-- One page of a list of instances, and the token of the next one. -/
structure InstancePage where
  items : List Instance
  next : Option String
  deriving DecidableEq, Repr

namespace InstancePage

/-- The JSON form. -/
def toJson (p : InstancePage) : Json :=
  .object (("items", .array (p.items.map Instance.toJson)) :: optionalText "nextPageToken" p.next)

/-- Reads the JSON form. -/
def ofJson? (j : Json) : Option InstancePage := do
  let r ← j.record? ["items", "nextPageToken"]
  return {
    items := ← r.withDefault "items" [] (Json.list? Instance.ofJson?)
    next := ← r.optional "nextPageToken" Json.text? }

/-- The token of the next page, if there is one; an empty token is none. -/
def following (p : InstancePage) : Option String :=
  p.next.filter fun token => token ≠ ""

end InstancePage

/-- One of the errors of an operation. -/
structure OperationFault where
  code : String
  message : String
  deriving DecidableEq, Repr

/-- A change of an instance under way. -/
structure Operation where
  name : String
  status : String
  target : Option String
  /-- The errors, when the operation has failed. -/
  errors : Option (List OperationFault)
  deriving DecidableEq, Repr

namespace OperationFault

/-- The JSON form. -/
def toJson (f : OperationFault) : Json :=
  .object [("code", .text f.code), ("message", .text f.message)]

/-- Reads the JSON form. -/
def ofJson? (j : Json) : Option OperationFault := do
  let r ← j.record? ["code", "message"]
  return {
    code := ← r.withDefault "code" "" Json.text?
    message := ← r.withDefault "message" "" Json.text? }

end OperationFault

namespace Operation

/-- The JSON form. -/
def toJson (o : Operation) : Json :=
  .object ([("name", .text o.name), ("status", .text o.status)] ++
    optionalText "targetLink" o.target ++
    (match o.errors with
     | none => []
     | some list =>
       [("error", .object [("errors", .array (list.map OperationFault.toJson))])]))

/-- Reads the list of errors. -/
def errors? (j : Json) : Option (List OperationFault) := do
  let r ← j.record? ["errors"]
  r.withDefault "errors" [] (Json.list? OperationFault.ofJson?)

/-- Reads the JSON form. -/
def ofJson? (j : Json) : Option Operation := do
  let r ← j.record? ["name", "status", "targetLink", "error"]
  return {
    name := ← r.required "name" Json.text?
    status := ← r.withDefault "status" "" Json.text?
    target := ← r.optional "targetLink" Json.text?
    errors := ← r.optional "error" errors? }

end Operation

/-- An answer of a token endpoint. -/
structure TokenAnswer where
  token : String
  /-- Seconds for which the token is valid. -/
  expiresIn : Int
  deriving DecidableEq, Repr

/-- Reads the JSON form of a token answer. -/
def TokenAnswer.ofJson? (j : Json) : Option TokenAnswer := do
  let r ← j.record? ["access_token", "expires_in"]
  return {
    token := ← r.required "access_token" Json.text?
    expiresIn := ← r.withDefault "expires_in" 3600 Json.int64? }

end PeriodScaler
