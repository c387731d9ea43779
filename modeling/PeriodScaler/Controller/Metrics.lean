import PeriodScaler.Cycle.Reconcile
import PeriodScaler.Decimal.Shortest
import PeriodScaler.Http.Uri

/-!
# Metrics

Counts of cycles and items, and a histogram of the duration of cycles, with their exposition as
text: families ordered by name, series ordered by label, only series that exist. A series exists
from its first observation on, also when that adds nothing.

Beside the metrics two probes tell whether the process is alive and whether it watches Scalers.

Model of `Metrics` with `record_success`, `record_failure`, `observe` and `render`, and of `router`
with `healthz`, `readyz` and `metrics_handler` as the function `answer` of a request. Left out:
`serve`, which opens a port.
-/

namespace PeriodScaler

/-- A histogram: for each bound how many observations were at most that, and the sum and number of
all of them. -/
structure Histogram where
  counts : List Nat
  sum : Float
  count : Nat
  deriving Repr

namespace Histogram

/-- The bounds of the buckets in seconds. -/
def bounds : List Float := [0.05, 0.1, 0.5, 1.0, 5.0, 15.0, 60.0, 300.0]

/-- A histogram without observations. -/
def empty : Histogram := ⟨bounds.map fun _ => 0, 0.0, 0⟩

/-- A histogram with one more observation. -/
def observe (x : Float) (h : Histogram) : Histogram where
  counts := List.zipWith (fun bound n => if x ≤ bound then n + 1 else n) bounds h.counts
  sum := h.sum + x
  count := h.count + 1

end Histogram

/-- Series by the value of their label, ordered by it. -/
abbrev Series (α : Type) := List (String × α)

namespace Series

variable {α : Type}

/-- Changes the series of a label, which starts from `initial`. -/
def change (label : String) (initial : α) (f : α → α) : Series α → Series α
  | [] => [(label, f initial)]
  | (l, a) :: rest =>
    if l == label then (l, f a) :: rest
    else if label < l then (label, f initial) :: (l, a) :: rest
    else (l, a) :: change label initial f rest

end Series

/-- The metrics of a controller. -/
structure Metrics where
  /-- Cycles by outcome. -/
  cycles : Series Nat
  /-- Durations of cycles by outcome. -/
  durations : Series Histogram
  /-- Items by result. -/
  items : Series Nat
  deriving Repr

namespace Metrics

/-- Nothing was observed. -/
def empty : Metrics := ⟨[], [], []⟩

/-- A span in seconds: the whole seconds and the fraction are rounded on their own. -/
def inSeconds (s : Span) : Float :=
  Float.ofNat s.seconds + Float.ofNat s.subsecond / 1000000000.0

/-- Counts a cycle and its duration. -/
def observe (outcome : String) (elapsed : Span) (m : Metrics) : Metrics :=
  { m with
    cycles := Series.change outcome 0 (· + 1) m.cycles
    durations := Series.change outcome .empty (Histogram.observe (inSeconds elapsed)) m.durations }

/-- Counts a cycle that did not fail, and its items. -/
def recordSuccess (report : Report) (elapsed : Span) (m : Metrics) : Metrics :=
  let m := m.observe "success" elapsed
  { m with
    items :=
      Series.change "failed" 0 (· + report.failed.length)
        (Series.change "succeeded" 0 (· + report.successful.length) m.items) }

/-- Counts a cycle that failed. -/
def recordFailure (severity : Severity) (elapsed : Span) (m : Metrics) : Metrics :=
  m.observe severity.name elapsed

/-- A label with its value in quotes. -/
def label (name value : String) : String :=
  name ++ "=\"" ++ value ++ "\""

/-- One line of a series. -/
def line (name labels value : String) : String :=
  name ++ "\x7b" ++ labels ++ "\x7d " ++ value ++ "\n"

/-- The two lines that introduce a family. -/
def heading (name help kind : String) : String :=
  "# HELP " ++ name ++ " " ++ help ++ "\n# TYPE " ++ name ++ " " ++ kind ++ "\n"

/-- A family of counters; nothing without series. -/
def counters (name help labelName : String) (series : Series Nat) : String :=
  if series.isEmpty then ""
  else
    heading name help "counter" ++
      String.join (series.map fun (value, n) => line name (label labelName value) (Text.ofNat n))

/-- The lines of a histogram. -/
def histogramLines (name labelName value : String) (h : Histogram) : String :=
  let own := label labelName value
  let bucket (bound : String) (n : Nat) : String :=
    line (name ++ "_bucket") (own ++ "," ++ label "le" bound) (Text.ofNat n)
  String.join (List.zipWith (fun b n => bucket (Decimal.ofFloat b) n) Histogram.bounds h.counts) ++
    bucket "+Inf" h.count ++ line (name ++ "_sum") own (Decimal.ofFloat h.sum) ++
    line (name ++ "_count") own (Text.ofNat h.count)

/-- A family of histograms; nothing without series. -/
def histograms (name help labelName : String) (series : Series Histogram) : String :=
  if series.isEmpty then ""
  else
    heading name help "histogram" ++
      String.join (series.map fun (value, h) => histogramLines name labelName value h)

/-- The exposition of all metrics. -/
def render (m : Metrics) : String :=
  histograms "cloudscaler_reconcile_duration_seconds" "Reconcile cycle duration" "outcome"
      m.durations ++
    counters "cloudscaler_reconciliations_total" "Reconcile cycles by outcome" "outcome" m.cycles ++
    counters "cloudscaler_scaled_items_total" "Resources processed by the scaling stage" "result"
      m.items

end Metrics

/-- An answer to a request for a page. -/
structure Page where
  status : Nat
  contentType : Option String
  body : String
  deriving DecidableEq, Repr

namespace Page

/-- A page of plain text. -/
def plain (status : Nat) (body : String) : Page :=
  ⟨status, some "text/plain; charset=utf-8", body⟩

/-- A page without content. -/
def bare (status : Nat) : Page :=
  ⟨status, none, ""⟩

/-- The page at a path: the metrics, or one of the probes. -/
def at? (m : Metrics) (ready : Bool) : String → Option Page
  | "/healthz" => some (plain 200 "ok")
  | "/readyz" => some (if ready then plain 200 "ready" else plain 503 "starting")
  | "/metrics" => some ⟨200, some "text/plain; version=0.0.4; charset=utf-8", m.render⟩
  | _ => none

/-- Answers a request; only the path in its target matters. -/
def answer (m : Metrics) (ready : Bool) (method target : String) : Page :=
  match (Http.Uri.ofText? target).bind fun uri => at? m ready uri.path with
  | none => bare 404
  | some page =>
    if method = "GET" then page
    else if method = "HEAD" then { page with body := "" }
    else bare 405

end Page

end PeriodScaler
