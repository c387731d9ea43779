import PeriodScaler.Compute.Instance
import PeriodScaler.Scaler.Object
import PeriodScaler.Proofs.Json.Reading
import PeriodScaler.Proofs.Json.Records
import Mathlib.Data.Set.Function

/-!
# Stored forms

The JSON forms of declarations, specifications, statuses and records, and of what the compute
service tells about instances and operations. A form is read back when writing a value and reading
the result gives the value again: a field that was left out has come back as its default, a default
that is not the empty value was written out, and an alternative was found under its name.

Each type has one lemma `readBack`, which rests on the lemmas of the types inside it and on the
reading of records. Maps of labels are ordered by key, which is how they are kept.

* **`stored_forms_read_back`**: the compact text of a stored value is read back as the value, for
  every stored type; no two declarations share a text, so their fingerprints differ as soon as the
  digest tells their texts apart.
-/

namespace PeriodScaler

namespace Json

variable {α : Type} {toJson : α → Json} {ofJson? : Json → Option α} {x : α}

/-- The value `x` is read back from the form in which it is written, and that form is plain. -/
structure ReadBack (toJson : α → Json) (ofJson? : Json → Option α) (x : α) : Prop where
  plain : (toJson x).Plain
  read : ofJson? (toJson x) = some x

/-- What is read back from its form is read back from the compact text of its form. -/
theorem ReadBack.compact (h : ReadBack toJson ofJson? x) :
    (read? (toJson x).compact).bind ofJson? = some x := by
  rw [read?_compact h.plain, Option.bind_some, h.read]

/-- Items that are read back make a list that is. -/
theorem ReadBack.list {xs : List α} (h : ∀ x ∈ xs, ReadBack toJson ofJson? x) :
    ReadBack (fun xs => .array (xs.map toJson)) (list? ofJson?) xs where
  plain := .array (List.forall_mem_map.mpr fun x hx => (h x hx).plain)
  read := list?_map fun x hx => (h x hx).read

@[simp] theorem plain_text (s : String) : Plain (.text s) := .text s

@[simp] theorem plain_bool (b : Bool) : Plain (.bool b) := .bool b

@[simp] theorem plain_object {fields : List (String × Json)} :
    Plain (.object fields) ↔ ∀ field ∈ fields, Plain field.2 :=
  ⟨Plain.fields, .object⟩

@[simp] theorem plain_ofTexts (texts : List String) : Plain (ofTexts texts) :=
  .array (List.forall_mem_map.mpr fun s _ => .text s)

@[simp] theorem plain_ofTextMap (pairs : List (String × String)) : Plain (ofTextMap pairs) :=
  .object (List.forall_mem_map.mpr fun pair _ => .text pair.2)

end Json

/-- Ordered by key, with no key twice. -/
def Labels.IsOrdered (labels : Labels) : Prop :=
  labels.Pairwise fun a b => a.1 < b.1

instance (labels : Labels) : Decidable labels.IsOrdered :=
  inferInstanceAs (Decidable (labels.Pairwise fun a b => a.1 < b.1))

/-! ## Declarations -/

namespace Target

theorem readBack (t : Target) : Json.ReadBack toJson ofJson? t := by
  constructor
  · exact .text t.name
  · simp [ofJson?, toJson, Json.bareName?, Json.alternative?]

end Target

namespace Weekly

theorem isRecord (w : Weekly) : w.toJson.IsRecord :=
  ⟨_, rfl, by cases w.timeZone <;> simp [optionalText]⟩

theorem readBack (w : Weekly) : Json.ReadBack toJson ofJson? w := by
  obtain ⟨r, hr, hof⟩ := w.isRecord.record? ["days", "startTime", "endTime", "once", "timeZone"]
  constructor
  · cases h : w.timeZone <;> simp [toJson, optionalText, h]
  · rw [ofJson?, hr]
    obtain ⟨days, startTime, endTime, once, _ | zone⟩ := w
    all_goals
      simp [hof.required, hof.withDefault, hof.optional, toJson, Json.lastOf?_cons, optionalText]

end Weekly

namespace Single

theorem isRecord (w : Single) : w.toJson.IsRecord :=
  ⟨_, rfl, by cases w.timeZone <;> simp [optionalText]⟩

theorem readBack (w : Single) : Json.ReadBack toJson ofJson? w := by
  obtain ⟨r, hr, hof⟩ := w.isRecord.record? ["startTime", "endTime", "once", "timeZone"]
  constructor
  · cases h : w.timeZone <;> simp [toJson, optionalText, h]
  · rw [ofJson?, hr]
    obtain ⟨startTime, endTime, once, _ | zone⟩ := w
    all_goals
      simp [hof.required, hof.withDefault, hof.optional, toJson, Json.lastOf?_cons, optionalText]

end Single

namespace Timing

theorem readBack (t : Timing) : Json.ReadBack toJson ofJson? t := by
  cases t with
  | recurring w =>
    constructor
    · simp [toJson, w.readBack.plain]
    · simp [toJson, ofJson?, Json.alternative?, w.readBack.read]
  | fixed w =>
    constructor
    · simp [toJson, w.readBack.plain]
    · simp [toJson, ofJson?, Json.alternative?, w.readBack.read]

end Timing

namespace Declaration

theorem isRecord (d : Declaration) : d.toJson.IsRecord :=
  ⟨_, rfl, by simp⟩

theorem readBack (d : Declaration) : Json.ReadBack toJson ofJson? d := by
  obtain ⟨r, hr, hof⟩ := d.isRecord.record? ["name", "type", "time"]
  constructor
  · simp [toJson, d.target.readBack.plain, d.timing.readBack.plain]
  · rw [ofJson?, hr]
    simp [hof.required, hof.withDefault, toJson, Json.lastOf?_cons, d.target.readBack.read,
      d.timing.readBack.read]

/-- No two declarations share a text. -/
theorem canonicalText_injective : Function.Injective canonicalText := by
  intro d e h
  have hform : d.toJson = e.toJson := Json.compact_injective d.readBack.plain e.readBack.plain h
  have hread := d.readBack.read
  rw [hform, e.readBack.read] at hread
  exact (Option.some.inj hread).symm

end Declaration

/-! ## Records of passes -/

namespace Success

theorem isRecord (s : Success) : s.toJson.IsRecord :=
  ⟨_, rfl, by simp⟩

theorem readBack (s : Success) : Json.ReadBack toJson ofJson? s := by
  obtain ⟨r, hr, hof⟩ := s.isRecord.record? ["kind", "name", "comment"]
  constructor
  · simp [toJson]
  · rw [ofJson?, hr]
    simp [hof.required, hof.withDefault, toJson, Json.lastOf?_cons]

end Success

namespace Failure

theorem isRecord (f : Failure) : f.toJson.IsRecord :=
  ⟨_, rfl, by simp⟩

theorem readBack (f : Failure) : Json.ReadBack toJson ofJson? f := by
  obtain ⟨r, hr, hof⟩ := f.isRecord.record? ["kind", "name", "reason"]
  constructor
  · simp [toJson]
  · rw [ofJson?, hr]
    simp [hof.required, hof.withDefault, toJson, Json.lastOf?_cons]

end Failure

namespace PassRecord

theorem isRecord (p : PassRecord) : p.toJson.IsRecord :=
  ⟨_, rfl, by simp⟩

theorem readBack (p : PassRecord) : Json.ReadBack toJson ofJson? p := by
  obtain ⟨r, hr, hof⟩ :=
    p.isRecord.record? ["name", "type", "specFingerprint", "successful", "failed"]
  have hsuccessful := Json.ReadBack.list fun s (_ : s ∈ p.successful) => s.readBack
  have hfailed := Json.ReadBack.list fun f (_ : f ∈ p.failed) => f.readBack
  constructor
  · simp [toJson, p.target.readBack.plain, hsuccessful.plain, hfailed.plain]
  · rw [ofJson?, hr]
    simp [hof.withDefault, toJson, Json.lastOf?_cons, p.target.readBack.read, hsuccessful.read,
      hfailed.read]

end PassRecord

/-! ## Specifications and statuses -/

theorem nonEmptyTexts_cases (name : String) (texts : List String) :
    (texts = [] ∧ nonEmptyTexts name texts = []) ∨
      nonEmptyTexts name texts = [(name, Json.ofTexts texts)] := by
  cases texts with
  | nil => exact .inl ⟨rfl, rfl⟩
  | cons => exact .inr rfl

theorem nonEmptyMap_cases (name : String) (pairs : Labels) :
    (pairs = [] ∧ nonEmptyMap name pairs = []) ∨
      nonEmptyMap name pairs = [(name, Json.ofTextMap pairs)] := by
  cases pairs with
  | nil => exact .inl ⟨rfl, rfl⟩
  | cons => exact .inr rfl

namespace InstanceSelection

theorem isRecord (s : InstanceSelection) : s.toJson.IsRecord :=
  ⟨_, rfl, by
    rcases nonEmptyTexts_cases "names" s.names with ⟨-, hn⟩ | hn <;>
    rcases nonEmptyMap_cases "labelSelector" s.labels with ⟨-, hl⟩ | hl <;> simp [hn, hl]⟩

theorem readBack {s : InstanceSelection} (h : s.labels.IsOrdered) :
    Json.ReadBack toJson ofJson? s := by
  obtain ⟨r, hr, hof⟩ :=
    s.isRecord.record? ["projectId", "zones", "types", "names", "labelSelector"]
  have hlabels := Json.textMap?_ofTextMap h
  constructor
  · rcases nonEmptyTexts_cases "names" s.names with ⟨-, hn⟩ | hn <;>
    rcases nonEmptyMap_cases "labelSelector" s.labels with ⟨-, hl⟩ | hl <;>
    simp [toJson, hn, hl]
  · rw [ofJson?, hr]
    obtain ⟨project, zones, types, names, labels⟩ := s
    rcases nonEmptyTexts_cases "names" names with ⟨rfl, hn⟩ | hn <;>
    rcases nonEmptyMap_cases "labelSelector" labels with ⟨rfl, hl⟩ | hl <;>
    simp [hof.required, hof.withDefault, toJson, Json.lastOf?_cons, hn, hl, hlabels]

end InstanceSelection

namespace WorkloadSelection

theorem isRecord (s : WorkloadSelection) : s.toJson.IsRecord :=
  ⟨_, rfl, by
    rcases nonEmptyTexts_cases "namespaces" s.namespaces with ⟨-, hp⟩ | hp <;>
    rcases nonEmptyTexts_cases "names" s.names with ⟨-, hn⟩ | hn <;>
    rcases nonEmptyMap_cases "labelSelector" s.labels with ⟨-, hl⟩ | hl <;> simp [hp, hn, hl]⟩

theorem readBack {s : WorkloadSelection} (h : s.labels.IsOrdered) :
    Json.ReadBack toJson ofJson? s := by
  obtain ⟨r, hr, hof⟩ := s.isRecord.record? ["namespaces", "types", "names", "labelSelector"]
  have hlabels := Json.textMap?_ofTextMap h
  constructor
  · rcases nonEmptyTexts_cases "namespaces" s.namespaces with ⟨-, hp⟩ | hp <;>
    rcases nonEmptyTexts_cases "names" s.names with ⟨-, hn⟩ | hn <;>
    rcases nonEmptyMap_cases "labelSelector" s.labels with ⟨-, hl⟩ | hl <;>
    simp [toJson, hp, hn, hl]
  · rw [ofJson?, hr]
    obtain ⟨namespaces, types, names, labels⟩ := s
    rcases nonEmptyTexts_cases "namespaces" namespaces with ⟨rfl, hp⟩ | hp <;>
    rcases nonEmptyTexts_cases "names" names with ⟨rfl, hn⟩ | hn <;>
    rcases nonEmptyMap_cases "labelSelector" labels with ⟨rfl, hl⟩ | hl <;>
    simp [hof.withDefault, toJson, Json.lastOf?_cons, hp, hn, hl, hlabels]

end WorkloadSelection

namespace Selection

/-- The labels that the resources must have. -/
def labels : Selection → Labels
  | instances s => s.labels
  | workloads s => s.labels

theorem readBack {s : Selection} (h : s.labels.IsOrdered) : Json.ReadBack toJson ofJson? s := by
  cases s with
  | instances s =>
    have hread := InstanceSelection.readBack h
    constructor
    · simp [toJson, hread.plain]
    · simp [toJson, ofJson?, Json.alternative?, hread.read]
  | workloads s =>
    have hread := WorkloadSelection.readBack h
    constructor
    · simp [toJson, hread.plain]
    · simp [toJson, ofJson?, Json.alternative?, hread.read]

end Selection

namespace SecretReference

theorem isRecord (s : SecretReference) : s.toJson.IsRecord :=
  ⟨_, rfl, by cases s.key <;> simp [optionalText]⟩

theorem readBack (s : SecretReference) : Json.ReadBack toJson ofJson? s := by
  obtain ⟨r, hr, hof⟩ := s.isRecord.record? ["name", "key"]
  constructor
  · cases h : s.key <;> simp [toJson, optionalText, h]
  · rw [ofJson?, hr]
    obtain ⟨name, _ | key⟩ := s
    all_goals simp [hof.required, hof.optional, toJson, Json.lastOf?_cons, optionalText]

end SecretReference

namespace Spec

theorem isRecord (s : Spec) : s.toJson.IsRecord :=
  ⟨_, rfl, by cases s.authSecret <;> simp⟩

theorem readBack {s : Spec} (h : s.selection.labels.IsOrdered) :
    Json.ReadBack toJson ofJson? s := by
  obtain ⟨r, hr, hof⟩ :=
    s.isRecord.record? ["periods", "restoreOnDelete", "authSecretRef", "provider"]
  have hperiods := Json.ReadBack.list fun d (_ : d ∈ s.periods) => d.readBack
  have hselection := Selection.readBack h
  obtain ⟨periods, restoreOnDelete, _ | secret, selection⟩ := s
  · constructor
    · simp [toJson, hperiods.plain, hselection.plain]
    · rw [ofJson?, hr]
      simp [hof.required, hof.withDefault, hof.optional, toJson, Json.lastOf?_cons, hperiods.read,
        hselection.read]
  · have hsecret : Json.orNull? SecretReference.ofJson? secret.toJson = some (some secret) :=
      congrArg (Option.map some) secret.readBack.read
    constructor
    · simp [toJson, hperiods.plain, hselection.plain, secret.readBack.plain]
    · rw [ofJson?, hr]
      simp [hof.required, hof.withDefault, hof.optional, toJson, Json.lastOf?_cons, hperiods.read,
        hselection.read, hsecret]

end Spec

namespace Status

theorem isRecord (s : Status) : s.toJson.IsRecord :=
  ⟨_, rfl, by cases s.current <;> cases s.comments <;> simp [optionalText]⟩

theorem readBack (s : Status) : Json.ReadBack toJson ofJson? s := by
  obtain ⟨r, hr, hof⟩ := s.isRecord.record? ["currentPeriod", "comments"]
  have hrecord : ∀ p : PassRecord,
      Json.orNull? PassRecord.ofJson? p.toJson = some (some p) := fun p =>
    congrArg (Option.map some) p.readBack.read
  obtain ⟨_ | current, _ | comments⟩ := s
  all_goals
    constructor
    · simp [toJson, optionalText, PassRecord.readBack _ |>.plain]
    · rw [ofJson?, hr]
      simp [hof.optional, toJson, Json.lastOf?_cons, optionalText, hrecord]

end Status

/-! ## Instances and operations -/

namespace InstanceStatus

theorem readBack (s : InstanceStatus) : Json.ReadBack toJson ofJson? s := by
  constructor
  · exact .text s.name
  · cases s <;> rfl

end InstanceStatus

namespace Instance

theorem isRecord (i : Instance) : i.toJson.IsRecord :=
  ⟨_, rfl, by simp⟩

theorem readBack {i : Instance} (h : Labels.IsOrdered i.labels) :
    Json.ReadBack toJson ofJson? i := by
  obtain ⟨r, hr, hof⟩ := i.isRecord.record? ["name", "zone", "status", "labels"]
  constructor
  · simp [toJson, i.status.readBack.plain]
  · rw [ofJson?, hr]
    simp [hof.required, hof.withDefault, toJson, Json.lastOf?_cons, i.status.readBack.read,
      Json.textMap?_ofTextMap h]

end Instance

namespace InstancePage

theorem isRecord (p : InstancePage) : p.toJson.IsRecord :=
  ⟨_, rfl, by cases p.next <;> simp [optionalText]⟩

theorem readBack {p : InstancePage} (h : ∀ i ∈ p.items, Labels.IsOrdered i.labels) :
    Json.ReadBack toJson ofJson? p := by
  obtain ⟨r, hr, hof⟩ := p.isRecord.record? ["items", "nextPageToken"]
  have hitems := Json.ReadBack.list fun i hi => Instance.readBack (h i hi)
  obtain ⟨items, _ | token⟩ := p
  all_goals
    constructor
    · simp [toJson, optionalText, hitems.plain]
    · rw [ofJson?, hr]
      simp [hof.withDefault, hof.optional, toJson, Json.lastOf?_cons, optionalText, hitems.read]

end InstancePage

namespace OperationFault

theorem isRecord (f : OperationFault) : f.toJson.IsRecord :=
  ⟨_, rfl, by simp⟩

theorem readBack (f : OperationFault) : Json.ReadBack toJson ofJson? f := by
  obtain ⟨r, hr, hof⟩ := f.isRecord.record? ["code", "message"]
  constructor
  · simp [toJson]
  · rw [ofJson?, hr]
    simp [hof.withDefault, toJson, Json.lastOf?_cons]

end OperationFault

namespace Operation

theorem isRecord (o : Operation) : o.toJson.IsRecord :=
  ⟨_, rfl, by cases o.target <;> cases o.errors <;> simp [optionalText]⟩

/-- The list of errors, in the object that holds it. -/
theorem readBack_errors (faults : List OperationFault) :
    Json.ReadBack (fun faults => .object [("errors", .array (faults.map OperationFault.toJson))])
      errors? faults := by
  have hfaults := Json.ReadBack.list fun f (_ : f ∈ faults) => f.readBack
  have hrecord : Json.IsRecord (.object [("errors", .array (faults.map OperationFault.toJson))]) :=
    ⟨_, rfl, by simp⟩
  obtain ⟨r, hr, hof⟩ := hrecord.record? ["errors"]
  constructor
  · simp [hfaults.plain]
  · rw [errors?, hr]
    simp [hof.withDefault, Json.lastOf?_cons, hfaults.read]

theorem readBack (o : Operation) : Json.ReadBack toJson ofJson? o := by
  obtain ⟨r, hr, hof⟩ := o.isRecord.record? ["name", "status", "targetLink", "error"]
  obtain ⟨name, status, _ | target, _ | faults⟩ := o
  all_goals
    constructor
    · simp [toJson, optionalText, (readBack_errors _).plain]
    · rw [ofJson?, hr]
      simp [hof.required, hof.withDefault, hof.optional, toJson, Json.lastOf?_cons, optionalText,
        (readBack_errors _).read]

end Operation

/-! ## Every stored form -/

/-- **Stored forms are read back, and texts tell declarations apart.** For each of the seven stored
types, reading the compact text of a value gives the value; labels are ordered by key, as maps keep
them. Two declarations with one text are the same, so among any declarations whose texts the digest
tells apart, different ones have different fingerprints. -/
theorem stored_forms_read_back :
    (∀ d : Declaration, (Json.read? d.toJson.compact).bind Declaration.ofJson? = some d) ∧
    (∀ s : Spec, s.selection.labels.IsOrdered →
      (Json.read? s.toJson.compact).bind Spec.ofJson? = some s) ∧
    (∀ s : SecretReference, (Json.read? s.toJson.compact).bind SecretReference.ofJson? = some s) ∧
    (∀ s : Status, (Json.read? s.toJson.compact).bind Status.ofJson? = some s) ∧
    (∀ p : PassRecord, (Json.read? p.toJson.compact).bind PassRecord.ofJson? = some p) ∧
    (∀ p : InstancePage, (∀ i ∈ p.items, Labels.IsOrdered i.labels) →
      (Json.read? p.toJson.compact).bind InstancePage.ofJson? = some p) ∧
    (∀ o : Operation, (Json.read? o.toJson.compact).bind Operation.ofJson? = some o) ∧
    (∀ d e : Declaration, d.canonicalText = e.canonicalText → d = e) ∧
    (∀ declared : Set Declaration, Set.InjOn Sha256.hex (Declaration.canonicalText '' declared) →
      ∀ d ∈ declared, ∀ e ∈ declared, d ≠ e → d.fingerprint ≠ e.fingerprint) := by
  refine ⟨fun d => d.readBack.compact, fun s hs => (Spec.readBack hs).compact,
    fun s => s.readBack.compact, fun s => s.readBack.compact, fun p => p.readBack.compact,
    fun p hp => (InstancePage.readBack hp).compact, fun o => o.readBack.compact,
    fun d e h => Declaration.canonicalText_injective h, ?_⟩
  intro declared hdigest d hd e he hne hsame
  have htext : d.canonicalText = e.canonicalText :=
    hdigest (Set.mem_image_of_mem _ hd) (Set.mem_image_of_mem _ he) hsame
  exact hne (Declaration.canonicalText_injective htext)

/-- A specification with a secret and two labels, a page with a labelled instance, and two
declarations that differ in the time zone alone. -/
theorem stored_forms_read_back_labelled :
    let selection : WorkloadSelection :=
      ⟨[], ["deployments"], [], [("app", "web"), ("tier", "\"1\"")]⟩
    let spec : Spec :=
      ⟨[Declaration.defaultRestore], false, some ⟨"cloud", none⟩, .workloads selection⟩
    let page : InstancePage := ⟨[⟨"vm-1", "zones/a", .unknown, [("app", "web")]⟩], some "next"⟩
    let zoned : Declaration := ⟨"d", .down, .fixed ⟨"a", "b", true, some "UTC"⟩⟩
    let plain : Declaration := ⟨"d", .down, .fixed ⟨"a", "b", true, none⟩⟩
    (Json.read? spec.toJson.compact).bind Spec.ofJson? = some spec ∧
    (Json.read? page.toJson.compact).bind InstancePage.ofJson? = some page ∧
    zoned.fingerprint ≠ plain.fingerprint := by
  intro selection spec page zoned plain
  refine ⟨stored_forms_read_back.2.1 spec (by decide),
    stored_forms_read_back.2.2.2.2.2.1 page (by decide), ?_⟩
  have hdigest : Sha256.hex zoned.canonicalText ≠ Sha256.hex plain.canonicalText := by
    decide +kernel
  refine stored_forms_read_back.2.2.2.2.2.2.2.2 {zoned, plain} ?_ zoned (by simp) plain (by simp)
    (by decide)
  rw [Set.image_pair, Set.injOn_pair]
  exact fun h => absurd h hdigest

end PeriodScaler
