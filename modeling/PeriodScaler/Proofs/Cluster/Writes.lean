import PeriodScaler.Cluster.Store
import PeriodScaler.Memory.Store
import PeriodScaler.Proofs.Forms
import PeriodScaler.Proofs.Json.Canonical
import PeriodScaler.Proofs.Json.Merging

/-!
# Writes of Scalers: a patch does what the memory does

A write on a cluster is a merge patch; a write in memory is a change of the stored object. Merging
the patch into the JSON form of the stored object gives the object that the memory gives, up to the
order of fields and to the version, which either store counts on its own.

* **`canonical_merge_metadata`**: the patch of the metadata replaces the finalizers, if it has any,
  and leaves the rest.
* **`canonical_merge_status`**: the patch of a status that has both entries replaces whatever status
  there was, because it has every field of the records inside.
* **`sendsPatch_putFinalizers`**, **`sendsPatch_putStatus`**: what is sent, and what it makes of the
  stored object.
-/

namespace PeriodScaler

/-! ## The fields of the forms -/

namespace Json

@[simp] theorem lastOf?_optionalText (wanted name : String) (value : Option String) :
    lastOf? wanted (optionalText name value) =
      if name = wanted then value.map .text else none := by
  cases value with
  | none => simp [optionalText]
  | some s => rw [optionalText, lastOf?_cons]; simp

@[simp] theorem lastOf?_optionalField {α : Type} (wanted name : String) (toJson : α → Json)
    (value : Option α) :
    lastOf? wanted (optionalField name toJson value) =
      if name = wanted then value.map toJson else none := by
  cases value with
  | none => simp [optionalField]
  | some a => simp [optionalField, lastOf?_cons]

theorem names_optionalField {α : Type} (name : String) (toJson : α → Json) (value : Option α) :
    ((optionalField name toJson value).map Prod.fst).Sublist [name] := by
  cases value with
  | none => exact List.nil_sublist _
  | some a => exact List.Sublist.refl _

@[simp] theorem merge_text (target : Json) (s : String) : merge target (.text s) = .text s := rfl

@[simp] theorem merge_array (target : Json) (items : List Json) :
    merge target (.array items) = .array items := rfl

/-- The form of a value that may be missing. -/
theorem isSimple_getD {α : Type} {toJson : α → Json} (h : ∀ a, IsRecord (toJson a))
    (value : Option α) : IsSimple ((value.map toJson).getD .null) := by
  cases value with
  | none => exact isSimple_null
  | some a => exact (h a).isSimple

/-- **A patch that has every field of its target takes its place**, if each value in it takes the
place of the one before. -/
theorem canonical_merge_of_covers {target : Json} {changes : List (String × Json)}
    (htarget : IsSimple target) (hchanges : (changes.map Prod.fst).Nodup)
    (hcovers : ∀ name, lastOf? name changes = none → target.field? name = none)
    (hreplaces : ∀ name change, lastOf? name changes = some change →
      change ≠ .null ∧
        (merge ((target.field? name).getD .null) change).canonical = change.canonical) :
    (target.merge (.object changes)).canonical = (object changes).canonical := by
  refine (htarget.isRecord_merge hchanges).canonical_congr ⟨changes, rfl, hchanges⟩ fun name => ?_
  rw [htarget.field?_merge hchanges, field?_object]
  cases hchange : lastOf? name changes with
  | none => rw [changed_none, hcovers name hchange]
  | some change =>
    obtain ⟨hnull, hsame⟩ := hreplaces name change hchange
    rw [changed_some _ hnull, Option.map_some, hsame, Option.map_some]

end Json

namespace Metadata

theorem isRecord (m : Metadata) : m.toJson.IsRecord := by
  have hnames : (["annotations"] ++ ["creationTimestamp"] ++ ["deletionGracePeriodSeconds"] ++
    ["deletionTimestamp"] ++ ["finalizers"] ++ ["generateName"] ++ ["generation"] ++ ["labels"] ++
    ["managedFields"] ++ ["name"] ++ ["namespace"] ++ ["ownerReferences"] ++ ["resourceVersion"] ++
    ["selfLink"] ++ ["uid"]).Nodup := by decide
  refine ⟨_, rfl, hnames.sublist ?_⟩
  simp only [List.map_append]
  repeat' apply List.Sublist.append
  all_goals exact Json.names_optionalField _ _ _

/-- The patch of metadata: the version for which it is made, and the finalizers to put. -/
def patch (version : Option String) (finalizers : Option (List String)) : List (String × Json) :=
  optionalText "resourceVersion" version ++ Json.optionalField "finalizers" Json.ofTexts finalizers

theorem distinct_patch (version : Option String) (finalizers : Option (List String)) :
    ((patch version finalizers).map Prod.fst).Nodup := by
  cases version <;> cases finalizers <;> simp [patch, optionalText, Json.optionalField]

/-- **The patch of the metadata replaces the finalizers**, if it has any, and leaves the rest. -/
theorem canonical_merge_metadata (m : Metadata) (finalizers : Option (List String)) :
    (m.toJson.merge (.object (patch m.resourceVersion finalizers))).canonical =
      ({ m with finalizers := finalizers.or m.finalizers }).toJson.canonical := by
  have hpatch := distinct_patch m.resourceVersion finalizers
  refine (m.isRecord.isSimple.isRecord_merge hpatch).canonical_congr (isRecord _) fun name => ?_
  rw [m.isRecord.isSimple.field?_merge hpatch, patch, Json.lastOf?_append]
  by_cases hversion : name = "resourceVersion"
  · subst hversion
    cases hv : m.resourceVersion <;> simp [toJson, Json.changed, Json.lastOf?_append, hv]
  · by_cases hfinalizers : name = "finalizers"
    · subst hfinalizers
      cases finalizers <;> simp [toJson, Json.changed, Json.lastOf?_append, Json.ofTexts]
    · have hv : "resourceVersion" ≠ name := Ne.symm hversion
      have hf : "finalizers" ≠ name := Ne.symm hfinalizers
      simp [toJson, Json.lastOf?_append, hv, hf]

end Metadata

namespace PassRecord

/-- A record takes the place of any record, and of none. -/
theorem canonical_merge (old : Option PassRecord) (p : PassRecord) :
    (((old.map toJson).getD .null).merge p.toJson).canonical = p.toJson.canonical := by
  refine Json.canonical_merge_of_covers (Json.isSimple_getD isRecord old) (by simp)
    (fun name hnone => ?_) fun name change hchange => ?_
  · cases old with
    | none => rfl
    | some q =>
      simp only [Option.map_some, Option.getD_some, toJson, Json.field?_object,
        Json.lastOf?_cons] at hnone ⊢
      simp_all
  · -- Each field of a record is a text or a list, which takes the place of anything.
    have hmem := Json.mem_of_lastOf? hchange
    simp only [List.mem_cons, Prod.mk.injEq, List.not_mem_nil, or_false] at hmem
    obtain ⟨-, rfl⟩ | ⟨-, rfl⟩ | ⟨-, rfl⟩ | ⟨-, rfl⟩ | ⟨-, rfl⟩ := hmem
    all_goals exact ⟨Json.noConfusion, rfl⟩

end PassRecord

namespace Status

/-- **A status with both entries takes the place of any status**, and of none. -/
theorem canonical_merge (old : Option Status) (p : PassRecord) (comments : String) :
    (((old.map toJson).getD .null).merge (toJson ⟨some p, some comments⟩)).canonical =
      (toJson ⟨some p, some comments⟩).canonical := by
  have hcurrent : ((old.map toJson).getD .null).field? "currentPeriod" =
      (old.bind Status.current).map PassRecord.toJson := by
    rcases old with _ | ⟨_ | q, _ | c⟩
    all_goals simp [toJson, optionalText, Json.lastOf?_cons, Json.field?]
  refine Json.canonical_merge_of_covers (Json.isSimple_getD isRecord old) (by simp [optionalText])
    (fun name hnone => ?_) fun name change hchange => ?_
  · rcases old with _ | ⟨_ | q, _ | c⟩
    · rfl
    all_goals
      simp only [toJson, optionalText, Option.map_some, Option.getD_some, Json.field?_object,
        List.cons_append, List.nil_append, Json.lastOf?_cons] at hnone ⊢
      simp_all
  · have hmem := Json.mem_of_lastOf? hchange
    simp only [optionalText, List.cons_append, List.nil_append, List.mem_cons, Prod.mk.injEq,
      List.not_mem_nil, or_false] at hmem
    obtain ⟨rfl, rfl⟩ | ⟨rfl, rfl⟩ := hmem
    · rw [hcurrent]
      exact ⟨Json.noConfusion, PassRecord.canonical_merge _ p⟩
    · exact ⟨Json.noConfusion, rfl⟩

end Status

namespace Scaler

theorem isRecord (x : Scaler) : x.toJson.IsRecord :=
  ⟨_, rfl, by cases x.status <;> simp⟩

/-- **The patch of a Scaler** changes the metadata as its first part says, and replaces the status
if it has one with both entries. -/
theorem canonical_merge_metadata (x : Scaler) (finalizers : List String) :
    (x.toJson.merge (.object [("metadata",
      .object (Metadata.patch x.metadata.resourceVersion (some finalizers)))])).canonical =
    ({ x with
      metadata := { x.metadata with finalizers := some finalizers } }).toJson.canonical := by
  refine (x.isRecord.isSimple.isRecord_merge (by simp)).canonical_congr (isRecord _) fun name => ?_
  rw [x.isRecord.isSimple.field?_merge (by simp)]
  by_cases hname : name = "metadata"
  · subst hname
    have hmerge := x.metadata.canonical_merge_metadata (some finalizers)
    cases hstatus : x.status <;>
      simp [toJson, Json.lastOf?_cons, Json.changed, hstatus, hmerge]
  · have hother : "metadata" ≠ name := Ne.symm hname
    cases hstatus : x.status <;> simp [toJson, Json.lastOf?_cons, hother, hstatus]

theorem canonical_merge_status (x : Scaler) (p : PassRecord) (comments : String) :
    (x.toJson.merge (.object
      [("metadata", .object (Metadata.patch x.metadata.resourceVersion none)),
        ("status", Status.toJson ⟨some p, some comments⟩)])).canonical =
    ({ x with status := some ⟨some p, some comments⟩ }).toJson.canonical := by
  refine (x.isRecord.isSimple.isRecord_merge (by simp)).canonical_congr (isRecord _) fun name => ?_
  rw [x.isRecord.isSimple.field?_merge (by simp)]
  by_cases hname : name = "metadata"
  · subst hname
    have hmerge := x.metadata.canonical_merge_metadata none
    cases hstatus : x.status <;>
      simp [toJson, Json.lastOf?_cons, Json.changed, hstatus, hmerge]
  · have hother : "metadata" ≠ name := Ne.symm hname
    by_cases hname' : name = "status"
    · subst hname'
      have hmerge := Status.canonical_merge x.status p comments
      have hold : x.toJson.field? "status" = x.status.map Status.toJson := by
        cases hstatus : x.status <;> simp [toJson, Json.lastOf?_cons, hstatus]
      rw [hold, Json.lastOf?_cons_of_ne (by decide), Json.lastOf?_cons_self _ _ rfl,
        Json.changed_some _ Json.noConfusion, Option.map_some, hmerge]
      simp [toJson, Json.lastOf?_cons]
    · have hother' : "status" ≠ name := Ne.symm hname'
      cases hstatus : x.status <;> simp [toJson, Json.lastOf?_cons, hother, hother', hstatus]

end Scaler

/-! ## What is sent -/

namespace Cluster

/-- The exchange is a single patch, sent to the address, and its body has `Q`; without an address
nothing is sent. -/
def SendsPatch {α : Type} (address : Option Url) (Q : Json → Prop) : Http.Exchange α → Prop
  | .done _ => address = none
  | .ask (.send r) next =>
    address = some r.target ∧ r.method = .patch ∧ (∃ change, r.body = .json change ∧ Q change) ∧
      ∀ answer, ∃ a, next answer = .done a
  | .ask .clock _ => False

theorem SendsPatch.mono {α : Type} {address : Option Url} {Q R : Json → Prop} {e : Http.Exchange α}
    (h : SendsPatch address Q e) (hQR : ∀ change, Q change → R change) :
    SendsPatch address R e := by
  cases e with
  | done a => exact h
  | ask c next =>
    cases c with
    | clock => exact h
    | send r =>
      obtain ⟨haddress, hmethod, ⟨change, hbody, hQ⟩, hends⟩ := h
      exact ⟨haddress, hmethod, ⟨change, hbody, hQR change hQ⟩, hends⟩

/-- The address to which a patch of a resource is sent. -/
def patchAddress (path : Option String) : Option Url :=
  path.bind fun path => address? (path ++ "?")

theorem sendsPatch_exchange {α β : Type} {Q : Json → Prop} {change : Json} (hQ : Q change)
    (path : Option String) (object? : Json → Option α) (f : Except Refusal α → β) :
    SendsPatch (patchAddress path) Q
      ((exchange (path.bind fun path => patch path change) object?).bind fun result =>
        .done (f result)) := by
  cases path with
  | none => rfl
  | some path =>
    cases haddress : address? (path ++ "?") with
    | none => simp [patchAddress, patch, exchange, haddress, SendsPatch]
    | some target =>
      simp only [patchAddress, patch, exchange, haddress, Option.bind_some, Option.map_some]
      exact ⟨rfl, rfl, ⟨change, rfl, hQ⟩, fun answer => ⟨_, rfl⟩⟩

end Cluster

/-- A Scaler in which the version is another one. -/
def Scaler.atVersion (version : Option String) (x : Scaler) : Scaler :=
  { x with metadata := { x.metadata with resourceVersion := version } }

namespace Memory.Store

variable {s : Store} {copy x : Scaler}

/-- A write for the version that is stored is made, unless a conflict is arranged for. -/
theorem write_of_stored (hstored : s.stored copy.key = some x)
    (hversion : x.metadata.resourceVersion = copy.metadata.resourceVersion)
    (hcalm : s.conflicts = 0) (change : Scaler → Scaler) :
    (s.write copy change).1 = .ok (withVersion (s.version + 1) (change x)) := by
  have hfound : ({ s with attempts := s.attempts + 1 } : Store).stored copy.key = some x := hstored
  simp only [write]
  rw [if_neg (by omega), hfound]
  simp [hversion]

end Memory.Store

section Refinement

variable {s : Memory.Store} {copy x : Scaler}

/-- **A patch of the finalizers does what the memory does**, up to the version. -/
theorem sendsPatch_putFinalizers (hstored : s.stored copy.key = some x)
    (hversion : x.metadata.resourceVersion = copy.metadata.resourceVersion)
    (hcalm : s.conflicts = 0) (finalizers : List String) :
    ∃ y, (s.putFinalizers copy finalizers).1 = .ok y ∧
      y.atVersion x.metadata.resourceVersion =
        { x with metadata := { x.metadata with finalizers := some finalizers } } ∧
      Cluster.SendsPatch (Cluster.patchAddress (Cluster.scalerPath? copy.key))
        (fun change => (x.toJson.merge change).canonical =
          (y.atVersion x.metadata.resourceVersion).toJson.canonical)
        (Cluster.putFinalizers copy finalizers) := by
  refine ⟨_, Memory.Store.write_of_stored hstored hversion hcalm _, rfl, ?_⟩
  refine Cluster.sendsPatch_exchange ?_ _ _ _
  rw [Cluster.precondition, ← hversion]
  exact x.canonical_merge_metadata finalizers

/-- **A patch of the status does what the memory does**, up to the version. -/
theorem sendsPatch_putStatus (hstored : s.stored copy.key = some x)
    (hversion : x.metadata.resourceVersion = copy.metadata.resourceVersion)
    (hcalm : s.conflicts = 0) (p : PassRecord) (comments : String) :
    ∃ y, (s.putStatus copy ⟨some p, some comments⟩).1 = .ok y ∧
      y.atVersion x.metadata.resourceVersion = { x with status := some ⟨some p, some comments⟩ } ∧
      Cluster.SendsPatch
        (Cluster.patchAddress ((Cluster.scalerPath? copy.key).map fun path => path ++ "/status"))
        (fun change => (x.toJson.merge change).canonical =
          (y.atVersion x.metadata.resourceVersion).toJson.canonical)
        (Cluster.putStatus copy ⟨some p, some comments⟩) := by
  refine ⟨_, Memory.Store.write_of_stored hstored hversion hcalm _, rfl, ?_⟩
  refine Cluster.sendsPatch_exchange ?_ _ _ _
  rw [Cluster.precondition, ← hversion]
  have hpatch : Metadata.patch x.metadata.resourceVersion none =
      optionalText "resourceVersion" x.metadata.resourceVersion := by
    simp [Metadata.patch, Json.optionalField]
  rw [← hpatch]
  exact x.canonical_merge_status p comments

end Refinement

end PeriodScaler
