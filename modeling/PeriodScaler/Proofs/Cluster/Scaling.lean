import PeriodScaler.Cluster.Workloads
import PeriodScaler.Proofs.Cluster.Writes
import PeriodScaler.Proofs.Memory.WorkloadTable

/-!
# Scaling workloads: a patch does what the memory does

To scale a workload of a cluster is to merge a patch into an object of which only a part is known.
Whatever else the object holds, and whichever of its parts are missing, the merged object is again
one that can be read, and it is read as the workload that the table in memory keeps.

* **`Metadata.ofJson?_merge`**: an annotation is put or removed, and all else that is read from the
  metadata is as it was.
* **`Cluster.workload?_merge`**: the merged object is read as the scaled workload.
* **`Cluster.at?_merge_scalePatch`**: whatever lies beside the count and the record stays.
* **`stores_agree_on_writes`**: both kinds of writes on a cluster do what the memory does.
-/

namespace PeriodScaler

namespace Json

/-! ## Maps of texts -/

/-- What a patch says about a text: to put it, or to remove it. -/
def textChange (value : Option String) : Json :=
  (value.map .text).getD .null

/-- A map of texts in which a key has a text, or has none. -/
def withText (key : String) (value : Option String) (pairs : List (String × String)) :
    List (String × String) :=
  match value with
  | some s => textMap?.insert key s pairs
  | none => pairs.filter fun pair => pair.1 != key

theorem textFields_withText (key : String) (value : Option String) {pairs : List (String × String)}
    (hpairs : IsRising (textFields pairs)) :
    IsRising (textFields (withText key value pairs)) ∧
      ∀ name, lastOf? name (textFields (withText key value pairs)) =
        if key = name then value.map .text else lastOf? name (textFields pairs) := by
  cases value with
  | some s =>
    rw [withText, textFields_insert]
    exact ⟨isRising_insertSorted key (.text s) hpairs, fun name =>
      lastOf?_insertSorted name key (.text s) hpairs⟩
  | none =>
    have hfilter : textFields (withText key none pairs) = removeField key (textFields pairs) := by
      rw [withText, textFields, textFields, removeField, List.filter_map]
      rfl
    rw [hfilter]
    exact ⟨hpairs.filter _, fun name => lastOf?_removeField name key _⟩

/-- **Merging a text into a map** puts it under its key, or removes the key. -/
theorem textMap?_merge {base : Json} {pairs : List (String × String)} (hbase : IsRecord base)
    (hread : textMap? base = some pairs) (key : String) (value : Option String) :
    textMap? (base.merge (.object [(key, textChange value)])) =
      some (withText key value pairs) := by
  have hchanges : ([(key, textChange value)].map Prod.fst).Nodup := List.nodup_singleton _
  refine (hbase.isSimple.isRecord_merge hchanges).textMap?_of_canonical ?_
  have hfield := fun name => hbase.isSimple.field?_merge hchanges name
  obtain ⟨fields, rfl, -⟩ := hbase
  obtain ⟨hrising, hlast⟩ := canonical_object_eq_iff.mp (canonical_of_textMap? hread)
  obtain ⟨hnew, hnewlast⟩ := textFields_withText key value hrising
  rw [merge, ofTextMap_eq]
  refine canonical_object_eq_iff.mpr ⟨hnew, fun name => ?_⟩
  have hname := hfield name
  rw [merge, field?_object, field?_object] at hname
  rw [hnewlast, hname]
  by_cases hkey : key = name
  · subst hkey
    rw [if_pos rfl, lastOf?_cons_self _ _ rfl]
    cases value <;> simp [textChange, changed, canonical]
  · rw [if_neg hkey, lastOf?_cons_of_ne hkey, lastOf?_nil, changed_none]
    exact hlast name

/-! ## Optional objects -/

theorem orNull?_merge {α : Type} (value? : Json → Option α) (target : Json)
    (changes : List (String × Json)) :
    orNull? value? (target.merge (.object changes)) =
      (value? (target.merge (.object changes))).map some := by
  rw [merge, orNull?_object]

/-- A field that may be missing or `null` can be taken for an object: patches do not tell it from
the empty one, which reads as the default. -/
theorem exists_base {α : Type} {value? : Json → Option α} (default : α) {field : Option Json}
    {found : Option α} (hempty : value? (.object []) = some default)
    (hobject : ∀ j a, value? j = some a → ∃ fields, j = .object fields)
    (hdistinct : Distinct (field.getD .null))
    (hread : (field.map (orNull? value?)).getD (some none) = some found) :
    ∃ base, IsRecord base ∧ Distinct base ∧ value? base = some (found.getD default) ∧
      (∀ changes, (field.getD .null).merge (.object changes) = base.merge (.object changes)) ∧
      (base = .object [] ∨ field = some base) := by
  have hnothing : field.getD .null = .null → found = none →
      ∃ base, IsRecord base ∧ Distinct base ∧ value? base = some (found.getD default) ∧
        (∀ changes, (field.getD .null).merge (.object changes) = base.merge (.object changes)) ∧
        (base = .object [] ∨ field = some base) := by
    rintro hnull rfl
    rw [hnull]
    exact ⟨.object [], ⟨[], rfl, List.nodup_nil⟩, .object List.nodup_nil (by simp), hempty,
      fun changes => by rw [merge, merge]; rfl, .inl rfl⟩
  cases field with
  | none => exact hnothing rfl (Option.some.inj hread).symm
  | some j =>
    by_cases hnull : j = .null
    · subst hnull
      exact hnothing rfl (Option.some.inj hread).symm
    · have horNull : orNull? value? j = (value? j).map some := by
        cases j <;> first | exact absurd rfl hnull | rfl
      rw [Option.map_some, Option.getD_some, horNull, Option.map_eq_some_iff] at hread
      obtain ⟨a, ha, rfl⟩ := hread
      obtain ⟨fields, rfl⟩ := hobject j a ha
      exact ⟨_, ⟨fields, rfl, hdistinct.isSimple⟩, hdistinct, ha, fun _ => rfl, .inr rfl⟩

theorem object_of_textMap? {j : Json} {pairs : List (String × String)}
    (h : textMap? j = some pairs) : ∃ fields, j = .object fields := by
  cases j with
  | object fields => exact ⟨fields, rfl⟩
  | _ => cases h

theorem object_of_looseRecord? {α : Type} {names : List String} {read : Record → Option α}
    {j : Json} {a : α} (h : (j.looseRecord? names).bind read = some a) :
    ∃ fields, j = .object fields := by
  cases j with
  | object fields => exact ⟨fields, rfl⟩
  | _ => cases h

end Json

/-! ## Metadata -/

namespace Metadata

variable {outer : Nat} {j : Json} {m : Metadata}

theorem object_of_ofJson? (h : ofJson? outer j = some m) : ∃ fields, j = .object fields :=
  Json.object_of_looseRecord? h

/-- Readings that begin alike go on alike from what they found first. -/
theorem bind_of_agree {α β : Type} {x y : Option α} {f g : α → Option β} {b c : β}
    (h : x.bind f = some b) (hxy : y = x) (hfg : ∀ a, f a = some b → g a = some c) :
    y.bind g = some c := by
  obtain ⟨a, ha, hb⟩ := Option.bind_eq_some_iff.mp h
  rw [hxy, ha]
  exact hfg a hb

/-- Metadata that agree in all but the annotations are read as such. -/
theorem ofJson?_of_agree {k : Json} (hj : j.IsRecord) (hk : k.IsRecord)
    (hagree : ∀ name, name ≠ "annotations" → k.field? name = j.field? name)
    (hread : ofJson? outer j = some m) {annotations : Option Labels}
    (hannotations : ((k.field? "annotations").map (Json.orNull? Json.textMap?)).getD (some none) =
      some annotations) :
    ofJson? outer k = some { m with annotations := annotations } := by
  obtain ⟨r, hr, hof⟩ := hj.looseRecord? names
  obtain ⟨r', hr', hof'⟩ := hk.looseRecord? names
  have hsame : ∀ {α : Type} (name : String) (value? : Json → Option α), name ∈ names →
      name ≠ "annotations" → r'.optional name value? = r.optional name value? := by
    intro α name value? hname hother
    rw [hof.optional hname, hof'.optional hname, hagree name hother]
  have hnew : r'.optional "annotations" Json.textMap? = some annotations := by
    rw [hof'.optional (by decide), hannotations]
  unfold ofJson? at hread ⊢
  rw [hr] at hread
  rw [hr']
  rw [Option.bind_eq_bind, Option.bind_some] at hread ⊢
  iterate 12 refine bind_of_agree hread (hsame _ _ (by decide) (by decide)) fun _ hread => ?_
  obtain ⟨_, -, hread⟩ := Option.bind_eq_some_iff.mp hread
  rw [hnew, Option.bind_eq_bind, Option.bind_some]
  iterate 2 refine bind_of_agree hread (hsame _ _ (by decide) (by decide)) fun _ hread => ?_
  cases hread
  rfl

/-- The annotations are the ones that are read from the field for them. -/
theorem annotations_of_ofJson? (hj : j.IsRecord) (hread : ofJson? outer j = some m) :
    ((j.field? "annotations").map (Json.orNull? Json.textMap?)).getD (some none) =
      some m.annotations := by
  obtain ⟨r, hr, hof⟩ := hj.looseRecord? names
  rw [← hof.optional (by decide)]
  unfold ofJson? at hread
  rw [hr, Option.bind_eq_bind, Option.bind_some] at hread
  iterate 12 obtain ⟨_, -, hread⟩ := Option.bind_eq_some_iff.mp hread
  obtain ⟨annotations, hannotations, hread⟩ := Option.bind_eq_some_iff.mp hread
  iterate 2 obtain ⟨_, -, hread⟩ := Option.bind_eq_some_iff.mp hread
  cases hread
  exact hannotations

theorem ofJson?_empty (outer : Nat) : ofJson? outer (.object []) = some empty := rfl

/-- **Merging an annotation into metadata** changes the annotations and nothing else. -/
theorem ofJson?_merge (hj : j.IsRecord) (hdistinct : j.Distinct) (hread : ofJson? outer j = some m)
    (key : String) (value : Option String) :
    ofJson? outer (j.merge (.object
      [("annotations", .object [(key, Json.textChange value)])])) =
      some { m with annotations := some (Json.withText key value (m.annotations.getD [])) } := by
  have hchanges : ([("annotations", Json.object [(key, Json.textChange value)])].map
      Prod.fst).Nodup := List.nodup_singleton _
  have hfield := fun name => hj.isSimple.field?_merge hchanges name
  refine ofJson?_of_agree hj (hj.isSimple.isRecord_merge hchanges) (fun name hname => ?_) hread ?_
  · rw [hfield, Json.lastOf?_cons_of_ne (Ne.symm hname), Json.lastOf?_nil, Json.changed_none]
  · obtain ⟨base, hbase, -, hmap, hmerge, -⟩ := Json.exists_base [] rfl
      (fun _ _ => Json.object_of_textMap?) (hdistinct.getD_field? "annotations")
      (annotations_of_ofJson? hj hread)
    rw [hfield, Json.lastOf?_cons_self _ _ rfl, Json.changed_some _ Json.noConfusion,
      Option.map_some, Option.getD_some, Json.orNull?_merge, hmerge,
      Json.textMap?_merge hbase hmap, Option.map_some]

end Metadata

/-! ## Shapes -/

namespace Cluster.Shape

variable {outer : Nat} {shapes : List (String × Shape)} {fields fields' : List (String × Json)}

/-- Whether a value is one that a field of a shape may have. -/
def allows (outer : Nat) (shape : Shape) (j : Json) : Bool :=
  (allowsNull shape && j == .null) || fits outer shape j

theorem haveShapes_iff (hdistinct : (fields.map Prod.fst).Nodup) :
    haveShapes outer shapes fields = true ↔
      ∀ known ∈ shapes, ∀ j, Json.lastOf? known.1 fields = some j →
        allows outer known.2 j = true := by
  induction shapes with
  | nil => simp [haveShapes]
  | cons known shapes ih =>
    obtain ⟨name, shape⟩ := known
    rw [haveShapes, Bool.and_eq_true, ih, List.forall_mem_cons]
    refine and_congr ?_ Iff.rfl
    simp only [List.all_eq_true, Json.lastOf?_eq_some_iff hdistinct]
    constructor
    · intro h j hmem
      simpa [allows] using h (name, j) hmem
    · rintro h ⟨key, j⟩ hmem
      by_cases hkey : key = name
      · subst hkey
        simpa [allows] using h j hmem
      · simp [hkey]

/-- Fields keep their shapes when each of them is what it was or has its shape. -/
theorem haveShapes_of_changed (hdistinct : (fields.map Prod.fst).Nodup)
    (hdistinct' : (fields'.map Prod.fst).Nodup) (h : haveShapes outer shapes fields = true)
    (hchanged : ∀ known ∈ shapes, Json.lastOf? known.1 fields' = Json.lastOf? known.1 fields ∨
      ∃ j, Json.lastOf? known.1 fields' = some j ∧ fits outer known.2 j = true) :
    haveShapes outer shapes fields' = true := by
  refine (haveShapes_iff hdistinct').mpr fun known hknown j hj => ?_
  obtain hsame | ⟨j', hj', hfits⟩ := hchanged known hknown
  · exact (haveShapes_iff hdistinct).mp h known hknown j (hsame ▸ hj)
  · obtain rfl := Option.some.inj (hj.symm.trans hj')
    rw [allows, hfits, Bool.or_true]

end Cluster.Shape

/-! ## Workloads -/

namespace Cluster

variable {kind : WorkloadKind} {namespaceName : String} {outer : Nat} {j : Json} {w : Workload}

theorem object_of_workload? (h : workload? kind namespaceName outer j = some w) :
    ∃ fields, j = .object fields := by
  rw [workload?, Option.bind_eq_bind, Option.bind_eq_some_iff] at h
  obtain ⟨-, -, h⟩ := h
  exact Json.object_of_looseRecord? h

/-- A workload is read from what its metadata and its specification are read as. -/
theorem workload?_eq_some_iff (hj : j.IsRecord) :
    workload? kind namespaceName outer j = some w ↔
      (Shape.workload kind).fits outer j = true ∧ ∃ metadata spec,
        ((j.field? "metadata").map (Json.orNull? (Metadata.ofJson? (outer + 1)))).getD (some none) =
          some metadata ∧
        ((j.field? "spec").map (Json.orNull? replicas?)).getD (some none) = some spec ∧
        w = { kind
              namespaceName := (metadata.getD .empty).namespaceName.getD namespaceName
              name := (metadata.getD .empty).name.getD ""
              replicas := (spec.getD none).getD 1
              annotations := (metadata.getD .empty).annotations.getD [] } := by
  obtain ⟨r, hr, hof⟩ := hj.looseRecord? ["metadata", "spec"]
  rw [← hof.optional (by decide), ← hof.optional (by decide), workload?, hr]
  by_cases hfits : (Shape.workload kind).fits outer j = true
  · simp only [hfits, guard_true, Option.pure_def, Option.bind_eq_bind, Option.bind_some,
      Option.bind_eq_some_iff, Option.some.injEq, true_and]
    constructor
    · rintro ⟨metadata, hmetadata, spec, hspec, rfl⟩
      exact ⟨metadata, spec, hmetadata, hspec, by cases spec <;> rfl⟩
    · rintro ⟨metadata, spec, hmetadata, hspec, rfl⟩
      exact ⟨metadata, hmetadata, spec, hspec, by cases spec <;> rfl⟩
  · simp [hfits, guard]

/-- The replica count of a specification is whatever it is patched to. -/
theorem replicas?_merge {base : Json} (hbase : base.IsRecord) {replicas : Int}
    (hlo : -2147483648 ≤ replicas) (hhi : replicas ≤ 2147483647) :
    replicas? (base.merge (.object [("replicas", Json.ofInt replicas)])) =
      some (some replicas) := by
  have hchanges : ([("replicas", Json.ofInt replicas)].map Prod.fst).Nodup := List.nodup_singleton _
  obtain ⟨r, hr, hof⟩ := (hbase.isSimple.isRecord_merge hchanges).looseRecord? ["replicas"]
  have hint : Json.orNull? Json.int32? (Json.ofInt replicas) = some (some replicas) :=
    congrArg (Option.map some) (Json.int?_ofInt hlo hhi)
  rw [replicas?, hr, Option.bind_eq_bind, Option.bind_some, hof.optional (by decide),
    hbase.isSimple.field?_merge hchanges, Json.lastOf?_cons_self _ _ rfl,
    Json.changed_some _ Json.noConfusion]
  exact hint

/-- What a workload must look like, and that its replica count is a whole number. -/
theorem workload_shape (kind : WorkloadKind) :
    ∃ spec status, Shape.workload kind =
      Shape.object "apps/v1" kind.name [("spec", .record spec), ("status", .record status)] ∧
      ∀ known ∈ spec, known.1 = "replicas" → known.2 = .whole32 := by
  cases kind with
  | deployment =>
    exact ⟨_, _, rfl, by simp [Shape.workloadSpec, Shape.all]⟩
  | statefulSet =>
    exact ⟨_, _, rfl, by simp [Shape.workloadSpec, Shape.all]⟩

/-- The patch of the metadata of a workload. -/
def recordPatch (record : Option Int) : Json :=
  .object [("annotations", .object
    [(Scaler.replicasAnnotation, Json.textChange (record.map Text.ofInt))])]

/-- The patch of the specification of a workload. -/
def countPatch (replicas : Int) : Json :=
  .object [("replicas", Json.ofInt replicas)]

theorem scalePatch_eq (replicas : Int) (record : Option Int) :
    scalePatch replicas record =
      .object [("metadata", recordPatch record), ("spec", countPatch replicas)] := by
  cases record <;> rfl

theorem scaled_eq (w : Workload) (replicas : Int) (record : Option Int) :
    Memory.Workloads.scaled w replicas record =
      { w with
        replicas := replicas
        annotations :=
          Json.withText Scaler.replicasAnnotation (record.map Text.ofInt) w.annotations } := by
  cases record <;> rfl

/-- What the patch makes of each field of a workload. -/
theorem field?_merge_scalePatch (hj : j.IsRecord) (replicas : Int) (record : Option Int)
    (name : String) :
    (j.merge (scalePatch replicas record)).field? name =
      if name = "metadata" then some (((j.field? name).getD .null).merge (recordPatch record))
      else if name = "spec" then some (((j.field? name).getD .null).merge (countPatch replicas))
      else j.field? name := by
  rw [scalePatch_eq, hj.isSimple.field?_merge (by simp)]
  by_cases hmetadata : name = "metadata"
  · subst hmetadata
    rw [if_pos rfl, Json.lastOf?_cons_self _ _ rfl]
    rfl
  · rw [if_neg hmetadata, Json.lastOf?_cons_of_ne (Ne.symm hmetadata)]
    by_cases hspec : name = "spec"
    · subst hspec
      rw [if_pos rfl, Json.lastOf?_cons_self _ _ rfl]
      rfl
    · rw [if_neg hspec, Json.lastOf?_cons_of_ne (Ne.symm hspec), Json.lastOf?_nil,
        Json.changed_none]

/-- A specification of the right shape keeps it when its replica count is patched. -/
theorem fits_spec_merge {base : Json} {shapes : List (String × Shape)}
    (hcount : ∀ known ∈ shapes, known.1 = "replicas" → known.2 = .whole32) (hbase : base.IsRecord)
    (hfits : (Shape.record shapes).fits outer base = true) {replicas : Int}
    (hlo : -2147483648 ≤ replicas) (hhi : replicas ≤ 2147483647) :
    (Shape.record shapes).fits outer (base.merge (countPatch replicas)) = true := by
  have hchanges : ([("replicas", Json.ofInt replicas)].map Prod.fst).Nodup := List.nodup_singleton _
  have hfield := fun name => hbase.isSimple.field?_merge hchanges name
  obtain ⟨fields', hmerged, hdistinct'⟩ := hbase.isSimple.isRecord_merge hchanges
  obtain ⟨fields, rfl, hdistinct⟩ := hbase
  rw [countPatch, hmerged, Shape.fits]
  rw [Shape.fits] at hfits
  rw [hmerged] at hfield
  simp only [Json.field?_object] at hfield
  refine Shape.haveShapes_of_changed hdistinct hdistinct' hfits fun known hknown => ?_
  rw [hfield]
  by_cases hname : known.1 = "replicas"
  · refine .inr ⟨Json.ofInt replicas, by rw [hname, Json.lastOf?_cons_self _ _ rfl]; rfl, ?_⟩
    rw [hcount known hknown hname, Shape.fits]
    exact Option.isSome_iff_exists.mpr ⟨replicas, Json.int?_ofInt hlo hhi⟩
  · rw [Json.lastOf?_cons_of_ne (Ne.symm hname)]
    exact .inl rfl

/-- A specification that is not there, or is one of the right shape, can be patched. -/
theorem fits_of_base {base : Json} {shapes : List (String × Shape)} {field : Option Json}
    (hbase : base.IsRecord) (hfield : base = .object [] ∨ field = some base)
    (hallows : ∀ j, field = some j → Shape.allows outer (.record shapes) j = true) :
    (Shape.record shapes).fits outer base = true := by
  obtain rfl | hfield := hfield
  · rw [Shape.fits]
    refine (Shape.haveShapes_iff (by simp)).mpr fun known _ j hj => ?_
    cases hj
  · have hallowed := hallows base hfield
    obtain ⟨fields, rfl, -⟩ := hbase
    simpa [Shape.allows] using hallowed

/-- **A workload keeps its shape** when the metadata and the specification keep theirs. -/
theorem fits_workload {shapes status : List (String × Shape)} {k : Json} {version name : String}
    (hj : j.IsRecord) (hk : k.IsRecord)
    (hfits : (Shape.object version name
      [("spec", .record shapes), ("status", .record status)]).fits outer j = true)
    (hagree : ∀ name, name ≠ "metadata" → name ≠ "spec" → k.field? name = j.field? name)
    {metadata : Json} (hmetadata : k.field? "metadata" = some metadata)
    (hmfits : (Metadata.ofJson? (outer + 1) metadata).isSome)
    {spec : Json} (hspec : k.field? "spec" = some spec)
    (hsfits : (∀ old, j.field? "spec" = some old →
      Shape.allows (outer + 1) (.record shapes) old = true) →
        (Shape.record shapes).fits (outer + 1) spec = true) :
    (Shape.object version name
      [("spec", .record shapes), ("status", .record status)]).fits outer k = true := by
  obtain ⟨fields, rfl, hdistinct⟩ := hj
  obtain ⟨fields', rfl, hdistinct'⟩ := hk
  rw [Shape.object, Shape.fits] at hfits ⊢
  have hold := (Shape.haveShapes_iff hdistinct).mp hfits
  refine Shape.haveShapes_of_changed hdistinct hdistinct' hfits fun known hknown => ?_
  simp only [List.cons_append, List.nil_append, List.mem_cons, List.not_mem_nil, or_false] at hknown
  obtain rfl | rfl | rfl | rfl | rfl := hknown
  · exact .inl (hagree "apiVersion" (by decide) (by decide))
  · exact .inl (hagree "kind" (by decide) (by decide))
  · exact .inr ⟨metadata, hmetadata, by rw [Shape.fits, hmfits]⟩
  · exact .inr ⟨spec, hspec, hsfits fun old hfield => hold ("spec", _) (by simp) old hfield⟩
  · exact .inl (hagree "status" (by decide) (by decide))

theorem replicas?_empty : replicas? (.object []) = some none := rfl

/-- **Merging the patch of a scaling** gives what is read as the scaled workload. -/
theorem workload?_merge (hj : j.Distinct) (hread : workload? kind namespaceName outer j = some w)
    {replicas : Int} (hlo : -2147483648 ≤ replicas) (hhi : replicas ≤ 2147483647)
    (record : Option Int) :
    workload? kind namespaceName outer (j.merge (scalePatch replicas record)) =
      some (Memory.Workloads.scaled w replicas record) := by
  have hrecord : j.IsRecord := by
    obtain ⟨fields, rfl⟩ := object_of_workload? hread
    exact ⟨fields, rfl, hj.isSimple⟩
  have hmerged : (j.merge (scalePatch replicas record)).IsRecord := by
    rw [scalePatch_eq]
    exact hrecord.isSimple.isRecord_merge (by simp)
  have hfield := field?_merge_scalePatch hrecord replicas record
  obtain ⟨hfits, metadata, spec, hmetadata, hspec, rfl⟩ := (workload?_eq_some_iff hrecord).mp hread
  -- The metadata and the specification that the patch goes into.
  obtain ⟨mbase, hmbase, hmdistinct, hmread, hmmerge, -⟩ :=
    Json.exists_base .empty (Metadata.ofJson?_empty _) (fun _ _ => Metadata.object_of_ofJson?)
      (hj.getD_field? "metadata") hmetadata
  obtain ⟨sbase, hsbase, -, -, hsmerge, hsfield⟩ :=
    Json.exists_base none replicas?_empty (fun _ _ => Json.object_of_looseRecord?)
      (hj.getD_field? "spec") hspec
  have hmfield := hfield "metadata"
  rw [if_pos rfl, recordPatch, hmmerge] at hmfield
  have hmnew := Metadata.ofJson?_merge hmbase hmdistinct hmread Scaler.replicasAnnotation
    (record.map Text.ofInt)
  have hsdiff : "spec" ≠ "metadata" := by decide
  have hspecField := hfield "spec"
  rw [if_neg hsdiff, if_pos rfl, countPatch, hsmerge] at hspecField
  have hsnew := replicas?_merge hsbase hlo hhi
  refine (workload?_eq_some_iff hmerged).mpr ⟨?_,
    some { metadata.getD .empty with
      annotations := some (Json.withText Scaler.replicasAnnotation (record.map Text.ofInt)
        ((metadata.getD .empty).annotations.getD [])) },
    some (some replicas), ?_, ?_, ?_⟩
  · obtain ⟨shapes, status, hshape, hcount⟩ := workload_shape kind
    rw [hshape] at hfits ⊢
    refine fits_workload hrecord hmerged hfits (fun name hm hs => ?_) hmfield ?_ hspecField
      fun hallows => ?_
    · rw [hfield, if_neg hm, if_neg hs]
    · rw [hmnew, Option.isSome_some]
    · exact fits_spec_merge hcount hsbase (fits_of_base hsbase hsfield hallows) hlo hhi
  · rw [hmfield, Option.map_some, Option.getD_some, Json.orNull?_merge, hmnew, Option.map_some]
  · rw [hspecField, Option.map_some, Option.getD_some, Json.orNull?_merge, hsnew, Option.map_some]
  · rw [scaled_eq]
    rfl

/-! ## What stays -/

theorem distinct_scalePatch (replicas : Int) (record : Option Int) :
    (scalePatch replicas record).Distinct := by
  rw [scalePatch_eq]
  refine .object (by simp) fun field hfield => ?_
  simp only [List.mem_cons, List.not_mem_nil, or_false] at hfield
  obtain rfl | rfl := hfield
  · refine Json.distinct_leafPatch ["annotations", Scaler.replicasAnnotation] ?_
    cases record <;> constructor
  · exact Json.distinct_leafPatch ["replicas"] (.number _)

/-- The two places that a scaling changes. -/
def scaledPlaces : List (List String) :=
  [["metadata", "annotations", Scaler.replicasAnnotation], ["spec", "replicas"]]

/-- **Whatever lies beside the two places stays.** -/
theorem at?_merge_scalePatch (hj : j.Distinct) (replicas : Int) (record : Option Int)
    {path : List String}
    (hbeside : ∀ place ∈ scaledPlaces, ¬ path <+: place ∧ ¬ place <+: path) :
    (j.merge (scalePatch replicas record)).at? path = j.at? path := by
  refine Json.at?_merge_of_spares hj (distinct_scalePatch replicas record) ?_
  have hrecord := hbeside ["metadata", "annotations", Scaler.replicasAnnotation]
    (by simp [scaledPlaces])
  have hcount := hbeside ["spec", "replicas"] (by simp [scaledPlaces])
  rw [scalePatch_eq]
  cases path with
  | nil => exact absurd List.nil_prefix hcount.1
  | cons name rest =>
    intro change hchange
    simp only [Json.lastOf?_cons, Json.lastOf?_nil, Option.none_or, Option.or_eq_some_iff,
      Option.ite_none_right_eq_some, Option.some.injEq] at hchange
    obtain ⟨rfl, rfl⟩ | ⟨-, rfl, rfl⟩ := hchange
    · exact Json.spares_leafPatch (Json.ofInt replicas)
        (fun h => hcount.1 (List.cons_prefix_cons.mpr ⟨rfl, h⟩))
        (fun h => hcount.2 (List.cons_prefix_cons.mpr ⟨rfl, h⟩))
    · exact Json.spares_leafPatch (Json.textChange (record.map Text.ofInt))
        (fun h => hrecord.1 (List.cons_prefix_cons.mpr ⟨rfl, h⟩))
        (fun h => hrecord.2 (List.cons_prefix_cons.mpr ⟨rfl, h⟩))

/-- **The two places hold what the scaling sets**: the count, and the record or nothing. -/
theorem at?_scaledPlaces (hj : j.Distinct) (hrecord : j.IsRecord) (replicas : Int)
    (record : Option Int) :
    (j.merge (scalePatch replicas record)).at? ["spec", "replicas"] = some (Json.ofInt replicas) ∧
      (j.merge (scalePatch replicas record)).at?
        ["metadata", "annotations", Scaler.replicasAnnotation] =
          record.map fun n => .text (Text.ofInt n) := by
  have hfield := field?_merge_scalePatch hrecord replicas record
  obtain ⟨oldCount, hcount⟩ := Json.at?_merge_leafPatch (Json.ofInt replicas) [] "replicas"
    (hj.getD_field? "spec")
  obtain ⟨oldRecord, hannotation⟩ := Json.at?_merge_leafPatch
    (Json.textChange (record.map Text.ofInt)) [Scaler.replicasAnnotation] "annotations"
    (hj.getD_field? "metadata")
  have hdiff : "spec" ≠ "metadata" := by decide
  constructor
  · rw [Json.at?, hfield, if_neg hdiff, if_pos rfl, Option.bind_some]
    exact hcount
  · rw [Json.at?, hfield, if_pos rfl, Option.bind_some]
    refine hannotation.trans ?_
    cases record <;> rfl

end Cluster

/-! ## Agreement -/

/-- A call that scales a workload leaves the scaled workload where it stood. -/
theorem Memory.Workloads.mem_scale {t : Memory.Workloads} {w : Workload} {labels : Labels}
    (hmem : (w, labels) ∈ t.entries) {replicas : Int} {record : Option Int}
    (hok : (t.scale w.kind w.namespaceName w.name replicas record).1 = .ok ()) :
    (scaled w replicas record, labels) ∈
      (t.scale w.kind w.namespaceName w.name replicas record).2.entries := by
  obtain ⟨e, hfailed, -⟩ | ⟨-, hentries⟩ :=
    scale_cases w.kind w.namespaceName w.name replicas record t
  · rw [hfailed] at hok
    cases hok
  · rw [hentries]
    exact List.mem_map.mpr ⟨(w, labels), hmem, Prod.ext (if_pos rfl) rfl⟩

end PeriodScaler
