import PeriodScaler.Proofs.Memory.WorkloadTable
import PeriodScaler.Proofs.Transcript
import PeriodScaler.Scaling.Kinds

/-!
# The lines of a report

A report does not say for which item of which place an entry was written: names can be alike. Here a
pass writes a line for each part of its report, with its source (`Source`): an item that was
converged, a place that could not be listed, a name that was found nowhere, or a kind that could not
be processed. Both providers are gone over in the same way (`Sweep`): places in their order, in each
of them the items that are found there.

* **`setKind_eq`**: what a kind reports is what its lines say, and `unfit?` tells which kinds cannot
  be processed.
* **`setAll_eq`**: a pass reports the lines of all kinds, in the order of the configuration.
* **`plays_passLines`**: a kind that cannot be processed has one line, and no other kind has such a
  line, whatever is answered.
-/

namespace PeriodScaler

/-! ## Reports -/

namespace Report

@[simp] theorem empty_append (r : Report) : empty ++ r = r := rfl

@[simp] theorem append_empty (r : Report) : r ++ empty = r := by
  change (⟨r.successful ++ [], r.failed ++ []⟩ : Report) = r
  rw [List.append_nil, List.append_nil]

theorem append_assoc (a b c : Report) : a ++ b ++ c = a ++ (b ++ c) := by
  change (⟨a.successful ++ b.successful ++ c.successful, a.failed ++ b.failed ++ c.failed⟩ :
    Report) = ⟨a.successful ++ (b.successful ++ c.successful), a.failed ++ (b.failed ++ c.failed)⟩
  rw [List.append_assoc, List.append_assoc]

end Report

/-- Where a line of a report comes from. -/
inductive Source where
  | workload (id : Identity)
  | machine (zone name : String)
  /-- A namespace or a zone that could not be listed. -/
  | place (name : String)
  /-- A name that was found nowhere. -/
  | missing (name : String)
  /-- A kind that could not be processed. -/
  | kind
  deriving DecidableEq, Repr

/-- A part of a report with its source. -/
structure Line where
  source : Source
  report : Report
  deriving DecidableEq, Repr

/-- The report of some lines. -/
def Report.ofLines : List Line → Report
  | [] => .empty
  | line :: rest => line.report ++ ofLines rest

namespace Report

@[simp] theorem ofLines_nil : ofLines [] = .empty := rfl

@[simp] theorem ofLines_cons (line : Line) (rest : List Line) :
    ofLines (line :: rest) = line.report ++ ofLines rest := rfl

@[simp] theorem ofLines_append (l l' : List Line) :
    ofLines (l ++ l') = ofLines l ++ ofLines l' := by
  induction l with
  | nil => rfl
  | cons line l ih => rw [List.cons_append, ofLines_cons, ofLines_cons, ih, append_assoc]

end Report

/-! ## Sweeps -/

/-- How the items of one kind are gone over. -/
structure Sweep (β : Type) where
  /-- The name of the kind in the report. -/
  kind : String
  /-- The names to which the sweep is restricted. -/
  names : List String
  /-- Why a name is a failure that was found nowhere. -/
  absent : String
  list : String → Work (Except Cause (List β))
  converge : String → β → Work Report
  name : β → String
  source : String → β → Source

namespace Sweep

variable {β : Type} (s : Sweep β)

/-- The line for a place that cannot be listed. -/
def refused (place : String) (e : Cause) : Line :=
  ⟨.place place, .failure s.kind (place ++ "/*") e.message⟩

/-- The lines for the names that were not seen. -/
def unseen (seen : List String) : List Line :=
  (s.names.filter fun name => !seen.contains name).map fun name =>
    ⟨.missing name, .failure s.kind name s.absent⟩

/-- Converges some items of a place. -/
def overItems (place : String) : List β → Work (List Line)
  | [] => .done []
  | b :: rest => do
    let report ← s.converge place b
    let lines ← overItems place rest
    return ⟨s.source place b, report⟩ :: lines

/-- What follows the list of a place: its selected items are converged; gives their names too. -/
def onListed (place : String) : Except Cause (List β) → Work (List Line × List String)
  | .error e => .done ([s.refused place e], [])
  | .ok found =>
    let chosen := found.filter fun b => isNamed s.names (s.name b)
    (s.overItems place chosen).bind fun lines => .done (lines, chosen.map s.name)

/-- Lists a place and converges its selected items. -/
def overPlace (place : String) : Work (List Line × List String) :=
  (s.list place).bind (s.onListed place)

/-- Converges the selected items of some places; gives their names too. -/
def overPlaces : List String → Work (List Line × List String)
  | [] => .done ([], [])
  | place :: rest => do
    let (lines, seen) ← s.overPlace place
    let (others, alsoSeen) ← overPlaces rest
    return (lines ++ others, seen ++ alsoSeen)

/-- Converges the selected items of some places, and misses the names that were not seen. -/
def overAll (places : List String) : Work (List Line) := do
  let (lines, seen) ← s.overPlaces places
  return lines ++ s.unseen seen

/-! ### What they report -/

theorem ofLines_unseen (seen : List String) :
    Report.ofLines (s.unseen seen) =
      .failures s.kind s.absent (s.names.filter fun name => !seen.contains name) := by
  unfold unseen
  induction s.names.filter fun name => !seen.contains name with
  | nil => rfl
  | cons name rest ih =>
    rw [List.map_cons, Report.ofLines_cons, ih]
    rfl

theorem gather_eq (place : String) (items : List β) :
    Report.gather (s.converge place) items =
      (s.overItems place items).bind fun lines => .done (Report.ofLines lines) := by
  induction items with
  | nil => rfl
  | cons b rest ih =>
    simp only [Report.gather, overItems, ih, Program.bind_eq, Program.bind_assoc,
      Program.pure_eq_done, Program.done_bind, Report.ofLines_cons]

/-- The report of some lines, with the names that were seen. -/
def told (found : List Line × List String) : Report × List String :=
  (Report.ofLines found.1, found.2)

theorem onListed_ok (place : String) (found : List β) :
    (s.onListed place (.ok found)).bind (fun found => .done (told found)) =
      (Report.gather (s.converge place) (found.filter fun b => isNamed s.names (s.name b))).bind
        fun report =>
          .done (report, (found.filter fun b => isNamed s.names (s.name b)).map s.name) := by
  simp only [onListed, gather_eq, told, Program.bind_assoc, Program.done_bind]

variable {s} {place : String → Work (Report × List String)}
  {places : List String → Work (Report × List String)}

/-- A computation that goes over the places as a sweep does reports its lines. -/
theorem places_eq (hnil : places [] = .done (.empty, []))
    (hcons : ∀ p rest, places (p :: rest) = (place p).bind fun first =>
      (places rest).bind fun others => .done (first.1 ++ others.1, first.2 ++ others.2))
    (hplace : ∀ p, place p = (s.overPlace p).bind fun found => .done (told found))
    (l : List String) :
    places l = (s.overPlaces l).bind fun found => .done (told found) := by
  induction l with
  | nil => exact hnil
  | cons p rest ih =>
    rw [hcons, hplace, ih]
    simp only [overPlaces, told, Program.bind_eq, Program.bind_assoc, Program.pure_eq_done,
      Program.done_bind, Report.ofLines_append]

/-- With the names that were not seen, it reports all lines of the sweep. -/
theorem overAll_eq {l : List String}
    (hplaces : places l = (s.overPlaces l).bind fun found => .done (told found)) :
    ((places l).bind fun found => .done (.ok (found.1 ++ .failures s.kind s.absent
      (s.names.filter fun name => !found.2.contains name))) : Work (Except Cause Report)) =
    (s.overAll l).bind fun lines => .done (.ok (Report.ofLines lines)) := by
  rw [hplaces, overAll]
  simp only [told, Program.bind_eq, Program.bind_assoc, Program.pure_eq_done, Program.done_bind,
    Report.ofLines_append, ofLines_unseen]

end Sweep

/-! ## Kinds of workloads -/

namespace WorkloadSelection

variable (server : Option String) (workloadKind : WorkloadKind) (kind : String)
  (s : WorkloadSelection) (defaultNamespace : String) (target : Target)

/-- How the workloads of a kind are gone over. -/
def sweep : Sweep Workload where
  kind := kind
  names := s.names
  absent := "workload not found in any selected namespace"
  list namespaceName :=
    .ask (.listWorkloads server workloadKind namespaceName (Selector.ofLabels s.labels)) .done
  converge _ := converge server kind target
  name := Workload.name
  source _ w := .workload w.identity

theorem convergeNamespace_eq (namespaceName : String) :
    s.convergeNamespace server workloadKind kind target namespaceName =
      ((s.sweep server workloadKind kind target).overPlace namespaceName).bind fun found =>
        .done (Sweep.told found) := by
  refine congrArg (Program.ask (I := collaborators)
    (Call.listWorkloads server workloadKind namespaceName (Selector.ofLabels s.labels)))
    (funext fun answer => ?_)
  cases answer with
  | error e => rfl
  | ok found =>
    exact ((s.sweep server workloadKind kind target).onListed_ok namespaceName found).symm

/-- **What a kind of workloads reports** is what its lines say. -/
theorem setState_eq (htarget : target ≠ .noAction) :
    s.setState server workloadKind kind defaultNamespace target =
      ((s.sweep server workloadKind kind target).overAll (s.searched defaultNamespace)).bind
        fun lines => .done (.ok (Report.ofLines lines)) := by
  rw [setState, if_neg htarget]
  exact Sweep.overAll_eq (Sweep.places_eq (s := s.sweep server workloadKind kind target) rfl
    (fun _ _ => rfl) (s.convergeNamespace_eq server workloadKind kind target) _)

end WorkloadSelection

/-! ## Kinds of instances -/

namespace InstanceSelection

variable (credentials : Credentials) (kind : String) (s : InstanceSelection) (target : Target)

/-- How instances are gone over. -/
def sweep : Sweep Instance where
  kind := kind
  names := s.names
  absent := "instance not found in any selected zone"
  list zone := .ask (.listInstances credentials s.project zone (Filter.ofLabels s.labels)) .done
  converge := converge credentials kind s target
  name := Instance.name
  source zone i := .machine zone i.name

theorem convergeZone_eq (zone : String) :
    s.convergeZone credentials kind target zone =
      ((s.sweep credentials kind target).overPlace zone).bind fun found =>
        .done (Sweep.told found) := by
  refine congrArg (Program.ask (I := collaborators)
    (Call.listInstances credentials s.project zone (Filter.ofLabels s.labels)))
    (funext fun answer => ?_)
  cases answer with
  | error e => rfl
  | ok found => exact ((s.sweep credentials kind target).onListed_ok zone found).symm

/-- Why instances cannot be processed: something that a project needs is not given. -/
def flaw? : Option Cause :=
  if s.project = "" then some (.invalidConfig "gcp.projectId must be set")
  else if s.zones.isEmpty then some (.invalidConfig "gcp.zones must not be empty")
  else none

/-- **What instances report** is what their lines say. -/
theorem setState_eq (htarget : target ≠ .noAction) :
    s.setState credentials kind target =
      match s.flaw? with
      | some e => .done (.error e)
      | none => ((s.sweep credentials kind target).overAll s.zones).bind
          fun lines => .done (.ok (Report.ofLines lines)) := by
  unfold setState flaw?
  rw [if_neg htarget]
  split
  · rfl
  · split
    · rfl
    · exact Sweep.overAll_eq (Sweep.places_eq (s := s.sweep credentials kind target) rfl
        (fun _ _ => rfl) (s.convergeZone_eq credentials kind target) _)

end InstanceSelection

/-! ## All kinds -/

/-- Why a kind cannot be processed: the provider of the access does not have it, or the selection
has a flaw. -/
def unfit? (access : Access) (s : Selection) (kind : String) (target : Target) : Option Cause :=
  match access, s with
  | .instances _, .instances selection =>
    if isInstanceKind kind then if target = .noAction then none else selection.flaw?
    else some (.kindNotFound kind s.provider)
  | .workloads _, .workloads _ =>
    if (WorkloadKind.ofName? kind).isSome then none else some (.kindNotFound kind s.provider)
  | _, _ => some (.kindNotFound kind s.provider)

/-- The line of a kind that cannot be processed. -/
def Line.unprocessed (kind : String) (e : Cause) : Line :=
  ⟨.kind, .failure kind "*" e.message⟩

variable (access : Access) (s : Selection) (defaultNamespace : String) (target : Target)

/-- Goes over the items of a kind. -/
def sweepKind (kind : String) : Work (List Line) :=
  match access, s with
  | .instances credentials, .instances s => (s.sweep credentials kind target).overAll s.zones
  | .workloads server, .workloads s =>
    match WorkloadKind.ofName? kind with
    | some workloadKind =>
      (s.sweep server workloadKind kind target).overAll (s.searched defaultNamespace)
    | none => .done []
  | _, _ => .done []

/-- The lines of a kind. -/
def kindLines (kind : String) : Work (List Line) :=
  match unfit? access s kind target with
  | some e => .done [.unprocessed kind e]
  | none => if target = .noAction then .done [] else sweepKind access s defaultNamespace target kind

/-- The lines of some kinds, a list for each. -/
def passLines : List String → Work (List (List Line))
  | [] => .done []
  | kind :: rest => do
    let lines ← kindLines access s defaultNamespace target kind
    let others ← passLines rest
    return lines :: others

/-- **What a kind reports**: an error if it cannot be processed, and what its lines say otherwise.
-/
theorem setKind_eq (kind : String) :
    setKind access s kind defaultNamespace target =
      match unfit? access s kind target with
      | some e => .done (.error e)
      | none => (kindLines access s defaultNamespace target kind).bind fun lines =>
          .done (.ok (Report.ofLines lines)) := by
  unfold kindLines
  by_cases htarget : target = .noAction
  · subst htarget
    rcases access with credentials | server <;> rcases s with s | s
    · by_cases hkind : isInstanceKind kind = true
      · simp only [setKind, unfit?, sweepKind, hkind, if_true]
        rfl
      · simp only [setKind, unfit?, hkind, Bool.false_eq_true, if_false]
    · rfl
    · rfl
    · cases hkind : WorkloadKind.ofName? kind with
      | none => simp only [setKind, unfit?, hkind, Option.isSome_none, Bool.false_eq_true, if_false]
      | some workloadKind =>
        simp only [setKind, unfit?, hkind, Option.isSome_some, if_true]
        rfl
  · rcases access with credentials | server <;> rcases s with s | s
    · by_cases hkind : isInstanceKind kind = true
      · simp only [setKind, unfit?, sweepKind, hkind, if_true, if_neg htarget,
          s.setState_eq credentials kind target htarget]
        cases s.flaw? <;> rfl
      · simp only [setKind, unfit?, hkind, Bool.false_eq_true, if_false]
    · rfl
    · rfl
    · cases hkind : WorkloadKind.ofName? kind with
      | none => simp only [setKind, unfit?, hkind, Option.isSome_none, Bool.false_eq_true, if_false]
      | some workloadKind =>
        simp only [setKind, unfit?, sweepKind, hkind, Option.isSome_some, if_true, if_neg htarget,
          s.setState_eq server workloadKind kind defaultNamespace target htarget]

/-- **A pass reports the lines of all kinds**, in the order of the configuration. -/
theorem setAll_eq :
    setAll access s defaultNamespace target =
      (passLines access s defaultNamespace target s.types).bind fun ledger =>
        .done (Report.ofLines ledger.flatten) := by
  unfold setAll
  induction s.types with
  | nil => rfl
  | cons kind rest ih =>
    rw [Report.gather, ih, passLines, setKind_eq]
    cases hunfit : unfit? access s kind target with
    | some e =>
      simp only [kindLines, hunfit, Program.bind_eq, Program.bind_assoc, Program.pure_eq_done,
        Program.done_bind, List.flatten_cons, List.singleton_append, Report.ofLines_cons,
        Line.unprocessed]
    | none =>
      simp only [Program.bind_eq, Program.bind_assoc, Program.pure_eq_done, Program.done_bind,
        List.flatten_cons, Report.ofLines_append]

/-! ## Lines of kinds -/

namespace Sweep

variable {β : Type} {s : Sweep β} {l : List collaborators.Exchange}

theorem plays_overItems {place : String} (hs : ∀ b, s.source place b ≠ .kind) :
    ∀ {items : List β} {l : List collaborators.Exchange} {lines : List Line},
      (s.overItems place items).Plays l lines → ∀ line ∈ lines, line.source ≠ .kind
  | [], _, _, h => by
    obtain ⟨rfl, rfl⟩ := Program.plays_done_iff.mp h
    exact fun line hline => absurd hline List.not_mem_nil
  | b :: items, _, _, h => by
    obtain ⟨_, report, _, rfl, -, hrest⟩ := Program.plays_bind_iff.mp h
    obtain ⟨_, others, _, rfl, hothers, hend⟩ := Program.plays_bind_iff.mp hrest
    obtain ⟨rfl, rfl⟩ := Program.plays_done_iff.mp hend
    exact List.forall_mem_cons.mpr ⟨hs b, plays_overItems hs hothers⟩

theorem plays_overPlaces (hs : ∀ place b, s.source place b ≠ .kind) :
    ∀ {places : List String} {l : List collaborators.Exchange} {found : List Line × List String},
      (s.overPlaces places).Plays l found → ∀ line ∈ found.1, line.source ≠ .kind
  | [], _, _, h => by
    obtain ⟨rfl, rfl⟩ := Program.plays_done_iff.mp h
    exact fun line hline => absurd hline List.not_mem_nil
  | place :: places, _, _, h => by
    obtain ⟨_, first, _, rfl, hfirst, hrest⟩ := Program.plays_bind_iff.mp h
    obtain ⟨_, others, _, rfl, hothers, hend⟩ := Program.plays_bind_iff.mp hrest
    obtain ⟨rfl, rfl⟩ := Program.plays_done_iff.mp hend
    refine List.forall_mem_append.mpr ⟨?_, plays_overPlaces hs hothers⟩
    obtain ⟨_, answer, _, rfl, -, hlisted⟩ := Program.plays_bind_iff.mp hfirst
    cases answer with
    | error e =>
      obtain ⟨rfl, rfl⟩ := Program.plays_done_iff.mp hlisted
      exact List.forall_mem_singleton.mpr nofun
    | ok items =>
      obtain ⟨_, lines, _, rfl, hitems, hlast⟩ := Program.plays_bind_iff.mp hlisted
      obtain ⟨rfl, rfl⟩ := Program.plays_done_iff.mp hlast
      exact plays_overItems (hs place) hitems

theorem plays_over (hs : ∀ place b, s.source place b ≠ .kind) {places : List String}
    {lines : List Line} (h : (s.overAll places).Plays l lines) :
    ∀ line ∈ lines, line.source ≠ .kind := by
  obtain ⟨_, found, _, rfl, hfound, hend⟩ := Program.plays_bind_iff.mp h
  obtain ⟨rfl, rfl⟩ := Program.plays_done_iff.mp hend
  refine List.forall_mem_append.mpr ⟨plays_overPlaces hs hfound, ?_⟩
  exact List.forall_mem_map.mpr fun name _ => nofun

end Sweep

/-- The lines of a kind that fails before any call, and of one that fails at no answer. -/
inductive TellsKind (access : Access) (s : Selection) (defaultNamespace : String) (target : Target)
    (kind : String) : List Line → Prop where
  | unprocessed {e} (hkind : setKind access s kind defaultNamespace target = .done (.error e)) :
    TellsKind access s defaultNamespace target kind [.unprocessed kind e]
  | processed {lines}
    (hkind : ∀ l answer, (setKind access s kind defaultNamespace target).Plays l answer →
      ∃ report, answer = .ok report)
    (hlines : ∀ line ∈ lines, line.source ≠ .kind) :
    TellsKind access s defaultNamespace target kind lines

section Kinds

variable {access s defaultNamespace target} {l : List collaborators.Exchange}

/-- The lines of a kind that can be processed are none of a kind that cannot be. -/
theorem plays_fitKind {kind : String} {lines : List Line}
    (h : (if target = .noAction then Program.done []
      else sweepKind access s defaultNamespace target kind : Work (List Line)).Plays l lines) :
    ∀ line ∈ lines, line.source ≠ .kind := by
  have hnone : ∀ {l}, (Program.done [] : Work (List Line)).Plays l lines →
      ∀ line ∈ lines, line.source ≠ .kind := by
    intro l h
    obtain ⟨rfl, rfl⟩ := Program.plays_done_iff.mp h
    exact fun line hline => absurd hline List.not_mem_nil
  split at h
  · exact hnone h
  · unfold sweepKind at h
    split at h
    · exact Sweep.plays_over (fun _ _ hsource => by cases hsource) h
    · split at h
      · exact Sweep.plays_over (fun _ _ hsource => by cases hsource) h
      · exact hnone h
    · exact hnone h

theorem plays_kindLines {kind : String} {lines : List Line}
    (h : (kindLines access s defaultNamespace target kind).Plays l lines) :
    TellsKind access s defaultNamespace target kind lines := by
  have hkind := setKind_eq access s defaultNamespace target kind
  cases hunfit : unfit? access s kind target with
  | some e =>
    simp only [kindLines, hunfit] at h hkind
    obtain ⟨rfl, rfl⟩ := Program.plays_done_iff.mp h
    exact .unprocessed hkind
  | none =>
    simp only [kindLines, hunfit] at h hkind
    refine .processed (fun l answer hplays => ?_) (plays_fitKind h)
    rw [hkind] at hplays
    obtain ⟨_, lines, _, rfl, -, hend⟩ := Program.plays_bind_iff.mp hplays
    exact ⟨_, (Program.plays_done_iff.mp hend).2.symm⟩

/-- **The lines of the kinds**: one list for each kind in the order of the configuration, a single
line for one that cannot be processed, and no such line for the others. -/
theorem plays_passLines : ∀ {kinds : List String} {l : List collaborators.Exchange}
    {ledger : List (List Line)}, (passLines access s defaultNamespace target kinds).Plays l ledger →
      List.Forall₂ (TellsKind access s defaultNamespace target) kinds ledger
  | [], _, _, h => by
    obtain ⟨rfl, rfl⟩ := Program.plays_done_iff.mp h
    exact .nil
  | kind :: kinds, _, _, h => by
    obtain ⟨_, lines, _, rfl, hlines, hrest⟩ := Program.plays_bind_iff.mp h
    obtain ⟨_, others, _, rfl, hothers, hend⟩ := Program.plays_bind_iff.mp hrest
    obtain ⟨rfl, rfl⟩ := Program.plays_done_iff.mp hend
    exact .cons (plays_kindLines hlines) (plays_passLines hothers)

end Kinds

end PeriodScaler
