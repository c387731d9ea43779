import PeriodScaler.Proofs.Cycle.Upkeep
import PeriodScaler.Proofs.Scaling.Reach
import PeriodScaler.Proofs.Transcript

/-!
# Passes over the configured kinds

A pass brings the resources of every configured kind to the target, in the order of the
configuration. `Passes` says what is exchanged for each kind and what the report has of it; a kind
that cannot be processed is one failure, and the kinds after it have their turn all the same.

* **`setKind_eq_setState`**: a kind that the provider has is brought to the target of the pass by
  the mutator of that kind.
* **`passes_setAll`**: whatever is answered, a pass goes over all the kinds.
* **`Passes.of_workloads`**: a kind of workloads in a pass is a run of its mutator.
-/

namespace PeriodScaler

/-! ## Kinds and their mutators -/

/-- **A kind that the provider has** is brought to a target by its mutator, with the selection and
the target of the pass: a kind of workloads, or the instances of a project. -/
theorem setKind_eq_setState (kind defaultNamespace : String) (target : Target) :
    (∀ server s workloadKind, WorkloadKind.ofName? kind = some workloadKind →
      setKind (.workloads server) (.workloads s) kind defaultNamespace target =
        (Mutator.mk server workloadKind kind s defaultNamespace).setState target) ∧
    ∀ credentials s, isInstanceKind kind = true →
      setKind (.instances credentials) (.instances s) kind defaultNamespace target =
        (InstanceMutator.mk credentials kind s).setState target := by
  constructor
  · intro server s workloadKind hkind
    simp only [setKind, hkind]
    rfl
  · intro credentials s hkind
    simp only [setKind, hkind, if_true]
    rfl

/-- A mutator of workloads always gives a report. -/
theorem Mutator.report_of_plays {m : Mutator} {target : Target}
    {l : List collaborators.Exchange} {answer : Except Cause Report}
    (h : (m.setState target).Plays l answer) :
    ∃ report, answer = .ok report := by
  by_cases htarget : target = .noAction
  · subst htarget
    obtain ⟨-, rfl⟩ := Program.plays_done_iff.mp h
    exact ⟨.empty, rfl⟩
  · rw [m.setState_eq htarget] at h
    obtain ⟨_, lines, _, _, _, hend⟩ := Program.plays_bind_iff.mp h
    obtain ⟨-, rfl⟩ := Program.plays_done_iff.mp hend
    exact ⟨.ofLines lines, rfl⟩

/-- The access that an exchange gave. -/
def Interface.Exchange.access? (e : collaborators.Exchange) : Option Access :=
  match e with
  | ⟨.connect _, .ok access⟩ => some access
  | _ => none

/-! ## All kinds -/

/-- The exchanges of a pass over some kinds, and its report. -/
inductive Passes (access : Access) (s : Selection) (defaultNamespace : String) (target : Target) :
    List String → List collaborators.Exchange → Report → Prop where
  | nil : Passes access s defaultNamespace target [] [] .empty
  | processed {kind kinds l report rest others}
    (hkind : (setKind access s kind defaultNamespace target).Plays l (.ok report))
    (hrest : Passes access s defaultNamespace target kinds rest others) :
    Passes access s defaultNamespace target (kind :: kinds) (l ++ rest) (report ++ others)
  | failed {kind kinds l e rest others}
    (hkind : (setKind access s kind defaultNamespace target).Plays l (.error e))
    (hrest : Passes access s defaultNamespace target kinds rest others) :
    Passes access s defaultNamespace target (kind :: kinds) (l ++ rest)
      (.failure kind "*" e.message ++ others)

variable {access : Access} {s : Selection} {defaultNamespace : String} {target : Target}
  {l : List collaborators.Exchange} {report : Report}

/-- **A pass goes over all the kinds**, by induction on their list. -/
theorem passes_setAll (h : (setAll access s defaultNamespace target).Plays l report) :
    Passes access s defaultNamespace target s.types l report := by
  unfold setAll at h
  generalize s.types = kinds at h ⊢
  induction kinds generalizing l report with
  | nil =>
    obtain ⟨rfl, rfl⟩ := Program.plays_done_iff.mp h
    exact .nil
  | cons kind kinds ih =>
    obtain ⟨first, mine, rest, rfl, hfirst, hrest⟩ := Program.plays_bind_iff.mp h
    obtain ⟨others, theirs, last, rfl, hothers, hlast⟩ := Program.plays_bind_iff.mp hrest
    obtain ⟨rfl, rfl⟩ := Program.plays_done_iff.mp hlast
    obtain ⟨own, answer, none, rfl, hkind, hanswer⟩ := Program.plays_bind_iff.mp hfirst
    rw [List.append_nil]
    cases answer with
    | ok r =>
      obtain ⟨rfl, rfl⟩ := Program.plays_done_iff.mp hanswer
      rw [List.append_nil]
      exact .processed hkind (ih hothers)
    | error e =>
      obtain ⟨rfl, rfl⟩ := Program.plays_done_iff.mp hanswer
      rw [List.append_nil]
      exact .failed hkind (ih hothers)

/-- **A kind of workloads in a pass** is a run of its mutator, and the other kinds follow. -/
theorem Passes.of_workloads {server : Option String} {s : WorkloadSelection} {kind : String}
    {kinds : List String} (workloadKind : WorkloadKind)
    (hkind : WorkloadKind.ofName? kind = some workloadKind)
    (h : Passes (.workloads server) (.workloads s) defaultNamespace target (kind :: kinds) l
      report) :
    ∃ mine own rest others, l = mine ++ rest ∧ report = own ++ others ∧
      ((Mutator.mk server workloadKind kind s defaultNamespace).setState target).Plays mine
        (.ok own) ∧
      Passes (.workloads server) (.workloads s) defaultNamespace target kinds rest others := by
  cases h with
  | processed hplays hrest =>
    rw [(setKind_eq_setState kind _ _).1 server s _ hkind] at hplays
    exact ⟨_, _, _, _, rfl, rfl, hplays, hrest⟩
  | failed hplays =>
    rw [(setKind_eq_setState kind _ _).1 server s _ hkind] at hplays
    obtain ⟨_, hreport⟩ := Mutator.report_of_plays hplays
    cases hreport

end PeriodScaler
