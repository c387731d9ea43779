import PeriodScaler.Proofs.Cycle.Attempts
import PeriodScaler.Proofs.Memory.ScalerStore

/-!
# What a cycle does to its Scaler

The specification of a Scaler is not edited and no one else writes its status; its metadata, and all
else in the world, may change before every call. Then each call of a cycle keeps what the key
holds, except a write of the status that succeeds, and each change of a Scaler ends with what it was
to reach or with an error.

* **`holding_of_not_writes`**, **`read_fetch`**, **`written_putStatus`**: what each call leaves.
* **`ensures_apply`**: a change that succeeds has been made.
* **`onResources_setAll`**: bringing resources to a target calls for nothing but resources.
-/

namespace PeriodScaler

open Memory (World)

/-! ## Calls -/

/-- Whatever the key holds after a change from outside, it held before but for the metadata. -/
def Interference.KeepsScaler (key : Key) (i : Interference World) : Prop :=
  ∀ n w x, (i.change n w).store.stored key = some x →
    ∃ y, w.store.stored key = some y ∧ x.key = y.key ∧ x.spec = y.spec ∧ x.status = y.status

/-- What the key holds in the world behind a count of calls. -/
def Holding (key : Key) (spec : Spec) (status : Option Status) (s : Nat × World) : Prop :=
  s.2.store.Holds key spec status

/-- After a read of the key. -/
def Read (key : Key) (spec : Spec) (status : Option Status)
    (answer : Except Cause (Option Scaler)) (s : Nat × World) : Prop :=
  Holding key spec status s ∧ ∀ x, answer = .ok (some x) → x.Is key spec status

/-- After a write under the key: refused with the status before, or done with the one after. -/
def Written (key : Key) (spec : Spec) (before after : Option Status)
    (answer : Except Cause Scaler) (s : Nat × World) : Prop :=
  (∃ e, answer = .error e ∧ Holding key spec before s) ∨
    ∃ y, answer = .ok y ∧ y.Is key spec after ∧ Holding key spec after s

/-- Whether a call writes a Scaler. -/
def Call.writes : Call → Bool
  | putFinalizers _ _ => true
  | putStatus _ _ => true
  | _ => false

section Calls

variable {key : Key} {spec : Spec} {status : Option Status} {i : Interference World}
  (hi : i.KeepsScaler key)

include hi

theorem holding_change {s : Nat × World} (hs : Holding key spec status s) :
    Holding key spec status (s.1 + 1, i.change s.1 s.2) := by
  intro x hx
  obtain ⟨y, hy, hkey, hspec, hstatus⟩ := hi s.1 s.2 x hx
  have hy := hs y hy
  exact ⟨hkey.trans hy.key_eq, hspec.trans hy.spec_eq, hstatus.trans hy.status_eq⟩

omit hi in
theorem store_answer_of_not_writes {c : Call} (hc : c.writes = false) (w : World) :
    (World.answer c w).2.store = w.store := by
  cases c <;> first | rfl | cases hc

/-- **A call that is no write** keeps what the key holds. -/
theorem holding_of_not_writes {c : Call} (hc : c.writes = false) {s : Nat × World}
    (hs : Holding key spec status s) :
    Holding key spec status (i.around World.answer c s).2 := by
  have hchanged := holding_change hi hs
  rcases i.around_cases (h := World.answer) c s.1 s.2 with ⟨e, hcall⟩ | hcall
  · rw [hcall]
    exact hchanged
  · rw [hcall, Holding]
    simp only
    rw [store_answer_of_not_writes hc]
    exact hchanged

theorem read_fetch {s : Nat × World} (hs : Holding key spec status s) :
    Read key spec status (i.around World.answer (.fetch key) s).1
      (i.around World.answer (.fetch key) s).2 := by
  have hchanged := holding_change hi hs
  rcases i.around_cases (h := World.answer) (.fetch key) s.1 s.2 with ⟨e, hcall⟩ | hcall
  · rw [hcall]
    exact ⟨hchanged, fun x hx => by cases hx⟩
  · rw [hcall]
    exact ⟨hchanged, fun x hx => hchanged.fetch hx⟩

theorem written_putFinalizers {copy : Scaler} (hcopy : copy.key = key) (finalizers : List String)
    {s : Nat × World} (hs : Holding key spec status s) :
    Written key spec status status
      (i.around World.answer (.putFinalizers copy finalizers) s).1
      (i.around World.answer (.putFinalizers copy finalizers) s).2 := by
  have hchanged := holding_change hi hs
  rcases i.around_cases (h := World.answer) (.putFinalizers copy finalizers) s.1 s.2 with
    ⟨e, hcall⟩ | hcall
  · rw [hcall]
    exact Or.inl ⟨e, rfl, hchanged⟩
  · rw [hcall]
    exact Memory.Store.holds_putFinalizers hchanged hcopy finalizers

theorem written_putStatus {copy : Scaler} (hcopy : copy.key = key) (after : Status)
    {s : Nat × World} (hs : Holding key spec status s) :
    Written key spec status (some after)
      (i.around World.answer (.putStatus copy after) s).1
      (i.around World.answer (.putStatus copy after) s).2 := by
  have hchanged := holding_change hi hs
  rcases i.around_cases (h := World.answer) (.putStatus copy after) s.1 s.2 with
    ⟨e, hcall⟩ | hcall
  · rw [hcall]
    exact Or.inl ⟨e, rfl, hchanged⟩
  · rw [hcall]
    exact Memory.Store.holds_putStatus hchanged hcopy after

end Calls

/-! ## Changes -/

namespace Change

/-- The status after a change. -/
def after (c : Change) (status : Option Status) : Option Status :=
  match c with
  | setStatus new => some new
  | _ => status

variable {key : Key} {spec : Spec} {status : Option Status} {i : Interference World}

theorem after_of_isSatisfied {c : Change} {x : Scaler} (hx : x.Is key spec status)
    (h : c.isSatisfied x = true) : c.after status = status := by
  cases c with
  | addFinalizer => rfl
  | removeFinalizer => rfl
  | setStatus new =>
    rw [isSatisfied, hx.status_eq, beq_iff_eq] at h
    exact h.symm

/-- After a change that succeeded: it has been made. -/
def Made (c : Change) (key : Key) (spec : Spec) (status : Option Status)
    (answer : Except Cause Scaler) (s : Nat × World) : Prop :=
  ∀ y, answer = .ok y → y.Is key spec (c.after status) ∧ Holding key spec (c.after status) s

variable (hi : i.KeepsScaler key)

include hi

theorem ensures_commit (c : Change) {current : Scaler} (hcurrent : current.Is key spec status) :
    (c.commit current).Ensures (i.around World.answer) (Holding key spec status)
      (Written key spec status (c.after status)) := by
  have hkey := hcurrent.key_eq
  cases c with
  | addFinalizer =>
    exact Program.Ensures.ask _ (fun s hs => written_putFinalizers hi hkey _ hs)
      fun _ => Program.Ensures.done fun _ hs => hs
  | removeFinalizer =>
    exact Program.Ensures.ask _ (fun s hs => written_putFinalizers hi hkey _ hs)
      fun _ => Program.Ensures.done fun _ hs => hs
  | setStatus new =>
    exact Program.Ensures.ask _ (fun s hs => written_putStatus hi hkey new hs)
      fun _ => Program.Ensures.done fun _ hs => hs

/-- Every attempt is on a copy of this key, this specification and this status. -/
theorem upholds_made (c : Change) : c.Upholds key (i.around World.answer)
    (fun copy s => copy.Is key spec status ∧ Holding key spec status s)
    (c.Made key spec status) where
  done := by
    rintro copy s ⟨hcopy, hs⟩ hsatisfied y hy
    obtain rfl := Except.ok.inj hy
    rw [after_of_isSatisfied hcopy hsatisfied]
    exact ⟨hcopy, hs⟩
  fail := by
    intro copy s e _ y hy
    cases hy
  written := by
    rintro copy s y ⟨hcopy, hs⟩ - hy z hz
    obtain rfl := Except.ok.inj hz
    rcases ensures_commit hi c hcopy s hs with ⟨e, he, -⟩ | ⟨y', hy', hnew, hafter⟩
    · cases hy.symm.trans he
    · obtain rfl := Except.ok.inj (hy.symm.trans hy')
      exact ⟨hnew, hafter⟩
  refused := by
    rintro copy s e ⟨hcopy, hs⟩ - he
    rcases ensures_commit hi c hcopy s hs with ⟨-, -, hafter⟩ | ⟨y, hy, -⟩
    · exact ⟨hcopy, hafter⟩
    · cases he.symm.trans hy
  found := by
    rintro copy s x ⟨-, hs⟩ - hx
    obtain ⟨hafter, hread⟩ := read_fetch hi hs
    exact ⟨hread x hx, hafter⟩
  gone := by
    rintro copy s ⟨hcopy, hs⟩ - - y hy
    split at hy
    · rename_i hremove
      obtain rfl := Except.ok.inj hy
      subst hremove
      exact ⟨hcopy, (read_fetch hi hs).1⟩
    · cases hy
  unread := by
    rintro copy s e ⟨hcopy, hs⟩ - -
    exact ⟨hcopy, (read_fetch hi hs).1⟩

/-- **A change that succeeds has been made.** -/
theorem ensures_apply (c : Change) {x : Scaler} (hx : x.Is key spec status) (attempts : Nat) :
    (c.apply x attempts).Ensures (i.around World.answer) (Holding key spec status)
      (c.Made key spec status) :=
  fun s hs => (upholds_made hi c).apply hx.key_eq attempts s ⟨hx, hs⟩

end Change

/-! ## Kinds of calls -/

/-- Whether a call is for resources of a provider. -/
def Call.isResource : Call → Bool
  | fetch _ => false
  | putFinalizers _ _ => false
  | putStatus _ _ => false
  | connect _ => false
  | _ => true

theorem Call.writes_of_isResource {c : Call} (h : c.isResource = true) : c.writes = false := by
  cases c <;> first | rfl | cases h

/-- Whether a call reads a Scaler or writes its finalizers. -/
def Call.isFinalizing : Call → Bool
  | fetch _ => true
  | putFinalizers _ _ => true
  | _ => false

/-- Whether a call writes a status. -/
def Call.isRecording : Call → Bool
  | putStatus _ _ => true
  | _ => false

theorem Call.not_recording_of_finalizing {c : Call} (h : c.isFinalizing = true) :
    c.isRecording = false := by
  cases c <;> first | rfl | cases h

theorem Call.not_recording_of_resource {c : Call} (h : c.isResource = true) :
    c.isRecording = false := by
  cases c <;> first | rfl | cases h

/-! ## Resources -/

/-- Every call of a program is for resources. -/
abbrev OnResources {α : Type} (p : Work α) : Prop :=
  p.Calls fun c : Call => c.isResource = true

theorem calls_gather {α : Type} {Q : Call → Prop} {f : α → Work Report} :
    ∀ {l : List α}, (∀ a ∈ l, (f a).Calls Q) → (Report.gather f l).Calls Q
  | [], _ => trivial
  | a :: l, hl => by
    refine (hl a List.mem_cons_self).bind fun first => ?_
    exact (calls_gather fun b hb => hl b (List.mem_cons_of_mem a hb)).bind fun others => trivial

theorem WorkloadSelection.onResources_setState (s : WorkloadSelection) (server : Option String)
    (workloadKind : WorkloadKind) (kind defaultNamespace : String) (target : Target) :
    OnResources (s.setState server workloadKind kind defaultNamespace target) := by
  have hconverge : ∀ w, OnResources (converge server kind target w) := by
    intro w
    unfold converge
    split
    · refine Program.Calls.ask rfl fun answer => ?_
      split <;> trivial
    · trivial
    · trivial
    · trivial
  have hnamespace : ∀ n, OnResources (s.convergeNamespace server workloadKind kind target n) := by
    intro n
    refine Program.Calls.ask rfl fun answer => ?_
    split
    · trivial
    · exact (calls_gather fun w _ => hconverge w).bind fun report => trivial
  have hnamespaces : ∀ ns,
      OnResources (s.convergeNamespaces server workloadKind kind target ns) := by
    intro ns
    induction ns with
    | nil => trivial
    | cons n ns ih => exact (hnamespace n).bind fun first => ih.bind fun others => trivial
  unfold setState
  split
  · trivial
  · exact (hnamespaces _).bind fun found => trivial

theorem InstanceSelection.onResources_setState (s : InstanceSelection) (credentials : Credentials)
    (kind : String) (target : Target) :
    OnResources (s.setState credentials kind target) := by
  have hconverge : ∀ zone x, OnResources (converge credentials kind s target zone x) := by
    intro zone x
    unfold converge
    simp only
    split
    · refine Program.Calls.ask rfl fun answer => ?_
      split <;> trivial
    · refine Program.Calls.ask rfl fun answer => ?_
      split <;> trivial
    · trivial
    · trivial
  have hzone : ∀ zone, OnResources (convergeZone credentials kind s target zone) := by
    intro zone
    refine Program.Calls.ask rfl fun answer => ?_
    split
    · trivial
    · exact (calls_gather fun x _ => hconverge zone x).bind fun report => trivial
  have hzones : ∀ zones, OnResources (convergeZones credentials kind s target zones) := by
    intro zones
    induction zones with
    | nil => trivial
    | cons zone zones ih => exact (hzone zone).bind fun first => ih.bind fun others => trivial
  unfold setState
  split
  · trivial
  · split
    · trivial
    · split
      · trivial
      · exact (hzones _).bind fun found => trivial

/-- **Bringing resources to a target** calls for nothing but resources. -/
theorem onResources_setAll (access : Access) (s : Selection) (defaultNamespace : String)
    (target : Target) :
    OnResources (setAll access s defaultNamespace target) := by
  refine calls_gather fun kind _ => Program.Calls.bind ?_ fun answer => ?_
  · unfold setKind
    simp only
    split
    · split
      · exact InstanceSelection.onResources_setState _ _ _ _
      · trivial
    · split
      · exact WorkloadSelection.onResources_setState _ _ _ _ _ _
      · trivial
    · trivial
  · split <;> trivial

end PeriodScaler
