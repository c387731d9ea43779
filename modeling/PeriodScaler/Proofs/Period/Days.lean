import PeriodScaler.Proofs.Period.Choice

/-!
# Lists of days

The days of a weekly timing are given as a list of texts, and what matters of a text is its name:
blanks around it and the case of its letters do not count. Of the days that a list selects only the
set matters for the window.

The name of all days ends the list, so an unknown name behind it goes unnoticed, while one in front
of it leaves the list unreadable (`Readable`). So the order of a list matters when it has both.

* **`weekdays_cases`**: which lists are read, and which days they select.
* **`firstOccurrence_congr`**: the search for an occurrence depends on the set of selected days.
* **`SameDays.readable_iff`**: lists of the same names are both readable or both not, unless they
  have an unknown name and the name of all days.
* **`days_alike_iff`**: when two lists of the same names are answered alike.
-/

namespace PeriodScaler

namespace Weekly

variable {w : Weekly} {o : Offset} {now : Instant} {days days' : List String} {raw raw' : String}

/-! ## Names -/

/-- The name of a day: the text without blanks around it, ASCII letters in lower case. -/
def dayName (raw : String) : String :=
  Text.lowerAscii (Text.trimmed raw)

/-- A text is the name of all days. -/
def IsAll (raw : String) : Prop :=
  dayName raw = "all"

instance (raw : String) : Decidable (IsAll raw) :=
  inferInstanceAs (Decidable (_ = _))

/-- A text is no name of a day, and not the one of all days. -/
def IsUnknown (raw : String) : Prop :=
  ¬ IsAll raw ∧ Weekday.ofName? (Text.trimmed raw) = none

/-- Two lists have the same names, up to order and repetition. -/
def SameDays (days days' : List String) : Prop :=
  ∀ name, name ∈ days.map dayName ↔ name ∈ days'.map dayName

/-- Every unknown name of a list stands behind the name of all days. -/
def Unblocked (days : List String) : Prop :=
  ∀ before raw after, days = before ++ raw :: after → IsUnknown raw → ∃ x ∈ before, IsAll x

/-- A list of days can be read: it has a day, and nothing unknown in front of all days. -/
def Readable (days : List String) : Prop :=
  days ≠ [] ∧ Unblocked days

/-- A list of days selects a weekday. -/
def Selects (days : List String) (x : Weekday) : Prop :=
  ∃ raw ∈ days, IsAll raw ∨ Weekday.ofName? (Text.trimmed raw) = some x

theorem sameAscii_all_iff : Text.sameAscii (Text.trimmed raw) "all" = true ↔ IsAll raw := by
  have hall : Text.lowerAscii "all" = "all" := by decide
  unfold Text.sameAscii IsAll dayName
  rw [hall, beq_iff_eq]

theorem ofName?_congr (h : dayName raw = dayName raw') :
    Weekday.ofName? (Text.trimmed raw) = Weekday.ofName? (Text.trimmed raw') := by
  have h : Text.lowerAscii (Text.trimmed raw) = Text.lowerAscii (Text.trimmed raw') := h
  unfold Weekday.ofName?
  simp only [h]

theorem isAll_congr (h : dayName raw = dayName raw') : IsAll raw ↔ IsAll raw' := by
  unfold IsAll
  rw [h]

theorem isUnknown_congr (h : dayName raw = dayName raw') : IsUnknown raw ↔ IsUnknown raw' := by
  unfold IsUnknown
  rw [isAll_congr h, ofName?_congr h]

/-! ## What a list selects -/

theorem unblocked_cons :
    Unblocked (raw :: days) ↔ IsAll raw ∨ (¬ IsUnknown raw ∧ Unblocked days) := by
  constructor
  · intro h
    by_cases hall : IsAll raw
    · exact Or.inl hall
    · refine Or.inr ⟨fun hunknown => ?_, fun before r after heq hunknown => ?_⟩
      · obtain ⟨x, hx, -⟩ := h [] raw days rfl hunknown
        cases hx
      · obtain ⟨x, hx, hxall⟩ := h (raw :: before) r after (congrArg (raw :: ·) heq) hunknown
        rcases List.mem_cons.mp hx with rfl | hx
        · exact absurd hxall hall
        · exact ⟨x, hx, hxall⟩
  · rintro h (_ | ⟨b, before⟩) r after heq hunknown
    · obtain ⟨rfl, -⟩ := List.cons.inj heq
      rcases h with hall | ⟨hknown, -⟩
      · exact absurd hall hunknown.1
      · exact absurd hunknown hknown
    · obtain ⟨rfl, htail⟩ := List.cons.inj heq
      rcases h with hall | ⟨-, hrest⟩
      · exact ⟨raw, List.mem_cons_self, hall⟩
      · obtain ⟨x, hx, hxall⟩ := hrest before r after htail hunknown
        exact ⟨x, List.mem_cons_of_mem _ hx, hxall⟩

theorem unblocked_of_known (h : ∀ raw ∈ days, ¬ IsUnknown raw) : Unblocked days := by
  rintro before raw after rfl hunknown
  exact absurd hunknown (h raw (by simp))

theorem unblocked_iff_known (h : ∀ raw ∈ days, ¬ IsAll raw) :
    Unblocked days ↔ ∀ raw ∈ days, ¬ IsUnknown raw := by
  refine ⟨fun hfree raw hraw hunknown => ?_, unblocked_of_known⟩
  obtain ⟨before, after, rfl⟩ := List.append_of_mem hraw
  obtain ⟨x, hx, hall⟩ := hfree before raw after rfl hunknown
  exact h x (List.mem_append_left _ hx) hall

/-- What is read from a list of days, besides the weekdays that were found before. -/
theorem selected_cases : ∀ (days : List String) (found : List Weekday),
    (Unblocked days ∧ ∃ sel, selected days found = .ok sel ∧
      ∀ x, x ∈ sel ↔ x ∈ found ∨ Selects days x) ∨
    (¬ Unblocked days ∧ ∃ name, selected days found = .error (.unknownWeekday name)) := by
  intro days
  induction days with
  | nil =>
    intro found
    refine Or.inl ⟨fun before raw after h => ?_, found, rfl, fun x => ?_⟩
    · cases before <;> cases h
    · simp [Selects]
  | cons raw rest ih =>
    intro found
    unfold selected
    simp only
    rw [unblocked_cons]
    by_cases hall : IsAll raw
    · rw [if_pos (sameAscii_all_iff.mpr hall)]
      refine Or.inl ⟨Or.inl hall, Weekday.all, rfl, fun x => ?_⟩
      exact iff_of_true (Declaration.mem_all x)
        (Or.inr ⟨raw, List.mem_cons_self, Or.inl hall⟩)
    · rw [if_neg (fun h => hall (sameAscii_all_iff.mp h)), or_iff_right hall]
      cases hname : Weekday.ofName? (Text.trimmed raw) with
      | none => exact Or.inr ⟨fun h => h.1 ⟨hall, hname⟩, _, rfl⟩
      | some d =>
        have hknown : ¬ IsUnknown raw := fun h => nomatch hname.symm.trans h.2
        rw [and_iff_right hknown]
        refine (ih (if found.contains d then found else found ++ [d])).imp_left ?_
        rintro ⟨hrest, sel, hsel, hmem⟩
        refine ⟨hrest, sel, hsel, fun x => ?_⟩
        have hfound : x ∈ (if found.contains d then found else found ++ [d]) ↔
            x ∈ found ∨ d = x := by
          split
          · rename_i hd
            refine (or_iff_left_of_imp ?_).symm
            rintro rfl
            simpa using hd
          · simp [eq_comm]
        have hcons : Selects (raw :: rest) x ↔ d = x ∨ Selects rest x := by
          simp [Selects, hall, hname]
        rw [hmem, hfound, hcons, or_assoc]

/-- **Which lists are read, and which days they select.** -/
theorem weekdays_cases (days : List String) :
    (Readable days ∧ ∃ sel, weekdays days = .ok sel ∧ ∀ x, x ∈ sel ↔ Selects days x) ∨
      (¬ Readable days ∧ ∃ flaw, weekdays days = .error flaw) := by
  unfold weekdays Readable
  cases days with
  | nil => exact Or.inr ⟨fun h => h.1 rfl, .noDays, rfl⟩
  | cons raw rest =>
    rw [and_iff_right (List.cons_ne_nil raw rest), List.isEmpty_cons, if_neg Bool.false_ne_true]
    refine (selected_cases (raw :: rest) []).imp ?_ ?_
    · rintro ⟨h, sel, hsel, hmem⟩
      exact ⟨h, sel, hsel, fun x => (hmem x).trans (or_iff_right List.not_mem_nil)⟩
    · rintro ⟨h, name, herror⟩
      exact ⟨h, _, herror⟩

theorem weekdays_ok_iff : (∃ sel, weekdays days = .ok sel) ↔ Readable days := by
  rcases weekdays_cases days with ⟨h, sel, hsel, -⟩ | ⟨h, flaw, hflaw⟩
  · exact iff_of_true ⟨sel, hsel⟩ h
  · refine iff_of_false ?_ h
    rintro ⟨sel, hsel⟩
    cases hflaw.symm.trans hsel

instance (days : List String) : Decidable (Readable days) :=
  match h : weekdays days with
  | .ok sel => isTrue (weekdays_ok_iff.mp ⟨sel, h⟩)
  | .error _ => isFalse fun hread => by
    obtain ⟨sel, hsel⟩ := weekdays_ok_iff.mpr hread
    cases h.symm.trans hsel

namespace SameDays

theorem symm (h : SameDays days days') : SameDays days' days := fun name => (h name).symm

/-- A property of names that one list has an instance of, the other has one of. -/
theorem exists_iff {P : String → Prop} (hP : ∀ {raw raw'}, dayName raw = dayName raw' →
    (P raw ↔ P raw')) (h : SameDays days days') : (∃ raw ∈ days, P raw) ↔ ∃ raw ∈ days', P raw := by
  have hone {days days' : List String} (h : SameDays days days') :
      (∃ raw ∈ days, P raw) → ∃ raw ∈ days', P raw := by
    rintro ⟨raw, hraw, hp⟩
    obtain ⟨raw', hraw', hname⟩ :=
      List.mem_map.mp ((h (dayName raw)).mp (List.mem_map.mpr ⟨raw, hraw, rfl⟩))
    exact ⟨raw', hraw', (hP hname).mpr hp⟩
  exact ⟨hone h, hone h.symm⟩

theorem selects_iff (h : SameDays days days') (x : Weekday) : Selects days x ↔ Selects days' x :=
  h.exists_iff fun hname => by rw [isAll_congr hname, ofName?_congr hname]

theorem nil_iff (h : SameDays days days') : days = [] ↔ days' = [] := by
  have hone {days days' : List String} (h : SameDays days days') : days = [] → days' = [] := by
    rintro rfl
    exact List.eq_nil_iff_forall_not_mem.mpr fun raw hraw =>
      List.not_mem_nil ((h (dayName raw)).mpr (List.mem_map.mpr ⟨raw, hraw, rfl⟩))
  exact ⟨hone h, hone h.symm⟩

/-- **Lists of the same names are both readable or both not**, unless they have an unknown name and
the name of all days. -/
theorem readable_iff (h : SameDays days days')
    (hone : (∀ raw ∈ days, ¬ IsAll raw) ∨ ∀ raw ∈ days, ¬ IsUnknown raw) :
    Readable days ↔ Readable days' := by
  have hall : (∀ raw ∈ days, ¬ IsAll raw) ↔ ∀ raw ∈ days', ¬ IsAll raw := by
    simpa using not_congr (h.exists_iff isAll_congr)
  have hunknown : (∀ raw ∈ days, ¬ IsUnknown raw) ↔ ∀ raw ∈ days', ¬ IsUnknown raw := by
    simpa using not_congr (h.exists_iff isUnknown_congr)
  refine and_congr (not_congr h.nil_iff) ?_
  rcases hone with hnone | hknown
  · rw [unblocked_iff_known hnone, unblocked_iff_known (hall.mp hnone), hunknown]
  · exact iff_of_true (unblocked_of_known hknown) (unblocked_of_known (hunknown.mp hknown))

end SameDays

/-! ## Windows -/

/-- **The search for an occurrence depends on the set of selected days.** -/
theorem firstOccurrence_congr {start stop : Clock} {sel sel' : List Weekday}
    (h : ∀ x, x ∈ sel ↔ x ∈ sel') (today : Date) (holds : DateTime × DateTime → Bool)
    (ns : List Int) : firstOccurrence start stop sel today holds ns =
      firstOccurrence start stop sel' today holds ns := by
  have hcontains (x : Weekday) : sel.contains x = sel'.contains x := by
    rw [Bool.eq_iff_iff, List.contains_iff_mem, List.contains_iff_mem]
    exact h x
  induction ns with
  | nil => rfl
  | cons n ns ih =>
    unfold firstOccurrence
    simp only [hcontains, ih]

/-- The same timing on other days. -/
def onDays (w : Weekly) (days : List String) : Weekly :=
  { w with days }

/-- Readable lists of the same names give the same window. -/
theorem window_onDays (h : SameDays w.days days') (hr : Readable w.days) (hr' : Readable days') :
    (w.onDays days').window o now = w.window o now := by
  obtain ⟨-, sel, hsel, hmem⟩ := (weekdays_cases w.days).resolve_right fun hn => hn.1 hr
  obtain ⟨-, sel', hsel', hmem'⟩ := (weekdays_cases days').resolve_right fun hn => hn.1 hr'
  have hset (x : Weekday) : x ∈ sel' ↔ x ∈ sel := by rw [hmem, hmem', h.selects_iff]
  unfold window onDays
  simp only [hsel, hsel', ok_bind, firstOccurrence_congr hset]

/-- A list that is not readable is refused. -/
theorem window_of_not_readable (o : Offset) (now : Instant) (h : ¬ Readable w.days) :
    ∃ flaw, w.window o now = .error flaw ∧ flaw.fault? = none := by
  obtain ⟨-, flaw, hflaw⟩ := (weekdays_cases w.days).resolve_left fun hr => h hr.1
  refine ⟨flaw, ?_, (weekdays_isPlain _ _ hflaw).1⟩
  unfold window
  rw [hflaw, error_bind]

/-- Besides its days, everything of a weekly timing can be read. -/
def IsUsable (w : Weekly) : Prop :=
  (∃ o, Zone.offset w.timeZone = .ok o) ∧ (∃ start, clock w.startTime = .ok start) ∧
    ∃ stop, clock w.endTime = .ok stop

/-- Ten days inside the range of dates, a weekly timing has a window exactly when all of it can be
read. -/
theorem exists_window_iff (hnow : now.isInner) :
    (∃ win, (Timing.recurring w).window now = .ok win) ↔ w.IsUsable ∧ Readable w.days := by
  constructor
  · rintro ⟨win, h⟩
    obtain ⟨o, hzone, h⟩ := bind_eq_ok.mp h
    obtain ⟨sel, start, stop, -, hdays, hstart, hstop, -⟩ := window_found h
    exact ⟨⟨⟨o, mapError_eq_ok.mp hzone⟩, ⟨start, hstart⟩, stop, hstop⟩,
      weekdays_ok_iff.mp ⟨sel, hdays⟩⟩
  · rintro ⟨⟨⟨o, hzone⟩, ⟨start, hstart⟩, stop, hstop⟩, hreadable⟩
    obtain ⟨sel, hdays⟩ := weekdays_ok_iff.mpr hreadable
    obtain ⟨-, win, -, hwin, -⟩ := window_cases hdays hstart hstop o hnow
    exact ⟨win, (Timing.recurring_window hzone).trans hwin⟩

/-- Two answers agree: both refuse a timing, and not for a fault, or both give the same window. -/
inductive Agree : Except Flaw Window → Except Flaw Window → Prop where
  | refused {flaw flaw' : Flaw} (h : flaw.fault? = none) (h' : flaw'.fault? = none) :
    Agree (.error flaw) (.error flaw')
  | given (win : Window) : Agree (.ok win) (.ok win)

theorem Agree.fault? {flaw : Flaw} {y : Except Flaw Window} (h : Agree (.error flaw) y) :
    flaw.fault? = none := by
  cases h with
  | refused h => exact h

theorem Agree.exists_iff {x y : Except Flaw Window} (h : Agree x y) :
    (∃ win, x = .ok win) ↔ ∃ win, y = .ok win := by
  cases h with
  | refused => simp
  | given win => exact Iff.rfl

/-- There is no answer, for the same reason twice. -/
def BothFault (x y : Except Flaw Window) : Prop :=
  ∃ flaw f, flaw.fault? = some f ∧ x = .error flaw ∧ y = .error flaw

theorem agree_or_fault_self (x : Except Flaw Window) : Agree x x ∨ BothFault x x := by
  cases x with
  | ok win => exact Or.inl (.given win)
  | error flaw =>
    cases hf : flaw.fault? with
    | none => exact Or.inl (.refused hf hf)
    | some f => exact Or.inr ⟨flaw, f, hf, rfl, rfl⟩

/-- Lists of the same names that are both readable or both not agree, or fault both. -/
theorem agree_or_fault (h : SameDays w.days days') (hr : Readable w.days ↔ Readable days') :
    Agree ((Timing.recurring w).window now) ((Timing.recurring (w.onDays days')).window now) ∨
      BothFault ((Timing.recurring w).window now)
        ((Timing.recurring (w.onDays days')).window now) := by
  cases hzone : Zone.offset w.timeZone with
  | error e =>
    have hzone' : Zone.offset (w.onDays days').timeZone = .error e := hzone
    rw [Timing.window_of_zone_error (t := .recurring w) hzone,
      Timing.window_of_zone_error (t := .recurring (w.onDays days')) hzone']
    exact agree_or_fault_self _
  | ok o =>
    have hzone' : Zone.offset (w.onDays days').timeZone = .ok o := hzone
    rw [Timing.recurring_window hzone, Timing.recurring_window hzone']
    by_cases hread : Readable w.days
    · rw [window_onDays h hread (hr.mp hread)]
      exact agree_or_fault_self _
    · obtain ⟨flaw, hflaw, hnone⟩ := window_of_not_readable o now hread
      obtain ⟨flaw', hflaw', hnone'⟩ :=
        window_of_not_readable (w := w.onDays days') o now (mt hr.mpr hread)
      rw [hflaw, hflaw']
      exact Or.inl (.refused hnone hnone')

/-- A timing that has no window is refused, when its time zone is not cut inside a character. -/
theorem refused_of_not_window (hnow : now.isInner) (hwhole : ¬ Zone.CutsCharacter w.timeZone)
    (h : ¬ ∃ win, (Timing.recurring w).window now = .ok win) :
    ∃ flaw, (Timing.recurring w).window now = .error flaw ∧ flaw.fault? = none := by
  cases hw : (Timing.recurring w).window now with
  | ok win => exact absurd ⟨win, hw⟩ h
  | error flaw =>
    refine ⟨flaw, rfl, Option.eq_none_iff_forall_ne_some.mpr fun f hf => hwhole ?_⟩
    exact (Timing.window_fault_iff (t := .recurring w) hnow).mp ⟨flaw, f, hw, hf⟩

/-- **When two lists of the same names agree**, ten days inside the range of dates. -/
theorem agree_iff (h : SameDays w.days days') (hnow : now.isInner) :
    Agree ((Timing.recurring w).window now) ((Timing.recurring (w.onDays days')).window now) ↔
      ¬ Zone.CutsCharacter w.timeZone ∧ (w.IsUsable → (Readable w.days ↔ Readable days')) := by
  have hfault : (∃ flaw f, (Timing.recurring w).window now = .error flaw ∧ flaw.fault? = some f) ↔
      Zone.CutsCharacter w.timeZone := Timing.window_fault_iff hnow
  have hwin := exists_window_iff (w := w) hnow
  -- what can be read besides the days is the same of both
  have hwin' : (∃ win, (Timing.recurring (w.onDays days')).window now = .ok win) ↔
      w.IsUsable ∧ Readable days' := exists_window_iff hnow
  constructor
  · intro hagree
    refine ⟨fun hcut => ?_, fun husable => ?_⟩
    · obtain ⟨flaw, f, hflaw, hf⟩ := hfault.mpr hcut
      rw [hflaw] at hagree
      cases hagree.fault?.symm.trans hf
    · rw [and_iff_right husable] at hwin hwin'
      rw [← hwin, ← hwin']
      exact hagree.exists_iff
  · rintro ⟨hwhole, hread⟩
    by_cases husable : w.IsUsable
    · refine (agree_or_fault h (hread husable)).resolve_right ?_
      rintro ⟨flaw, f, hf, hflaw, -⟩
      exact hwhole (hfault.mp ⟨flaw, f, hflaw, hf⟩)
    · obtain ⟨flaw, hflaw, hnone⟩ :=
        refused_of_not_window hnow hwhole fun hw => husable (hwin.mp hw).1
      obtain ⟨flaw', hflaw', hnone'⟩ := refused_of_not_window (w := w.onDays days') hnow hwhole
        fun hw => husable (hwin'.mp hw).1
      rw [hflaw, hflaw']
      exact .refused hnone hnone'

end Weekly

/-! ## Declarations -/

/-- Two declarations are answered alike: both are refused, and not for a fault, or both have the
same window. -/
inductive Period.Alike : Except PeriodError Period → Except PeriodError Period → Prop where
  | refused {name name' : String} {flaw flaw' : Flaw} (h : flaw.fault? = none)
    (h' : flaw'.fault? = none) : Alike (.error (.invalid name flaw)) (.error (.invalid name' flaw'))
  | given {p p' : Period} (h : p.window = p'.window) : Alike (.ok p) (.ok p')

theorem Period.alike_iff {d d' : Declaration} {now : Instant} :
    Period.Alike (Period.evaluate d now) (Period.evaluate d' now) ↔
      Weekly.Agree (d.timing.window now) (d'.timing.window now) := by
  cases hd : d.timing.window now with
  | ok win =>
    rw [evaluate_ok hd]
    cases hd' : d'.timing.window now with
    | ok win' =>
      rw [evaluate_ok hd']
      constructor
      · rintro ⟨⟩
        rename_i h
        obtain rfl : win = win' := h
        exact .given win
      · rintro ⟨⟩
        exact .given rfl
    | error flaw' =>
      rw [evaluate_error hd']
      exact iff_of_false nofun nofun
  | error flaw =>
    rw [evaluate_error hd]
    cases hd' : d'.timing.window now with
    | ok win' =>
      rw [evaluate_ok hd']
      exact iff_of_false nofun nofun
    | error flaw' =>
      rw [evaluate_error hd']
      constructor
      · rintro ⟨⟩
        exact .refused ‹_› ‹_›
      · rintro ⟨⟩
        exact .refused ‹_› ‹_›

namespace Weekly

variable {w : Weekly} {days' : List String}

/-- **When two lists of the same names are answered alike.** Lists that are both readable or both
not are, at every instant at which either is answered. Ten days inside the range of dates nothing
else matters, besides a time zone that is cut inside a character, when all but the days can be read.
Without the name of all days, or without an unknown name, lists of the same names are both readable
or both not. -/
theorem days_alike_iff (hsame : SameDays w.days days') (name : String) (target : Target)
    (now : Instant) :
    ((Readable w.days ↔ Readable days') →
      Period.Alike (Period.evaluate ⟨name, target, .recurring w⟩ now)
          (Period.evaluate ⟨name, target, .recurring (w.onDays days')⟩ now) ∨
        ∃ flaw f, flaw.fault? = some f ∧
          Period.evaluate ⟨name, target, .recurring w⟩ now = .error (.invalid name flaw) ∧
          Period.evaluate ⟨name, target, .recurring (w.onDays days')⟩ now =
            .error (.invalid name flaw)) ∧
      (now.isInner →
        (Period.Alike (Period.evaluate ⟨name, target, .recurring w⟩ now)
            (Period.evaluate ⟨name, target, .recurring (w.onDays days')⟩ now) ↔
          ¬ Zone.CutsCharacter w.timeZone ∧
            (w.IsUsable → (Readable w.days ↔ Readable days')))) ∧
      ((∀ raw ∈ w.days, ¬ IsAll raw) ∨ (∀ raw ∈ w.days, ¬ IsUnknown raw) →
        (Readable w.days ↔ Readable days')) := by
  simp only [Period.alike_iff]
  refine ⟨fun hread => (agree_or_fault hsame hread).imp_right ?_, fun hnow => agree_iff hsame hnow,
    fun hone => hsame.readable_iff hone⟩
  rintro ⟨flaw, f, hf, hflaw, hflaw'⟩
  exact ⟨flaw, f, hf, evaluate_error hflaw, evaluate_error hflaw'⟩

theorem nightShift_usable : nightShift.IsUsable :=
  ⟨⟨nightOffset, by decide⟩, ⟨Clock.ofHour 22, by decide⟩, Clock.ofHour 6, by decide⟩

theorem nightShift_zone_whole : ¬ Zone.CutsCharacter nightShift.timeZone := by
  intro hcut
  have hzone : Zone.offset nightShift.timeZone = .ok nightOffset := by decide
  cases hzone.symm.trans (Zone.offset_fault_iff.mpr ⟨rfl, hcut⟩)

/-- On 3 June 2024 at 10:00 UTC the night shift is answered alike when its days are given in another
order, with one of them twice, in capitals and between blanks. -/
theorem nightShift_alike :
    SameDays nightShift.days [" Thursday", "MON", "mon "] ∧
      Period.Alike
        (Period.evaluate ⟨"nights", .down, .recurring nightShift⟩ (Instant.ofHour 19877 10))
        (Period.evaluate
          ⟨"nights", .down, .recurring (nightShift.onDays [" Thursday", "MON", "mon "])⟩
          (Instant.ofHour 19877 10)) := by
  have hnames : nightShift.days.map dayName = ["mon", "thursday"] := by decide
  have hnames' : [" Thursday", "MON", "mon "].map dayName = ["thursday", "mon", "mon"] := by decide
  have hsame : SameDays nightShift.days [" Thursday", "MON", "mon "] := by
    intro name
    rw [hnames, hnames']
    simp [or_comm]
  have hnow : (Instant.ofHour 19877 10).isInner := by decide
  obtain ⟨-, halike, hone⟩ := days_alike_iff hsame "nights" .down (Instant.ofHour 19877 10)
  have hread := hone (Or.inl (by decide))
  exact ⟨hsame, (halike hnow).mpr ⟨nightShift_zone_whole, fun _ => hread⟩⟩

/-- The order of the days matters when one is unknown: in front of all days it is refused, and
behind them it goes unnoticed. -/
theorem nightShift_not_alike :
    SameDays ["all", "noday"] ["noday", "all"] ∧
      ¬ Period.Alike
        (Period.evaluate ⟨"nights", .down, .recurring (nightShift.onDays ["all", "noday"])⟩
          (Instant.ofHour 19877 10))
        (Period.evaluate ⟨"nights", .down, .recurring (nightShift.onDays ["noday", "all"])⟩
          (Instant.ofHour 19877 10)) := by
  have hsame : SameDays ["all", "noday"] ["noday", "all"] := by
    intro name
    simp [or_comm]
  have hnow : (Instant.ofHour 19877 10).isInner := by decide
  refine ⟨hsame, fun halike => ?_⟩
  have hagree := Period.alike_iff.mp halike
  obtain ⟨-, hread⟩ :=
    (agree_iff (w := nightShift.onDays ["all", "noday"]) hsame hnow).mp hagree
  have hreadable : Readable ["all", "noday"] := by decide
  exact absurd ((hread nightShift_usable).mp hreadable) (by decide)

end Weekly

end PeriodScaler
