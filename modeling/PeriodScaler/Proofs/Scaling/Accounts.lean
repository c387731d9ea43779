import PeriodScaler.Proofs.Scaling.Reach
import PeriodScaler.Proofs.Scaling.Repetition

/-!
# A pass accounts for what it reaches

A pass over distinct places has one entry in its report for each item that it reaches, one for each
place that cannot be listed, one for each time that a name is given which no listed item has, and
none besides. It makes no call for another item, and changes none.

What a provider has to do with this is in `Sweep.Tracks`: an item is at one place only and is found
there again after it was converged, and the calls for an item are calls for that item. `Scope` is
what a pass is to account for, told without its legs.

* **`Sweep.Tracks.about_item`**, **`about_place`**, **`about_missing`**: how often each is reported.
* **`Sweep.Tracks.transcript_overAll`**: for which items a call is made.
* **`pass_accounts`**: the report, the calls and the changes of a pass of either provider.
-/

namespace PeriodScaler

open Memory (World)

/-- The item that a call changes. -/
def Call.subject? : Call → Option Source
  | .scaleWorkload _ kind namespaceName name _ _ => some (.workload ⟨kind, namespaceName, name⟩)
  | .startInstance _ _ zone name => some (.machine zone name)
  | .stopInstance _ _ zone name => some (.machine zone name)
  | _ => none

/-- A call changes this item, if any. -/
def Call.IsFor (x : Source) (c : Call) : Prop :=
  ∀ y, c.subject? = some y → y = x

/-- A report of one item. -/
inductive Report.IsOf (kind name : String) : Report → Prop where
  | success (comment : String) : IsOf kind name (.success kind name comment)
  | failure (reason : String) : IsOf kind name (.failure kind name reason)

variable {ε β : Type}

/-! ## Calls of a sweep -/

namespace Sweep

variable {s : Sweep β} {b : Backing ε β} {Q : Call → Prop} {entries : List ε}

theorem isAt_of_touches {place : String} {e : ε} (h : (s.leg b place).touches e = true) :
    b.isAt place e = true := by
  unfold leg at h
  simp only [Bool.and_eq_true] at h
  exact h.2.1

theorem calls_overItems {place : String} : ∀ {items : List β},
    (∀ x ∈ items, (s.converge place x).Calls Q) → (s.overItems place items).Calls Q
  | [], _ => trivial
  | _ :: _, h => by
    obtain ⟨hfirst, hrest⟩ := List.forall_mem_cons.mp h
    exact hfirst.bind fun _ => (calls_overItems hrest).bind fun _ => trivial

variable (h : s.Asks b)

include h

/-- The calls at a place are to list it, and to converge what is touched there. -/
theorem transcript_overPlace_of {place : String} (hlist : (s.list place).Calls Q)
    (hconverge : ∀ e ∈ entries, (s.leg b place).touches e = true →
      (s.converge place (b.item e)).Calls Q) (log : List String) :
    ∀ x ∈ (s.overPlace place).transcript World.answer (b.put entries log), Q x.call := by
  intro x hx
  rw [overPlace, Program.transcript_bind] at hx
  rcases List.mem_append.mp hx with hx | hx
  · exact hlist.plays (Program.plays_run _ _) x hx
  · rw [h.list] at hx
    cases hrefusal : b.refusal place with
    | some e =>
      rw [hrefusal] at hx
      exact absurd hx List.not_mem_nil
    | none =>
      rw [hrefusal] at hx
      simp only [onListed, Program.transcript_bind, Program.transcript_done, List.append_nil] at hx
      refine (calls_overItems fun x' hx' => ?_).plays (Program.plays_run _ _) x hx
      obtain ⟨hmem, hnamed⟩ := List.mem_filter.mp hx'
      obtain ⟨e, he, rfl⟩ := List.mem_map.mp hmem
      obtain ⟨he, hat⟩ := List.mem_filter.mp he
      refine hconverge e he ?_
      rw [touches_of_listed hrefusal, hat, hnamed]
      rfl

variable (inv : ε → Prop) (hinv : ∀ e, inv e → inv (b.after e))
  (hlist : ∀ place, (s.list place).Calls Q)

include hinv hlist

theorem transcript_overPlaces_of : ∀ (places : List String) (entries : List ε) (log : List String),
    (entries.map b.source).Nodup → (∀ e ∈ entries, inv e) →
      (∀ place ∈ places, ∀ e, inv e → (s.leg b place).touches e = true →
        (s.converge place (b.item e)).Calls Q) →
      ∀ x ∈ (s.overPlaces places).transcript World.answer (b.put entries log), Q x.call
  | [], _, _, _, _, _, _, hx => absurd hx List.not_mem_nil
  | place :: rest, entries, log, hentries, hall, hconverge, x, hx => by
    obtain ⟨hfirst, hrest⟩ := List.forall_mem_cons.mp hconverge
    rw [overPlaces, Program.bind_eq, Program.transcript_bind] at hx
    rcases List.mem_append.mp hx with hx | hx
    · exact transcript_overPlace_of h (hlist place) (fun e he => hfirst e (hall e he)) log x hx
    · obtain ⟨log', hrun⟩ := run_overPlace h place entries log hentries
      rw [hrun] at hx
      simp only [Program.bind_eq, Program.transcript_bind, Program.pure_eq_done,
        Program.transcript_done, List.append_nil] at hx
      have hsame := (isOver_leg h place).map_source_bring entries
      refine transcript_overPlaces_of rest _ log' (hsame.symm ▸ hentries) ?_ hrest x hx
      refine List.forall_mem_map.mpr fun e he => ?_
      unfold Leg.bring
      split
      · exact hinv e (hall e he)
      · exact hall e he

/-- **The calls of a sweep keep to a rule** when listing does, and converging an entry with a
property that each entry has at first and keeps. -/
theorem transcript_overAll_of {places : List String} (hentries : (entries.map b.source).Nodup)
    (hall : ∀ e ∈ entries, inv e)
    (hconverge : ∀ place ∈ places, ∀ e, inv e → (s.leg b place).touches e = true →
      (s.converge place (b.item e)).Calls Q) (log : List String) :
    ∀ x ∈ (s.overAll places).transcript World.answer (b.put entries log), Q x.call := by
  rw [overAll, Program.bind_eq, Program.transcript_bind]
  simp only [Program.pure_eq_done, Program.transcript_done, List.append_nil]
  exact transcript_overPlaces_of h inv hinv hlist places entries log hentries hall hconverge

end Sweep

/-! ## Sweeps over distinct places -/

/-- A sweep finds each item of a table at one place, and finds it there again after it was
converged; what it does for an item is for that item. -/
structure Sweep.Tracks (s : Sweep β) (b : Backing ε β) : Prop where
  asks : s.Asks b
  isItem : ∀ e, (b.source e).isItem = true
  isAt_after : ∀ place e, b.isAt place (b.after e) = b.isAt place e
  name_after : ∀ e, s.name (b.item (b.after e)) = s.name (b.item e)
  at_one : ∀ {p q e}, b.isAt p e = true → b.isAt q e = true → p = q
  list_calls : ∀ place, (s.list place).Calls fun c => Call.subject? c = none
  converge_calls : ∀ place x, (s.converge place x).Calls (Call.IsFor (s.source place x))

/-- A name that is not among those seen is missed as often as it is given. -/
theorem Sweep.about_unseen (s : Sweep β) {name : String} {seen : List String} (h : name ∉ seen) :
    Line.about (.missing name) (s.unseen seen) =
      List.replicate (s.names.count name) ⟨.missing name, .failure s.kind name s.absent⟩ := by
  have hgiven : (s.names.filter fun n => !seen.contains n).filter (fun n => n == name) =
      List.replicate (s.names.count name) name := by
    rw [List.filter_filter, ← List.filter_beq]
    refine List.filter_congr fun n _ => ?_
    by_cases hn : n = name
    · have hunseen : seen.contains n = false := by
        rw [hn, List.contains_eq_mem, decide_eq_false_iff_not]
        exact h
      rw [hunseen, Bool.not_false, Bool.and_true]
    · rw [beq_eq_false_iff_ne.mpr hn, Bool.false_and]
  unfold unseen Line.about Line.sparedOf
  rw [List.filter_map]
  have hsource : (fun line : Line => decide (line.source = .missing name)) ∘
      (fun n => (⟨.missing n, .failure s.kind n s.absent⟩ : Line)) = fun n => n == name := by
    funext n
    simp only [Function.comp_apply, Source.missing.injEq]
    rfl
  rw [hsource, hgiven, List.map_replicate]

namespace Sweep.Tracks

variable {s : Sweep β} {b : Backing ε β} {places : List String}

/-- Of distinct places, each one that cannot be listed is told once. -/
theorem about_refusals (hplaces : places.Nodup) (place : String) :
    (places.flatMap fun q => Line.about (.place place) ((b.refusal q).map (s.refused q)).toList) =
      if place ∈ places then ((b.refusal place).map (s.refused place)).toList else [] := by
  induction places with
  | nil => rfl
  | cons q rest ih =>
    obtain ⟨hfresh, hrest⟩ := List.nodup_cons.mp hplaces
    have hsource : ∀ line ∈ ((b.refusal q).map (s.refused q)).toList, line.source = .place q := by
      intro line hline
      obtain ⟨e, -, rfl⟩ := Option.map_eq_some_iff.mp (Option.mem_toList.mp hline)
      rfl
    rw [List.flatMap_cons, ih hrest]
    by_cases hq : q = place
    · subst hq
      rw [Line.about_of_forall_eq hsource, if_neg hfresh, List.append_nil,
        if_pos List.mem_cons_self]
    · have hother : ∀ line ∈ ((b.refusal q).map (s.refused q)).toList,
          line.source ≠ .place place := by
        intro line hline hsame
        exact hq (Source.place.inj ((hsource line hline).symm.trans hsame))
      rw [Line.about_of_forall_ne hother, List.nil_append]
      simp only [List.mem_cons, Ne.symm hq, false_or]

variable (h : s.Tracks b)

include h

theorem findAgain (places : List String) : Leg.FindAgain b.after (s.part b places).legs := by
  refine List.forall_mem_map.mpr fun place _ e => ?_
  unfold leg
  exact ⟨by simp only [h.isAt_after, h.name_after], h.name_after e⟩

theorem exclusive (hplaces : places.Nodup) (e : ε) :
    (s.part b places).legs.Pairwise fun leg leg' =>
      leg.touches e = true → leg'.touches e = false := by
  refine List.pairwise_map.mpr (hplaces.imp fun {p q} hne htouched => ?_)
  unfold leg at htouched ⊢
  simp only [Bool.and_eq_true] at htouched
  have hat : b.isAt q e = false :=
    Bool.eq_false_iff.mpr fun hat => hne (h.at_one htouched.2.1 hat)
  simp only [hat, Bool.false_and, Bool.and_false]

variable {entries : List ε}

/-- **An item that is touched is reported once**, and no other one is. -/
theorem about_item (hplaces : places.Nodup) (hentries : (entries.map b.source).Nodup) {e : ε}
    (he : e ∈ entries) :
    Line.about (b.source e) ((s.part b places).lines entries) =
      if Leg.anyTouches (s.part b places).legs e then [⟨b.source e, b.report e⟩] else [] := by
  rw [Part.about_lines (isOver_part h.asks places) hentries he (h.isItem e)]
  exact (Leg.course_of_exclusive (areAlike s b places) (h.findAgain places)
    (h.exclusive hplaces e)).2

/-- What is touched is brought where it is to be, and nothing else changes. -/
theorem course_eq (hplaces : places.Nodup) (e : ε) : Leg.course (s.part b places).legs e =
    if Leg.anyTouches (s.part b places).legs e then b.after e else e :=
  (Leg.course_of_exclusive (areAlike s b places) (h.findAgain places) (h.exclusive hplaces e)).1

/-- Of what is no item, only the places that cannot be listed are told at the places. -/
theorem about_linesOver_of_not_isItem {x : Source} (hx : x.isItem = false) :
    ∀ (places : List String) (entries : List ε),
      Line.about x (Leg.linesOver (s.part b places).legs entries) =
        places.flatMap fun place => Line.about x ((b.refusal place).map (s.refused place)).toList
  | [], _ => rfl
  | place :: rest, entries => by
    have hitems : Line.about x ((entries.filter (s.leg b place).touches).map
        (s.leg b place).line) = [] := by
      refine Line.about_of_forall_ne (List.forall_mem_map.mpr fun e _ hsame => ?_)
      have hitem : (b.source e).isItem = true := h.isItem e
      rw [show b.source e = x from hsame, hx] at hitem
      cases hitem
    have hrest := about_linesOver_of_not_isItem hx rest (entries.map (s.leg b place).bring)
    unfold Sweep.part at hrest ⊢
    rw [List.map_cons, Leg.linesOver, Line.about_append, hrest, Leg.lines, Line.about_append,
      hitems, List.append_nil, List.flatMap_cons]
    rfl

/-- **A place that cannot be listed is reported once**, and no other one is. -/
theorem about_place (hplaces : places.Nodup) (place : String) :
    Line.about (.place place) ((s.part b places).lines entries) =
      if place ∈ places then ((b.refusal place).map (s.refused place)).toList else [] := by
  have hclose : Line.about (.place place)
      ((s.part b places).close (Leg.seenOver (s.part b places).legs entries)) = [] :=
    Line.about_of_forall_ne (List.forall_mem_map.mpr fun _ _ => nofun)
  rw [Part.lines, Line.about_append, h.about_linesOver_of_not_isItem rfl, hclose, List.append_nil]
  exact about_refusals hplaces place

/-- The names that are seen are those of the items that are touched. -/
theorem mem_seenOver {name : String} : name ∈ Leg.seenOver (s.part b places).legs entries ↔
    ∃ e ∈ entries, Leg.anyTouches (s.part b places).legs e = true ∧ s.name (b.item e) = name := by
  rw [Leg.mem_seenOver (areAlike s b places) (h.findAgain places)]
  refine exists_congr fun e => and_congr_right fun _ => ?_
  unfold Leg.anyTouches
  rw [List.any_eq_true]
  constructor
  · rintro ⟨leg, hleg, htouched, hname⟩
    obtain ⟨place, -, rfl⟩ := List.mem_map.mp hleg
    exact ⟨⟨_, hleg, htouched⟩, hname⟩
  · rintro ⟨⟨leg, hleg, htouched⟩, hname⟩
    refine ⟨leg, hleg, htouched, ?_⟩
    obtain ⟨place, -, rfl⟩ := List.mem_map.mp hleg
    exact hname

/-- **A name that is not seen is reported as often as it is given.** -/
theorem about_missing {name : String}
    (hname : name ∉ Leg.seenOver (s.part b places).legs entries) :
    Line.about (.missing name) ((s.part b places).lines entries) =
      List.replicate (s.names.count name) ⟨.missing name, .failure s.kind name s.absent⟩ := by
  have hlegs : Line.about (.missing name)
      (Leg.linesOver (s.part b places).legs entries) = [] := by
    rw [h.about_linesOver_of_not_isItem rfl]
    refine List.flatMap_eq_nil_iff.mpr fun place _ => Line.about_of_forall_ne fun line hline => ?_
    obtain ⟨e, -, rfl⟩ := Option.map_eq_some_iff.mp (Option.mem_toList.mp hline)
    exact nofun
  rw [Part.lines, Line.about_append, hlegs, List.nil_append]
  exact s.about_unseen hname

/-- **The calls of a sweep** are for items that are touched. -/
theorem transcript_overAll (places : List String) (log : List String)
    (hentries : (entries.map b.source).Nodup) :
    ∀ x ∈ (s.overAll places).transcript World.answer (b.put entries log), ∀ y,
      Call.subject? x.call = some y →
        ∃ e ∈ entries, Leg.anyTouches (s.part b places).legs e = true ∧ y = b.source e := by
  have hlist (place : String) : (s.list place).Calls fun c => ∀ y, Call.subject? c = some y →
      ∃ e ∈ entries, Leg.anyTouches (s.part b places).legs e = true ∧ y = b.source e := by
    refine (h.list_calls place).mono fun c hc y hy => ?_
    cases hc.symm.trans hy
  -- an entry keeps its source, and looks to the legs as it did
  refine Sweep.transcript_overAll_of h.asks (fun e => ∃ e₀ ∈ entries, b.source e = b.source e₀ ∧
      ∀ leg ∈ (s.part b places).legs, leg.touches e = leg.touches e₀) ?_ hlist hentries
    (fun e he => ⟨e, he, rfl, fun _ _ => rfl⟩) ?_ log
  · rintro e ⟨e₀, he₀, hsource, htouches⟩
    exact ⟨e₀, he₀, (h.asks.source_after e).trans hsource, fun leg hleg =>
      ((h.findAgain places leg hleg e).1).trans (htouches leg hleg)⟩
  · rintro place hplace e ⟨e₀, he₀, hsource, htouches⟩ htouched
    refine (h.converge_calls place (b.item e)).mono fun c hc y hy => ⟨e₀, he₀, ?_, ?_⟩
    · have hleg : s.leg b place ∈ (s.part b places).legs := List.mem_map.mpr ⟨place, hplace, rfl⟩
      exact List.any_eq_true.mpr ⟨_, hleg, (htouches _ hleg).symm.trans htouched⟩
    · rw [hc y hy, h.asks.source place e (Sweep.isAt_of_touches htouched), hsource]

end Sweep.Tracks

/-! ## What a pass is to account for -/

/-- The items of a table, each with its source, its name and what a report calls it; which of them
are listed; the places, and which of them fail to be listed; and the names to which a pass is
restricted, if any. -/
structure Scope (ε : Type) where
  kind : String
  /-- Why a name is a failure that no listed item has. -/
  absent : String
  names : List String
  places : List String
  source : ε → Source
  name : ε → String
  item : ε → String
  Lists : ε → Prop
  Fails : String → Prop

namespace Scope

variable (scope : Scope ε)

/-- An item is reached: it is listed, and it is named or all are. -/
def Reaches (e : ε) : Prop :=
  scope.Lists e ∧ isNamed scope.names (scope.name e) = true

/-- No listed item has the name. -/
def Misses (entries : List ε) (name : String) : Prop :=
  ∀ e ∈ entries, scope.Lists e → scope.name e ≠ name

/-- The lines of a report account for a table: one entry for each item that is reached, one failure
for each place that fails, one failure for each time that a name is given which no listed item has,
and nothing else. -/
structure Accounts (entries : List ε) (lines : List Line) : Prop where
  reached : ∀ e ∈ entries, scope.Reaches e → ∃ report,
    Report.IsOf scope.kind (scope.item e) report ∧
      Line.about (scope.source e) lines = [⟨scope.source e, report⟩]
  refused : ∀ place ∈ scope.places, scope.Fails place → ∃ reason,
    Line.about (.place place) lines =
      [⟨.place place, .failure scope.kind (place ++ "/*") reason⟩]
  missed : ∀ name, scope.Misses entries name → Line.about (.missing name) lines =
    List.replicate (scope.names.count name)
      ⟨.missing name, .failure scope.kind name scope.absent⟩
  nothingElse : ∀ line ∈ lines,
    (∃ e ∈ entries, scope.Reaches e ∧ line.source = scope.source e) ∨
      (∃ place ∈ scope.places, scope.Fails place ∧ line.source = .place place) ∨
        ∃ name ∈ scope.names, scope.Misses entries name ∧ line.source = .missing name

/-- Exchanges and changes are confined to the items that are reached: each call that changes an item
is for one of them, and any other item is left as it was. -/
structure Confines (entries entries' : List ε) (l : List collaborators.Exchange) : Prop where
  calls : ∀ x ∈ l, ∀ y, Call.subject? x.call = some y →
    ∃ e ∈ entries, scope.Reaches e ∧ y = scope.source e
  changes : List.Forall₂ (fun e₀ e => scope.source e = scope.source e₀ ∧
    (¬ scope.Reaches e₀ → e = e₀)) entries entries'

/-- A sweep over the places of a scope. -/
structure Describes (s : Sweep β) (b : Backing ε β) : Prop where
  tracks : s.Tracks b
  kind : s.kind = scope.kind
  absent : s.absent = scope.absent
  names : s.names = scope.names
  source : b.source = scope.source
  name : ∀ e, s.name (b.item e) = scope.name e
  report : ∀ e, Report.IsOf scope.kind (scope.item e) (b.report e)
  lists : ∀ e, scope.Lists e ↔
    ∃ place ∈ scope.places, b.refusal place = none ∧ b.isAt place e = true
  fails : ∀ place, scope.Fails place ↔ b.refusal place ≠ none

namespace Describes

variable {scope} {s : Sweep β} {b : Backing ε β} (h : scope.Describes s b) {entries : List ε}

include h

theorem anyTouches_iff (e : ε) :
    Leg.anyTouches (s.part b scope.places).legs e = true ↔ scope.Reaches e := by
  rw [Sweep.anyTouches_iff, ← h.lists, h.names, h.name]
  rfl

/-- A name that is not seen is one that no listed item has. -/
theorem misses_of_not_seen {name : String} (hgiven : name ∈ scope.names)
    (hname : name ∉ Leg.seenOver (s.part b scope.places).legs entries) :
    scope.Misses entries name := by
  intro e he hlisted hsame
  refine hname (h.tracks.mem_seenOver.mpr ⟨e, he, (h.anyTouches_iff e).mpr ⟨hlisted, ?_⟩, ?_⟩)
  · unfold isNamed
    rw [hsame, List.contains_iff_mem.mpr hgiven, Bool.or_true]
  · rw [h.name, hsame]

theorem not_seen_of_misses {name : String} (hname : scope.Misses entries name) :
    name ∉ Leg.seenOver (s.part b scope.places).legs entries := by
  intro hseen
  obtain ⟨e, he, htouched, hsame⟩ := h.tracks.mem_seenOver.mp hseen
  exact hname e he ((h.anyTouches_iff e).mp htouched).1 ((h.name e).symm.trans hsame)

/-- **The lines of a sweep account for the table.** -/
theorem accounts (hplaces : scope.places.Nodup) (hentries : (entries.map scope.source).Nodup) :
    scope.Accounts entries ((s.part b scope.places).lines entries) where
  reached e he hreached := by
    refine ⟨b.report e, h.report e, ?_⟩
    have habout := h.tracks.about_item hplaces (h.source ▸ hentries) he
    rwa [if_pos ((h.anyTouches_iff e).mpr hreached), h.source] at habout
  refused place hplace hfails := by
    have habout : Line.about (.place place) ((s.part b scope.places).lines entries) = _ :=
      h.tracks.about_place hplaces place
    obtain ⟨e, hrefusal⟩ := Option.ne_none_iff_exists'.mp ((h.fails place).mp hfails)
    rw [if_pos hplace, hrefusal] at habout
    refine ⟨e.message, ?_⟩
    rw [habout, ← h.kind]
    rfl
  missed name hname := by
    rw [h.tracks.about_missing (h.not_seen_of_misses hname), h.names, h.kind, h.absent]
  nothingElse line hline := by
    rcases List.mem_append.mp hline with hline | hline
    · rcases Leg.source_of_mem_linesOver (Sweep.areAlike s b scope.places)
        (h.tracks.findAgain scope.places) (Sweep.isOver_part h.tracks.asks scope.places).legs
        hline with ⟨leg, hleg, hrefusal⟩ | ⟨e, he, htouched, hsource⟩
      · obtain ⟨place, hplace, rfl⟩ := List.mem_map.mp hleg
        obtain ⟨e, he, rfl⟩ := Option.map_eq_some_iff.mp hrefusal
        refine Or.inr (Or.inl ⟨place, hplace, (h.fails place).mpr ?_, rfl⟩)
        rw [he]
        exact Option.some_ne_none e
      · exact Or.inl ⟨e, he, (h.anyTouches_iff e).mp htouched, h.source ▸ hsource⟩
    · obtain ⟨name, hname, rfl⟩ := List.mem_map.mp hline
      obtain ⟨hgiven, hunseen⟩ := List.mem_filter.mp hname
      rw [h.names] at hgiven
      rw [Bool.not_eq_true', List.contains_eq_mem, decide_eq_false_iff_not] at hunseen
      exact Or.inr (Or.inr ⟨name, hgiven, h.misses_of_not_seen hgiven hunseen, rfl⟩)

/-- **Its calls and its changes are confined** to what it reaches. -/
theorem confines (hplaces : scope.places.Nodup) (hentries : (entries.map scope.source).Nodup)
    (log : List String) :
    scope.Confines entries (entries.map (Leg.course (s.part b scope.places).legs))
      ((s.overAll scope.places).transcript World.answer (b.put entries log)) where
  calls x hx y hy := by
    obtain ⟨e, he, htouched, rfl⟩ :=
      h.tracks.transcript_overAll scope.places log (h.source ▸ hentries) x hx y hy
    exact ⟨e, he, (h.anyTouches_iff e).mp htouched, by rw [h.source]⟩
  changes := by
    refine List.forall₂_map_right_iff.mpr (List.forall₂_same.mpr fun e _ => ?_)
    rw [h.tracks.course_eq hplaces]
    by_cases htouched : Leg.anyTouches (s.part b scope.places).legs e = true
    · rw [if_pos htouched, ← h.source]
      refine ⟨h.tracks.asks.source_after e, fun hnot => ?_⟩
      exact absurd ((h.anyTouches_iff e).mp htouched) hnot
    · rw [if_neg htouched]
      exact ⟨rfl, fun _ => rfl⟩

end Describes

end Scope

/-! ## Workloads -/

namespace WorkloadSelection

/-- No target but one leaves a workload out. -/
theorem need_ne_ignore {target : Target} (htarget : target ≠ .noAction) (w : Workload) :
    need target w ≠ .ignore := by
  intro h
  unfold need at h
  cases target with
  | noAction => exact htarget rfl
  | down =>
    simp only at h
    split at h
    · cases h
    · cases h
  | up | restore =>
    simp only at h
    split at h
    · split at h
      · cases h
      · cases h
    · split at h
      · cases h
      · cases h

/-- A workload that is converged is reported once. -/
theorem isOf_reported {target : Target} (htarget : target ≠ .noAction) (failing : List String)
    (kind : String) (w : Workload) : Report.IsOf kind w.item (reported failing kind target w) := by
  unfold reported
  cases hcase : need target w with
  | scale replicas record comment =>
    simp only
    split
    · exact .failure _
    · exact .success comment
  | nothing comment => exact .success comment
  | impossible reason => exact .failure reason
  | ignore => exact absurd hcase (need_ne_ignore htarget w)

/-- The calls for a workload scale that workload. -/
theorem calls_converge (server : Option String) (kind : String) (target : Target) (w : Workload) :
    (converge server kind target w).Calls (Call.IsFor (.workload w.identity)) := by
  unfold converge
  cases need target w with
  | scale replicas record comment =>
    refine Program.Calls.ask (fun y hy => (Option.some.inj hy).symm) fun answer => ?_
    cases answer <;> trivial
  | nothing comment | impossible reason | ignore => trivial

end WorkloadSelection

namespace Mutator

variable (m : Mutator) (w : World) (target : Target)

theorem tracks : (m.sweep target).Tracks (m.backing w target) where
  asks := m.asks w target
  isItem _ := rfl
  isAt_after :=
    (m.selection.steady_backing w m.server m.workloadKind m.kind target).isAt
  name_after :=
    (m.selection.steady_backing w m.server m.workloadKind m.kind target).name
  at_one hp hq :=
    ((m.isAt_iff w target).mp hp).2.1.symm.trans ((m.isAt_iff w target).mp hq).2.1
  list_calls _ := Program.Calls.ask rfl fun _ => trivial
  converge_calls _ := WorkloadSelection.calls_converge m.server m.kind target

/-- What a pass over workloads is to account for. -/
def scope : Scope (Workload × Labels) where
  kind := m.kind
  absent := "workload not found in any selected namespace"
  names := m.selection.names
  places := m.places
  source e := .workload e.1.identity
  name e := e.1.name
  item e := e.1.item
  Lists := m.Lists w
  Fails namespaceName := w.workloads.failingList.contains namespaceName = true

variable {target}

theorem describes (htarget : target ≠ .noAction) :
    (m.scope w).Describes (m.sweep target) (m.backing w target) where
  tracks := m.tracks w target
  kind := rfl
  absent := rfl
  names := rfl
  source := rfl
  name _ := rfl
  report e := WorkloadSelection.isOf_reported htarget w.workloads.failingScale m.kind e.1
  lists _ := m.lists_iff w target
  fails namespaceName := by
    rw [Ne, m.refusal_eq_none_iff w target, Bool.not_eq_false]
    rfl

end Mutator

/-! ## Instances -/

namespace InstanceSelection

/-- An instance that is converged is reported once. -/
theorem isOf_reported (failing : List String) (kind : String) (target : Target)
    (e : String × Instance) :
    Report.IsOf kind (e.1 ++ "/" ++ e.2.name) (reported failing kind target e) := by
  have haction : ∀ state, Report.IsOf kind (e.1 ++ "/" ++ e.2.name)
      (reportedAction failing kind state e) := by
    intro state
    unfold reportedAction
    split
    · exact .failure _
    · exact .success state
  unfold reported
  cases need target e.2.status with
  | stop => exact haction "stopped"
  | start => exact haction "running"
  | nothing state => exact .success state
  | wait => exact .failure _

/-- The calls for an instance start or stop that instance. -/
theorem calls_converge (credentials : Credentials) (kind : String) (s : InstanceSelection)
    (target : Target) (zone : String) (i : Instance) :
    (converge credentials kind s target zone i).Calls (Call.IsFor (.machine zone i.name)) := by
  unfold converge
  cases need target i.status with
  | stop | start =>
    refine Program.Calls.ask (fun y hy => (Option.some.inj hy).symm) fun answer => ?_
    cases answer <;> trivial
  | nothing state | wait => trivial

end InstanceSelection

namespace InstanceMutator

variable (m : InstanceMutator) (w : World) (target : Target)

theorem tracks : (m.sweep target).Tracks (m.backing w target) where
  asks := m.asks w target
  isItem _ := rfl
  isAt_after := (m.selection.steady_backing w m.credentials m.kind target).isAt
  name_after := (m.selection.steady_backing w m.credentials m.kind target).name
  at_one hp hq :=
    ((m.isAt_iff w target).mp hp).1.symm.trans ((m.isAt_iff w target).mp hq).1
  list_calls _ := Program.Calls.ask rfl fun _ => trivial
  converge_calls zone i :=
    InstanceSelection.calls_converge m.credentials m.kind m.selection target zone i

/-- What a pass over instances is to account for. -/
def scope : Scope (String × Instance) where
  kind := m.kind
  absent := "instance not found in any selected zone"
  names := m.selection.names
  places := m.selection.zones
  source e := .machine e.1 e.2.name
  name e := e.2.name
  item e := e.1 ++ "/" ++ e.2.name
  Lists := m.Lists w
  Fails zone := w.instances.failingZones.contains zone = true

theorem describes : (m.scope w).Describes (m.sweep target) (m.backing w target) where
  tracks := m.tracks w target
  kind := rfl
  absent := rfl
  names := rfl
  source := rfl
  name _ := rfl
  report e := InstanceSelection.isOf_reported w.instances.failingInstances m.kind target e
  lists _ := m.lists_iff w target
  fails zone := by
    rw [Ne, m.refusal_eq_none_iff w target, Bool.not_eq_false]
    rfl

end InstanceMutator

/-! ## Both -/

/-- **A pass accounts for exactly what it reaches**, in every world, with whatever failures. A pass
over workloads in distinct namespaces, the default one when none is given, or over instances in
distinct zones of a project, gives a report: one entry for each item that it lists and that is
named, one failure for each namespace or zone that cannot be listed, one failure for each time that
a name is given which no listed item has, and nothing else. No other item is scaled, started or
stopped, and none changes. -/
theorem pass_accounts {w : World} (hw : w.IsOrdered) {target : Target}
    (htarget : target ≠ .noAction) :
    (∀ m : Mutator, m.selection.namespaces.Nodup →
      (m.selection.namespaces = [] → m.places = [m.defaultNamespace]) ∧
      (m.selection.namespaces ≠ [] → m.places = m.selection.namespaces) ∧
      ∃ lines w', (m.setState target).run World.answer w = (.ok (.ofLines lines), w') ∧
        (m.scope w).Accounts w.workloads.entries lines ∧
        (m.scope w).Confines w.workloads.entries w'.workloads.entries
          ((m.setState target).transcript World.answer w) ∧
        w'.instances = w.instances) ∧
    ∀ m : InstanceMutator, m.selection.zones.Nodup → m.selection.project ≠ "" →
      m.selection.zones ≠ [] →
      ∃ lines w', (m.setState target).run World.answer w = (.ok (.ofLines lines), w') ∧
        (m.scope w).Accounts w.instances.entries lines ∧
        (m.scope w).Confines w.instances.entries w'.instances.entries
          ((m.setState target).transcript World.answer w) ∧
        w'.workloads = w.workloads := by
  constructor
  · intro m hdistinct
    have hplaces := m.nodup_places hdistinct
    have hdescribes := m.describes w htarget
    have hentries := WorkloadSelection.nodup_sources hw
    obtain ⟨log, -, hrun⟩ := m.run_setState hw htarget
    refine ⟨m.places_of_none, m.places_of_some, _, _, hrun,
      hdescribes.accounts hplaces hentries, ?_, rfl⟩
    rw [m.setState_eq htarget, Program.transcript_bind, Program.transcript_done, List.append_nil]
    exact hdescribes.confines hplaces hentries w.workloads.calls
  · intro m hplaces hproject hzones
    have hdescribes := m.describes w target
    have hentries := InstanceSelection.nodup_sources hw
    obtain ⟨log, -, hrun⟩ := m.run_setState hw htarget hproject hzones
    refine ⟨_, _, hrun, hdescribes.accounts hplaces hentries, ?_, rfl⟩
    rw [m.setState_eq htarget hproject hzones, Program.transcript_bind, Program.transcript_done,
      List.append_nil]
    exact hdescribes.confines hplaces hentries w.instances.calls

/-- Deployments of two namespaces and instances of two zones; a third namespace and a third zone
cannot be listed. -/
def shop : World :=
  { World.empty (.leadsTo .kubernetes) with
    workloads :=
      { Memory.Workloads.empty with
        entries := [(⟨.deployment, "batch", "web", 1, []⟩, []),
          (⟨.deployment, "default", "api", 2, []⟩, []),
          (⟨.deployment, "default", "web", 3, []⟩, [])]
        failingList := ["ops"] }
    instances :=
      { Memory.Instances.empty with
        entries := [("a", ⟨"till", "", .running, []⟩), ("b", ⟨"till", "", .running, []⟩)]
        failingZones := ["c"] } }

/-- Deployments of this name in two namespaces, and of another name that is given twice. -/
def webAndDb : Mutator :=
  ⟨none, .deployment, "deployments", ⟨["default", "ops"], ["deployments"], ["web", "db", "db"], []⟩,
    "default"⟩

/-- All instances of two zones. -/
def tills : InstanceMutator :=
  ⟨.metadataServer, "instances", ⟨"shop", ["b", "c"], ["instances"], [], []⟩⟩

/-- One entry for what is reached, one for the namespace or zone that cannot be listed, two for the
name that is given twice; what is of the same name elsewhere is left. -/
theorem shop_accounted :
    (∃ lines w', (webAndDb.setState .down).run World.answer shop = (.ok (.ofLines lines), w') ∧
      (∃ report, Report.IsOf "deployments" "default/web" report ∧
        Line.about (.workload ⟨.deployment, "default", "web"⟩) lines =
          [⟨.workload ⟨.deployment, "default", "web"⟩, report⟩]) ∧
      (∃ reason, Line.about (.place "ops") lines =
        [⟨.place "ops", .failure "deployments" "ops/*" reason⟩]) ∧
      Line.about (.missing "db") lines = List.replicate 2 ⟨.missing "db",
        .failure "deployments" "db" "workload not found in any selected namespace"⟩ ∧
      w'.workloads.entries.head? = some (⟨.deployment, "batch", "web", 1, []⟩, [])) ∧
    ∃ lines w', (tills.setState .down).run World.answer shop = (.ok (.ofLines lines), w') ∧
      (∃ report, Report.IsOf "instances" "b/till" report ∧
        Line.about (.machine "b" "till") lines = [⟨.machine "b" "till", report⟩]) ∧
      (∃ reason, Line.about (.place "c") lines =
        [⟨.place "c", .failure "instances" "c/*" reason⟩]) ∧
      w'.instances.entries.head? = some ("a", ⟨"till", "", .running, []⟩) := by
  obtain ⟨hworkloads, hinstances⟩ :=
    pass_accounts (w := shop) (by decide) (by decide : Target.down ≠ .noAction)
  constructor
  · obtain ⟨-, -, lines, w', hrun, haccounts, hconfines, -⟩ := hworkloads webAndDb (by decide)
    refine ⟨lines, w', hrun, ?_, ?_, ?_, ?_⟩
    · exact haccounts.reached (⟨.deployment, "default", "web", 3, []⟩, []) (by decide)
        ⟨⟨rfl, List.mem_cons_self, rfl, rfl⟩, rfl⟩
    · exact haccounts.refused "ops" (by decide) rfl
    · exact haccounts.missed "db" fun e he _ => (by decide : ∀ e ∈ shop.workloads.entries,
        e.1.name ≠ "db") e he
    · have hchanges := hconfines.changes
      generalize w'.workloads.entries = entries at hchanges ⊢
      obtain _ | ⟨⟨-, hleft⟩, _⟩ := hchanges
      rw [hleft fun hreached => absurd hreached.1.2.1 (by decide)]
      rfl
  · obtain ⟨lines, w', hrun, haccounts, hconfines, -⟩ :=
      hinstances tills (by decide) (by decide) (by decide)
    refine ⟨lines, w', hrun, ?_, ?_, ?_⟩
    · exact haccounts.reached ("b", ⟨"till", "", .running, []⟩) (by decide)
        ⟨⟨List.mem_cons_self, rfl, rfl⟩, rfl⟩
    · exact haccounts.refused "c" (by decide) rfl
    · have hchanges := hconfines.changes
      generalize w'.instances.entries = entries at hchanges ⊢
      obtain _ | ⟨⟨-, hleft⟩, _⟩ := hchanges
      rw [hleft fun hreached => absurd hreached.1.1 (by decide)]
      rfl

end PeriodScaler
