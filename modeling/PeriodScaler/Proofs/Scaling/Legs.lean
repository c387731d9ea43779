import PeriodScaler.Proofs.Scaling.Lines

/-!
# Passes over a table, without the calls

What a pass does to a table of items, and what lines it writes, told as functions of the table: a
place is a `Leg`, which touches some entries and writes a line for each of them, and a kind is a
`Part` of some legs, with lines at its end that depend on the names that were seen. Each leg starts
from the table that the one before left.

* **`ledger_agree`**: parts that do the same to some of the items write the same lines for these and
  leave them alike, whatever they do to the others.
* **`ledger_finish`**, **`finish_finish`**: when an item that was touched looks to every leg as it
  did before, a second pass writes the lines of the first and leaves the table as it is.
-/

namespace PeriodScaler

/-- What is done at one place. -/
structure Leg (ε : Type) where
  /-- The line for a place that cannot be listed. -/
  refusal : Option Line
  touches : ε → Bool
  line : ε → Line
  name : ε → String
  after : ε → ε

/-- What is done for one kind: at each of its places, and then with the names that were seen. -/
structure Part (ε : Type) where
  legs : List (Leg ε)
  close : List String → List Line

variable {ε : Type}

namespace Leg

/-- The lines that a leg writes. -/
def lines (leg : Leg ε) (entries : List ε) : List Line :=
  leg.refusal.toList ++ (entries.filter leg.touches).map leg.line

/-- The names that a leg sees. -/
def seen (leg : Leg ε) (entries : List ε) : List String :=
  (entries.filter leg.touches).map leg.name

/-- What a leg makes of an entry. -/
def bring (leg : Leg ε) (e : ε) : ε :=
  if leg.touches e then leg.after e else e

/-- The lines of some legs, one after the other. -/
def linesOver : List (Leg ε) → List ε → List Line
  | [], _ => []
  | leg :: rest, entries => leg.lines entries ++ linesOver rest (entries.map leg.bring)

/-- The names that some legs see. -/
def seenOver : List (Leg ε) → List ε → List String
  | [], _ => []
  | leg :: rest, entries => leg.seen entries ++ seenOver rest (entries.map leg.bring)

/-- The table after some legs. -/
def stepOver : List (Leg ε) → List ε → List ε
  | [], entries => entries
  | leg :: rest, entries => stepOver rest (entries.map leg.bring)

end Leg

namespace Part

/-- The lines of a kind. -/
def lines (part : Part ε) (entries : List ε) : List Line :=
  Leg.linesOver part.legs entries ++ part.close (Leg.seenOver part.legs entries)

/-- The lines of some kinds, a list for each. -/
def ledger : List (Part ε) → List ε → List (List Line)
  | [], _ => []
  | part :: rest, entries =>
    part.lines entries :: ledger rest (Leg.stepOver part.legs entries)

/-- The table after some kinds. -/
def finish : List (Part ε) → List ε → List ε
  | [], entries => entries
  | part :: rest, entries => finish rest (Leg.stepOver part.legs entries)

end Part

/-! ## Sources -/

/-- Whether a source is an item. -/
def Source.isItem : Source → Bool
  | workload _ => true
  | machine _ _ => true
  | _ => false

section Sources

variable (source : ε → Source)

/-- A leg over entries with these sources: what it does to an entry leaves it its source, and its
line for the entry has it. -/
structure Leg.IsOver (leg : Leg ε) : Prop where
  source_after : ∀ e, source (leg.after e) = source e
  source_line : ∀ e, (leg.line e).source = source e
  refusal_source : ∀ line ∈ leg.refusal, line.source.isItem = false

/-- A part over entries with these sources. -/
structure Part.IsOver (part : Part ε) : Prop where
  legs : ∀ leg ∈ part.legs, leg.IsOver source
  close : ∀ seen, ∀ line ∈ part.close seen, line.source.isItem = false

variable {source} {leg : Leg ε}

theorem Leg.IsOver.source_bring (h : leg.IsOver source) (e : ε) :
    source (leg.bring e) = source e := by
  unfold bring
  split
  · exact h.source_after e
  · rfl

theorem Leg.IsOver.map_source_bring (h : leg.IsOver source) (entries : List ε) :
    (entries.map leg.bring).map source = entries.map source := by
  rw [List.map_map]
  exact List.map_congr_left fun e _ => h.source_bring e

/-- Every entry keeps its source, and its place in the table. -/
theorem Leg.map_source_stepOver : ∀ {legs : List (Leg ε)}, (∀ leg ∈ legs, leg.IsOver source) →
    ∀ entries, (stepOver legs entries).map source = entries.map source
  | [], _, _ => rfl
  | leg :: rest, h, entries => by
    obtain ⟨hleg, hrest⟩ := List.forall_mem_cons.mp h
    rw [stepOver, map_source_stepOver hrest, hleg.map_source_bring]

end Sources

/-! ## What does not reach an item -/

section Agreement

variable (source : ε → Source) (spared : Source → Bool)

/-- Two legs do the same to the entries with these sources. -/
structure Leg.Agree (leg leg' : Leg ε) : Prop where
  left : leg.IsOver source
  right : leg'.IsOver source
  touches : ∀ e, spared (source e) = true → leg.touches e = leg'.touches e
  line : ∀ e, spared (source e) = true → leg.line e = leg'.line e
  after : ∀ e, spared (source e) = true → leg.after e = leg'.after e

/-- Two parts do the same to the entries with these sources. -/
structure Part.Agree (part part' : Part ε) : Prop where
  left : part.IsOver source
  right : part'.IsOver source
  legs : List.Forall₂ (Leg.Agree source spared) part.legs part'.legs

/-- The entries with these sources. -/
def sparedOf (entries : List ε) : List ε :=
  entries.filter fun e => spared (source e)

/-- The lines with these sources. -/
def Line.sparedOf (lines : List Line) : List Line :=
  lines.filter fun line => spared line.source

variable {source spared}

theorem sparedOf_bring {leg : Leg ε} (h : leg.IsOver source) (entries : List ε) :
    sparedOf source spared (entries.map leg.bring) =
      (sparedOf source spared entries).map leg.bring := by
  unfold sparedOf
  rw [List.filter_map]
  congr 2
  funext e
  simp only [Function.comp_apply, h.source_bring]

theorem Leg.Agree.bring {leg leg' : Leg ε} (h : leg.Agree source spared leg')
    {entries entries' : List ε}
    (heq : sparedOf source spared entries = sparedOf source spared entries') :
    sparedOf source spared (entries.map leg.bring) =
      sparedOf source spared (entries'.map leg'.bring) := by
  rw [sparedOf_bring h.left, sparedOf_bring h.right, ← heq]
  refine List.map_congr_left fun e he => ?_
  have hspared := (List.mem_filter.mp he).2
  unfold Leg.bring
  rw [h.touches e hspared, h.after e hspared]

variable (hitems : ∀ x, spared x = true → x.isItem = true)

include hitems

theorem Line.sparedOf_eq_nil {lines : List Line} (h : ∀ line ∈ lines, line.source.isItem = false) :
    Line.sparedOf spared lines = [] := by
  refine List.filter_eq_nil_iff.mpr fun line hline hspared => ?_
  cases (h line hline).symm.trans (hitems line.source hspared)

/-- The lines of a leg for these sources are those for the entries with them. -/
theorem Leg.IsOver.sparedOf_lines {leg : Leg ε} (h : leg.IsOver source) (entries : List ε) :
    Line.sparedOf spared (leg.lines entries) =
      ((sparedOf source spared entries).filter leg.touches).map leg.line := by
  have hrefusal : Line.sparedOf spared leg.refusal.toList = [] := by
    refine Line.sparedOf_eq_nil hitems fun line hline => ?_
    exact h.refusal_source line (Option.mem_toList.mp hline)
  unfold lines
  unfold Line.sparedOf at hrefusal ⊢
  rw [List.filter_append, hrefusal, List.nil_append, List.filter_map, PeriodScaler.sparedOf,
    List.filter_filter, List.filter_filter]
  congr 2
  funext e
  rw [Function.comp_apply, h.source_line, Bool.and_comm]

theorem Leg.Agree.lines {leg leg' : Leg ε} (h : leg.Agree source spared leg')
    {entries entries' : List ε}
    (heq : sparedOf source spared entries = sparedOf source spared entries') :
    Line.sparedOf spared (leg.lines entries) = Line.sparedOf spared (leg'.lines entries') := by
  rw [h.left.sparedOf_lines hitems, h.right.sparedOf_lines hitems, ← heq]
  have hspared : ∀ e ∈ sparedOf source spared entries, spared (source e) = true :=
    fun e he => (List.mem_filter.mp he).2
  have hfilter : (sparedOf source spared entries).filter leg'.touches =
      (sparedOf source spared entries).filter leg.touches :=
    List.filter_congr fun e he => (h.touches e (hspared e he)).symm
  rw [hfilter]
  exact List.map_congr_left fun e he => h.line e (hspared e (List.mem_filter.mp he).1)

/-- Legs that agree, one after the other. -/
theorem Leg.over_agree {legs legs' : List (Leg ε)}
    (h : List.Forall₂ (Leg.Agree source spared) legs legs') {entries entries' : List ε}
    (heq : sparedOf source spared entries = sparedOf source spared entries') :
    Line.sparedOf spared (linesOver legs entries) =
        Line.sparedOf spared (linesOver legs' entries') ∧
      sparedOf source spared (stepOver legs entries) =
        sparedOf source spared (stepOver legs' entries') := by
  induction h generalizing entries entries' with
  | nil => exact ⟨rfl, heq⟩
  | cons hleg hrest ih =>
    obtain ⟨hlines, hstep⟩ := ih (hleg.bring heq)
    have hfirst := hleg.lines hitems heq
    refine ⟨?_, hstep⟩
    unfold Line.sparedOf at hfirst hlines ⊢
    rw [linesOver, linesOver, List.filter_append, List.filter_append, hfirst, hlines]

/-- **Parts that do the same to some items** write the same lines for these, kind by kind, and leave
them alike. -/
theorem Part.ledger_agree {parts parts' : List (Part ε)}
    (h : List.Forall₂ (Part.Agree source spared) parts parts') {entries entries' : List ε}
    (heq : sparedOf source spared entries = sparedOf source spared entries') :
    (ledger parts entries).map (Line.sparedOf spared) =
        (ledger parts' entries').map (Line.sparedOf spared) ∧
      sparedOf source spared (finish parts entries) =
        sparedOf source spared (finish parts' entries') := by
  induction h generalizing entries entries' with
  | nil => exact ⟨rfl, heq⟩
  | @cons part part' _ _ hpart hrest ih =>
    obtain ⟨hlines, hstep⟩ := Leg.over_agree hitems hpart.legs heq
    obtain ⟨hothers, hfinish⟩ := ih hstep
    refine ⟨?_, hfinish⟩
    have hclose := fun seen => Line.sparedOf_eq_nil hitems (hpart.left.close seen)
    have hclose' := fun seen => Line.sparedOf_eq_nil hitems (hpart.right.close seen)
    have hmine : Line.sparedOf spared (part.lines entries) =
        Line.sparedOf spared (part'.lines entries') := by
      unfold Line.sparedOf at hlines hclose hclose' ⊢
      rw [Part.lines, Part.lines, List.filter_append, List.filter_append, hclose, hclose',
        List.append_nil, List.append_nil, hlines]
    rw [ledger, ledger, List.map_cons, List.map_cons, hmine, hothers]

end Agreement

/-! ## A second pass -/

section Settling

variable (after : ε → ε) (sound : ε → Prop)

/-- To bring an entry where it is to be, once more, changes nothing. -/
structure Settles : Prop where
  again : ∀ e, sound e → after (after e) = after e
  sound_after : ∀ e, sound e → sound (after e)

/-- A leg that does so, and to which an entry looks afterwards as it did before. -/
structure Leg.IsSteady (leg : Leg ε) : Prop where
  after_eq : leg.after = after
  touches : ∀ e, leg.touches (after e) = leg.touches e
  name : ∀ e, leg.name (after e) = leg.name e
  line : ∀ e, sound e → leg.line (after e) = leg.line e

/-- The entries of a table, some of them brought where they are to be. -/
def settle (touched : ε → Bool) (entries : List ε) : List ε :=
  entries.map fun e => if touched e then after e else e

variable {after sound} {entries : List ε}

theorem Settles.sound_settle (h : Settles after sound) (hsound : ∀ e ∈ entries, sound e)
    (touched : ε → Bool) : ∀ e ∈ settle after touched entries, sound e := by
  refine List.forall_mem_map.mpr fun e he => ?_
  split
  · exact h.sound_after e (hsound e he)
  · exact hsound e he

/-- A table in which some entries are where they are to be gives a leg the lines and names that it
gave before. -/
theorem Leg.IsSteady.settle {leg : Leg ε} (h : leg.IsSteady after sound)
    (hsound : ∀ e ∈ entries, sound e) (touched : ε → Bool) :
    leg.lines (settle after touched entries) = leg.lines entries ∧
      leg.seen (settle after touched entries) = leg.seen entries := by
  have hfilter : (PeriodScaler.settle after touched entries).filter leg.touches =
      PeriodScaler.settle after touched (entries.filter leg.touches) := by
    unfold PeriodScaler.settle
    rw [List.filter_map]
    congr 2
    funext e
    simp only [Function.comp_apply]
    split
    · exact h.touches e
    · rfl
  unfold lines seen
  rw [hfilter]
  unfold PeriodScaler.settle
  rw [List.map_map, List.map_map]
  constructor
  · congr 1
    refine List.map_congr_left fun e he => ?_
    simp only [Function.comp_apply]
    split
    · exact h.line e (hsound e (List.mem_filter.mp he).1)
    · rfl
  · refine List.map_congr_left fun e _ => ?_
    simp only [Function.comp_apply]
    split
    · exact h.name e
    · rfl

theorem Leg.IsSteady.map_bring {leg : Leg ε} (h : leg.IsSteady after sound) (entries : List ε) :
    entries.map leg.bring = PeriodScaler.settle after leg.touches entries := by
  rw [← h.after_eq]
  rfl

/-- To bring some entries where they are to be, and then some others, is to bring all of them. -/
theorem Settles.settle_settle (h : Settles after sound) (hsound : ∀ e ∈ entries, sound e)
    (first : ε → Bool) {second : ε → Bool} (hsecond : ∀ e, second (after e) = second e) :
    settle after second (settle after first entries) =
      settle after (fun e => first e || second e) entries := by
  unfold settle
  rw [List.map_map]
  refine List.map_congr_left fun e he => ?_
  simp only [Function.comp_apply]
  by_cases hfirst : first e = true
  · simp only [hfirst, if_true, hsecond, Bool.true_or, h.again e (hsound e he), ite_self]
  · simp only [hfirst, Bool.false_eq_true, if_false, Bool.false_or]

/-- Whether one of some legs touches an entry. -/
def Leg.anyTouches (legs : List (Leg ε)) (e : ε) : Bool :=
  legs.any fun leg => leg.touches e

/-- Entries that look alike to each of some legs are touched alike. -/
theorem Leg.anyTouches_congr {legs : List (Leg ε)} {e e' : ε}
    (h : ∀ leg ∈ legs, leg.touches e' = leg.touches e) :
    anyTouches legs e' = anyTouches legs e := by
  unfold anyTouches
  induction legs with
  | nil => rfl
  | cons leg rest ih =>
    obtain ⟨hleg, hrest⟩ := List.forall_mem_cons.mp h
    rw [List.any_cons, List.any_cons, ih hrest, hleg]

/-- Steady legs find what they would find at first, and bring what one of them touches. By induction
on the legs: the first one leaves a table that looks the same to the others. -/
theorem Leg.over_eq (h : Settles after sound) : ∀ {legs : List (Leg ε)} {entries : List ε},
    (∀ leg ∈ legs, leg.IsSteady after sound) → (∀ e ∈ entries, sound e) →
      linesOver legs entries = legs.flatMap (fun leg => leg.lines entries) ∧
      seenOver legs entries = legs.flatMap (fun leg => leg.seen entries) ∧
      stepOver legs entries = settle after (anyTouches legs) entries
  | [], entries, _, _ => by
    refine ⟨rfl, rfl, ?_⟩
    exact (List.map_id entries).symm
  | leg :: rest, entries, hlegs, hsound => by
    obtain ⟨hleg, hrest⟩ := List.forall_mem_cons.mp hlegs
    obtain ⟨hlines, hseen, hstep⟩ := over_eq h hrest (h.sound_settle hsound leg.touches)
    have hsame : ∀ other ∈ rest,
        other.lines (PeriodScaler.settle after leg.touches entries) = other.lines entries ∧
          other.seen (PeriodScaler.settle after leg.touches entries) = other.seen entries :=
      fun other hother => (hrest other hother).settle hsound leg.touches
    rw [linesOver, seenOver, stepOver, hleg.map_bring, hlines, hseen, hstep, List.flatMap_cons,
      List.flatMap_cons, h.settle_settle hsound _ fun e =>
        anyTouches_congr fun other hother => (hrest other hother).touches e]
    refine ⟨?_, ?_, rfl⟩
    · rw [List.flatMap_congr fun other hother => (hsame other hother).1]
    · rw [List.flatMap_congr fun other hother => (hsame other hother).2]

namespace Part

/-- The lines of a kind whose legs all start from the same table. -/
def linesAt (part : Part ε) (entries : List ε) : List Line :=
  part.legs.flatMap (fun leg => leg.lines entries) ++
    part.close (part.legs.flatMap fun leg => leg.seen entries)

variable {parts : List (Part ε)}

/-- An entry that was brought where it is to be is touched by the legs that touched it before. -/
theorem anyTouches_after (hparts : ∀ part ∈ parts, ∀ leg ∈ part.legs, leg.IsSteady after sound)
    (e : ε) : Leg.anyTouches (parts.flatMap Part.legs) (after e) =
      Leg.anyTouches (parts.flatMap Part.legs) e := by
  refine Leg.anyTouches_congr fun leg hleg => ?_
  obtain ⟨part, hpart, hleg⟩ := List.mem_flatMap.mp hleg
  exact (hparts part hpart leg hleg).touches e

theorem linesAt_settle {part : Part ε} (hlegs : ∀ leg ∈ part.legs, leg.IsSteady after sound)
    (hsound : ∀ e ∈ entries, sound e) (touched : ε → Bool) :
    part.linesAt (settle after touched entries) = part.linesAt entries := by
  unfold linesAt
  rw [List.flatMap_congr fun leg hleg => ((hlegs leg hleg).settle hsound touched).1,
    List.flatMap_congr fun leg hleg => ((hlegs leg hleg).settle hsound touched).2]

/-- Steady kinds find what they would find at first. -/
theorem ledger_eq (h : Settles after sound) :
    ∀ {parts : List (Part ε)} {entries : List ε},
      (∀ part ∈ parts, ∀ leg ∈ part.legs, leg.IsSteady after sound) → (∀ e ∈ entries, sound e) →
        ledger parts entries = parts.map (fun part => part.linesAt entries) ∧
        finish parts entries =
          settle after (Leg.anyTouches (parts.flatMap Part.legs)) entries
  | [], entries, _, _ => ⟨rfl, (List.map_id entries).symm⟩
  | part :: rest, entries, hparts, hsound => by
    obtain ⟨hpart, hrest⟩ := List.forall_mem_cons.mp hparts
    obtain ⟨hlines, hseen, hstep⟩ := Leg.over_eq h hpart hsound
    obtain ⟨hledger, hfinish⟩ :=
      ledger_eq h hrest (h.sound_settle hsound (Leg.anyTouches part.legs))
    rw [ledger, finish, hstep, hledger, hfinish,
      h.settle_settle hsound _ (anyTouches_after hrest), lines, hlines, hseen]
    refine ⟨congrArg₂ List.cons rfl ?_, ?_⟩
    · exact List.map_congr_left fun other hother => linesAt_settle (hrest other hother) hsound _
    · congr 1
      funext e
      rw [Leg.anyTouches, Leg.anyTouches, Leg.anyTouches, List.flatMap_cons, List.any_append]

variable (h : Settles after sound)
  (hparts : ∀ part ∈ parts, ∀ leg ∈ part.legs, leg.IsSteady after sound)
  (hsound : ∀ e ∈ entries, sound e)

include h hparts hsound

theorem sound_finish : ∀ e ∈ finish parts entries, sound e := by
  rw [(ledger_eq h hparts hsound).2]
  exact h.sound_settle hsound _

/-- **A second pass writes the lines of the first.** -/
theorem ledger_finish : ledger parts (finish parts entries) = ledger parts entries := by
  obtain ⟨hledger, hfinish⟩ := ledger_eq h hparts hsound
  rw [(ledger_eq h hparts (sound_finish h hparts hsound)).1, hledger, hfinish]
  exact List.map_congr_left fun part hpart => linesAt_settle (hparts part hpart) hsound _

/-- **A second pass leaves the table as it is.** -/
theorem finish_finish : finish parts (finish parts entries) = finish parts entries := by
  rw [(ledger_eq h hparts (sound_finish h hparts hsound)).2, (ledger_eq h hparts hsound).2,
    h.settle_settle hsound _ (anyTouches_after hparts)]
  congr 1
  funext e
  rw [Bool.or_self]

end Part

end Settling

end PeriodScaler
