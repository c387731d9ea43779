import PeriodScaler.Memory.World
import PeriodScaler.Proofs.Scaling.Legs
import Mathlib.Data.List.Nodup

/-!
# Sweeps over a table in memory

A sweep that asks a table in memory does to it what its legs do, and writes their lines. What a
provider has to do with it is in `Backing`: which places refuse to be listed, what an entry is when
it is listed, and what becomes of it. An entry is told from the others by its source, so it is the
same entry when its turn comes as when it was listed, whatever became of the others in between.

* **`run_overItems`**, **`run_overPlace`**, **`run_overAll`**: the items of a list, a place, all
  places.
* **`run_passLines`**: all kinds.
-/

namespace PeriodScaler

open Memory (World)

variable {ε β : Type}

/-- A table of a world, and what a sweep finds in it. -/
structure Backing (ε β : Type) where
  /-- The world with these entries, and with these calls in the log of the table. -/
  put : List ε → List String → World
  item : ε → β
  source : ε → Source
  /-- Why a place cannot be listed. -/
  refusal : String → Option Cause
  isAt : String → ε → Bool
  /-- What becomes of an entry that is converged. -/
  after : ε → ε
  report : ε → Report

/-- A sweep asks a table: it is answered with the entries at a place, and converges each of them. -/
structure Sweep.Asks (s : Sweep β) (b : Backing ε β) : Prop where
  list : ∀ place entries calls, (s.list place).run World.answer (b.put entries calls) =
    (match b.refusal place with
      | some e => .error e
      | none => .ok ((entries.filter (b.isAt place)).map b.item), b.put entries calls)
  converge : ∀ place entries calls e, (entries.map b.source).Nodup → e ∈ entries →
    b.isAt place e = true → ∃ log,
      (s.converge place (b.item e)).run World.answer (b.put entries calls) = (b.report e,
        b.put (entries.map fun x => if b.source x = b.source e then b.after x else x) log)
  source : ∀ place e, b.isAt place e = true → s.source place (b.item e) = b.source e
  source_after : ∀ e, b.source (b.after e) = b.source e

namespace Sweep

variable (s : Sweep β) (b : Backing ε β)

/-- What a sweep does at a place. -/
def leg (place : String) : Leg ε where
  refusal := (b.refusal place).map (s.refused place)
  touches e := (b.refusal place).isNone && (b.isAt place e && isNamed s.names (s.name (b.item e)))
  line e := ⟨b.source e, b.report e⟩
  name e := s.name (b.item e)
  after := b.after

/-- What a sweep does at some places. -/
def part (places : List String) : Part ε where
  legs := places.map (s.leg b)
  close := s.unseen

variable {s b}

theorem isOver_leg (h : s.Asks b) (place : String) : (s.leg b place).IsOver b.source where
  source_after := h.source_after
  source_line _ := rfl
  refusal_source := by
    intro line hline
    obtain ⟨e, -, rfl⟩ := Option.map_eq_some_iff.mp hline
    rfl

theorem isOver_part (h : s.Asks b) (places : List String) : (s.part b places).IsOver b.source where
  legs := List.forall_mem_map.mpr fun place _ => isOver_leg h place
  close _ := List.forall_mem_map.mpr fun _ _ => rfl

/-- To bring one entry, and then some others, is to bring all of them. -/
theorem map_bring_cons {after : ε → ε} {source : ε → Source}
    (hafter : ∀ e, source (after e) = source e) (e : ε) {rest : List ε}
    (hfresh : source e ∉ rest.map source) (entries : List ε) :
    (entries.map fun x => if source x = source e then after x else x).map
        (fun x => if source x ∈ rest.map source then after x else x) =
      entries.map fun x => if source x ∈ (e :: rest).map source then after x else x := by
  rw [List.map_map]
  refine List.map_congr_left fun x _ => ?_
  simp only [Function.comp_apply, List.map_cons, List.mem_cons]
  by_cases hx : source x = source e
  · simp only [hafter, hx, hfresh, if_false, true_or, if_true]
  · simp only [hx, false_or, if_false]

/-- At a place that cannot be listed, nothing is touched. -/
theorem touches_of_refused {place : String} {e : Cause} (h : b.refusal place = some e) :
    (s.leg b place).touches = fun _ => false := by
  funext x
  rw [leg, h]
  rfl

/-- At any other place, what is there and selected is touched. -/
theorem touches_of_listed {place : String} (h : b.refusal place = none) (x : ε) :
    (s.leg b place).touches x = (b.isAt place x && isNamed s.names (s.name (b.item x))) := by
  rw [leg, h]
  rfl

theorem map_bring_of_untouched {leg : Leg ε} (h : ∀ x, leg.touches x = false) (entries : List ε) :
    entries.map leg.bring = entries := by
  refine (List.map_congr_left fun x _ => ?_).trans (List.map_id entries)
  rw [Leg.bring, h]
  rfl

/-- To bring the entries that are touched, told by their sources, is what a leg does. -/
theorem map_bring_of_chosen (leg : Leg ε) {source : ε → Source} {entries : List ε}
    (hentries : (entries.map source).Nodup) :
    (entries.map fun x =>
      if source x ∈ (entries.filter leg.touches).map source then leg.after x else x) =
        entries.map leg.bring := by
  refine List.map_congr_left fun x hx => ?_
  have hiff : source x ∈ (entries.filter leg.touches).map source ↔ leg.touches x = true := by
    rw [List.mem_map]
    constructor
    · rintro ⟨y, hy, heq⟩
      obtain ⟨hmem, htouched⟩ := List.mem_filter.mp hy
      rwa [List.inj_on_of_nodup_map hentries hmem hx heq] at htouched
    · exact fun htouched => ⟨x, List.mem_filter.mpr ⟨hx, htouched⟩, rfl⟩
  unfold Leg.bring
  simp only [hiff]

variable (h : s.Asks b)

include h

/-- **The items of a list**, in a table in which each of them is found when its turn comes. -/
theorem run_overItems (place : String) : ∀ (items entries : List ε) (calls : List String),
    (entries.map b.source).Nodup → (items.map b.source).Nodup → (∀ e ∈ items, e ∈ entries) →
      (∀ e ∈ items, b.isAt place e = true) → ∃ log,
        (s.overItems place (items.map b.item)).run World.answer (b.put entries calls) =
          (items.map (s.leg b place).line,
            b.put (entries.map fun x => if b.source x ∈ items.map b.source then b.after x else x)
              log)
  | [], entries, calls, _, _, _, _ => by
    refine ⟨calls, Prod.ext rfl ?_⟩
    simp only [List.map_nil, List.not_mem_nil, if_false]
    rw [List.map_id']
    rfl
  | e :: rest, entries, calls, hentries, hitems, hmem, hplace => by
    obtain ⟨he, hrest⟩ := List.forall_mem_cons.mp hmem
    obtain ⟨hat, hats⟩ := List.forall_mem_cons.mp hplace
    obtain ⟨hfresh, hdistinct⟩ := List.nodup_cons.mp hitems
    obtain ⟨log, hrun⟩ := h.converge place entries calls e hentries he hat
    have hsame : (entries.map fun x => if b.source x = b.source e then b.after x else x).map
        b.source = entries.map b.source := by
      rw [List.map_map]
      refine List.map_congr_left fun x _ => ?_
      simp only [Function.comp_apply]
      split
      · exact h.source_after x
      · rfl
    have hstill : ∀ x ∈ rest,
        x ∈ entries.map fun x => if b.source x = b.source e then b.after x else x := by
      intro x hx
      have hne : b.source x ≠ b.source e :=
        fun heq => hfresh (heq ▸ List.mem_map_of_mem (f := b.source) hx)
      exact List.mem_map.mpr ⟨x, hrest x hx, if_neg hne⟩
    obtain ⟨log', hrun'⟩ :=
      run_overItems place rest _ log (hsame.symm ▸ hentries) hdistinct hstill hats
    refine ⟨log', ?_⟩
    rw [List.map_cons, overItems, Program.bind_eq, Program.run_bind, hrun]
    simp only [Program.bind_eq, Program.run_bind, hrun', Program.pure_eq_done, Program.run_done,
      map_bring_cons h.source_after e hfresh, h.source place e hat, List.map_cons]
    rfl

/-- **A place.** -/
theorem run_overPlace (place : String) (entries : List ε) (calls : List String)
    (hentries : (entries.map b.source).Nodup) : ∃ log,
      (s.overPlace place).run World.answer (b.put entries calls) =
        (((s.leg b place).lines entries, (s.leg b place).seen entries),
          b.put (entries.map (s.leg b place).bring) log) := by
  have hlist := h.list place entries calls
  cases hrefusal : b.refusal place with
  | some e =>
    rw [hrefusal] at hlist
    have htouches := touches_of_refused (s := s) hrefusal
    refine ⟨calls, ?_⟩
    rw [overPlace, Program.run_bind, hlist, map_bring_of_untouched fun x => congrFun htouches x,
      Leg.lines, Leg.seen, htouches]
    simp only [onListed, Program.run_done, leg, hrefusal, Option.map_some, Option.toList_some,
      List.filter_false, List.map_nil, List.append_nil]
  | none =>
    rw [hrefusal] at hlist
    have htouches := touches_of_listed (s := s) hrefusal
    have hchosen : ((entries.filter (b.isAt place)).map b.item).filter
        (fun x => isNamed s.names (s.name x)) =
          (entries.filter (s.leg b place).touches).map b.item := by
      rw [List.filter_map, List.filter_filter]
      congr 2
      funext x
      rw [htouches, Function.comp_apply, Bool.and_comm]
    obtain ⟨log, hrun⟩ := run_overItems h place (entries.filter (s.leg b place).touches) entries
      calls hentries (hentries.sublist (List.filter_sublist.map b.source))
      (fun e he => (List.mem_filter.mp he).1) fun e he => by
        have htouched := (List.mem_filter.mp he).2
        rw [htouches, Bool.and_eq_true] at htouched
        exact htouched.1
    refine ⟨log, ?_⟩
    have hbring := map_bring_of_chosen (s.leg b place) hentries
    rw [overPlace, Program.run_bind, hlist, ← hbring]
    simp only [onListed, hchosen, Program.run_bind, hrun, Program.run_done, List.map_map]
    simp only [Leg.lines, Leg.seen, leg, hrefusal, Option.map_none, Option.toList_none,
      List.nil_append]
    rfl

theorem run_overPlaces : ∀ (places : List String) (entries : List ε) (calls : List String),
    (entries.map b.source).Nodup → ∃ log,
      (s.overPlaces places).run World.answer (b.put entries calls) =
        ((Leg.linesOver (places.map (s.leg b)) entries,
            Leg.seenOver (places.map (s.leg b)) entries),
          b.put (Leg.stepOver (places.map (s.leg b)) entries) log)
  | [], _, calls, _ => ⟨calls, rfl⟩
  | place :: rest, entries, calls, hentries => by
    obtain ⟨log, hplace⟩ := run_overPlace h place entries calls hentries
    have hsame := (isOver_leg h place).map_source_bring entries
    obtain ⟨log', hrest⟩ := run_overPlaces rest _ log (hsame.symm ▸ hentries)
    refine ⟨log', ?_⟩
    rw [overPlaces, Program.bind_eq, Program.run_bind, hplace]
    simp only [Program.bind_eq, Program.run_bind, hrest]
    rfl

/-- **All places**, and the names that were not seen. -/
theorem run_overAll (places : List String) (entries : List ε) (calls : List String)
    (hentries : (entries.map b.source).Nodup) : ∃ log,
      (s.overAll places).run World.answer (b.put entries calls) =
        ((s.part b places).lines entries,
          b.put (Leg.stepOver (s.part b places).legs entries) log) := by
  obtain ⟨log, hrun⟩ := run_overPlaces h places entries calls hentries
  refine ⟨log, ?_⟩
  rw [overAll, Program.bind_eq, Program.run_bind, hrun]
  rfl

end Sweep

/-- Two backings give and do the same as far as items with these sources go. -/
structure Backing.Agree (spared : Source → Bool) (b b' : Backing ε β) : Prop where
  item_eq : b'.item = b.item
  source_eq : b'.source = b.source
  isAt_eq : b'.isAt = b.isAt
  after : ∀ e, spared (b.source e) = true → b'.after e = b.after e
  report : ∀ e, spared (b.source e) = true → b'.report e = b.report e
  refusal : ∀ place e, spared (b.source e) = true → b.isAt place e = true →
    b.refusal place = none ∧ b'.refusal place = none

theorem Sweep.leg_agree {s : Sweep β} {b b' : Backing ε β} {spared : Source → Bool}
    (h : s.Asks b) (h' : s.Asks b') (hb : b.Agree spared b') (place : String) :
    Leg.Agree b.source spared (s.leg b place) (s.leg b' place) where
  left := isOver_leg h place
  right := hb.source_eq ▸ isOver_leg h' place
  touches e he := by
    simp only [leg, hb.item_eq, hb.isAt_eq]
    cases hat : b.isAt place e with
    | false => rw [Bool.false_and, Bool.and_false, Bool.and_false]
    | true =>
      obtain ⟨hrefusal, hrefusal'⟩ := hb.refusal place e he hat
      rw [hrefusal, hrefusal']
  line e he := by
    simp only [leg, hb.source_eq, hb.report e he]
  after e he := (hb.after e he).symm

theorem Sweep.part_agree {s : Sweep β} {b b' : Backing ε β} {spared : Source → Bool}
    (h : s.Asks b) (h' : s.Asks b') (hb : b.Agree spared b') (places : List String) :
    Part.Agree b.source spared (s.part b places) (s.part b' places) where
  left := isOver_part h places
  right := hb.source_eq ▸ isOver_part h' places
  legs := by
    refine List.forall₂_map_left_iff.mpr (List.forall₂_map_right_iff.mpr ?_)
    exact List.forall₂_same.mpr fun place _ => leg_agree h h' hb place

/-! ## Kinds -/

/-- A computation writes the lines of a part, and does to a table what the part does. -/
structure Part.Describes (put : List ε → List String → World) (source : ε → Source) (part : Part ε)
    (p : Work (List Line)) : Prop where
  isOver : part.IsOver source
  run : ∀ entries calls, (entries.map source).Nodup → ∃ log,
    p.run World.answer (put entries calls) =
      (part.lines entries, put (Leg.stepOver part.legs entries) log)

namespace Part

variable {put : List ε → List String → World} {source : ε → Source}

/-- A part that only writes some lines. -/
def only (lines : List Line) : Part ε :=
  ⟨[], fun _ => lines⟩

theorem describes_only {lines : List Line} (h : ∀ line ∈ lines, line.source.isItem = false) :
    (only lines : Part ε).Describes put source (.done lines) where
  isOver := ⟨fun _ hleg => absurd hleg List.not_mem_nil, fun _ => h⟩
  run _ calls _ := ⟨calls, rfl⟩

theorem agree_only {spared : Source → Bool} {lines : List Line}
    (h : ∀ line ∈ lines, line.source.isItem = false) :
    Part.Agree source spared (only lines : Part ε) (only lines) where
  left := ⟨fun _ hleg => absurd hleg List.not_mem_nil, fun _ => h⟩
  right := ⟨fun _ hleg => absurd hleg List.not_mem_nil, fun _ => h⟩
  legs := .nil

variable {access : Access} {s : Selection} {defaultNamespace : String} {target : Target}
  {part : String → Part ε}

/-- **All kinds**, one after the other. -/
theorem run_passLines (hpart : ∀ kind, (part kind).Describes put source
      (kindLines access s defaultNamespace target kind)) :
    ∀ (kinds : List String) (entries : List ε) (calls : List String),
      (entries.map source).Nodup → ∃ log,
        (passLines access s defaultNamespace target kinds).run World.answer (put entries calls) =
          (ledger (kinds.map part) entries, put (finish (kinds.map part) entries) log)
  | [], _, calls, _ => ⟨calls, rfl⟩
  | kind :: rest, entries, calls, hentries => by
    obtain ⟨log, hkind⟩ := (hpart kind).run entries calls hentries
    have hsame := Leg.map_source_stepOver (hpart kind).isOver.legs entries
    obtain ⟨log', hrest⟩ := run_passLines hpart rest _ log (hsame.symm ▸ hentries)
    refine ⟨log', ?_⟩
    rw [passLines, Program.bind_eq, Program.run_bind, hkind]
    simp only [Program.bind_eq, Program.run_bind, hrest]
    rfl

end Part

end PeriodScaler
