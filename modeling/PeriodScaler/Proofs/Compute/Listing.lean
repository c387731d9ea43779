import Mathlib.Data.List.Forall2
import PeriodScaler.Proofs.Compute.Exchanges

/-!
# Listings of instances

A listing reads page after page. A page that names the next one leads on; the listing ends with the
first answer that does not, because it is the last page, because it tells of a failure, or because
it cannot be read. The program bounds the pages that it reads; under a bound that is not reached,
the listing is told for any answers whatsoever:

* **`run_pages`**: what the pages from any one on come to.
* **`listing_follows_pages`**: each page that leads on is asked for once, under the token of the
  page before it, and so is the answer that ends the listing; the result is all instances in the
  order of the pages, or an error.
-/

namespace PeriodScaler

open Http

/-- Answers requests with the given answers in their order, and not at all when these are used
up. -/
def Http.replay : Handler network (List (Option Response))
  | .send _, answers => (answers.head?.join, answers.tail)
  | .clock, answers => ((default : Instant), answers)

/-- A page leads on to the one that its token names, and an empty token names none. -/
theorem InstancePage.following_eq_some_iff {p : InstancePage} {token : String} :
    p.following = some token ↔ p.next = some token ∧ token ≠ "" := by
  rw [following, Option.filter_eq_some_iff, decide_eq_true_eq]

theorem InstancePage.following_eq_none_iff {p : InstancePage} :
    p.following = none ↔ p.next = none ∨ p.next = some "" := by
  cases hnext : p.next with
  | none => simp [following, hnext]
  | some token => simp [following, hnext]

namespace ComputeClient

/-- The page in an answer. -/
def page? : Option Response → Option InstancePage :=
  held? InstancePage.ofJson?

/-- The pages that lead on to another one, up to the first answer that does not: it holds no page,
or one without a token for the next page, or with an empty one. -/
def leading : List (Option Response) → List InstancePage
  | [] => []
  | answer :: rest =>
    match page? answer with
    | none => []
    | some p => if p.next = none ∨ p.next = some "" then [] else p :: leading rest

/-- The answer that ends a listing: none when the answers are used up. -/
def deciding (answers : List (Option Response)) : Option Response :=
  (answers.drop (leading answers).length).head?.join

variable {answer : Option Response} {answers : List (Option Response)} {p : InstancePage}

theorem leading_of_follows {next : String} (hp : page? answer = some p)
    (hnext : p.following = some next) (rest : List (Option Response)) :
    leading (answer :: rest) = p :: leading rest := by
  rw [leading, hp]
  refine if_neg (InstancePage.following_eq_none_iff.not.mp ?_)
  rw [hnext]
  nofun

theorem leading_of_ends (hends : ∀ p, page? answer = some p → p.following = none)
    (rest : List (Option Response)) : leading (answer :: rest) = [] := by
  rw [leading]
  split
  · rfl
  · exact if_pos (InstancePage.following_eq_none_iff.mp (hends _ ‹_›))

theorem deciding_of_follows {next : String} (hp : page? answer = some p)
    (hnext : p.following = some next) (rest : List (Option Response)) :
    deciding (answer :: rest) = deciding rest := by
  unfold deciding
  rw [leading_of_follows hp hnext, List.length_cons, List.drop_succ_cons]

theorem deciding_of_ends (hnone : leading answers = []) :
    deciding answers = answers.head?.join := by
  unfold deciding
  rw [hnone]
  rfl

/-- A page leads on, or the listing ends with the next answer. -/
theorem leading_cases (answers : List (Option Response)) :
    (∃ answer rest p next, answers = answer :: rest ∧ page? answer = some p ∧
      p.following = some next) ∨
    (leading answers = [] ∧ ∀ p, page? answers.head?.join = some p → p.following = none) := by
  cases answers with
  | nil => exact .inr ⟨rfl, nofun⟩
  | cons answer rest =>
    cases hp : page? answer with
    | none =>
      have hends : ∀ p, page? answer = some p → p.following = none := by simp [hp]
      exact .inr ⟨leading_of_ends hends rest, hends⟩
    | some p =>
      cases hnext : p.following with
      | none =>
        have hends : ∀ q, page? answer = some q → q.following = none := by simp [hp, hnext]
        exact .inr ⟨leading_of_ends hends rest, hends⟩
      | some next => exact .inl ⟨answer, rest, p, next, rfl, hp, hnext⟩

/-! ## The pages from one on -/

section Pages

variable {project zone token : String} {target : Url} {filter : Option String}

/-- The request for a page. -/
def pageRequest (target : Url) (token : String) (filter page : Option String) : Request :=
  request .get (target.withQuery (pageQuery filter page)) token

/-- What the answer to the request for a page means. -/
def pageOf (project zone : String) : Option Response → ComputeResult InstancePage :=
  understand ("zone " ++ (project ++ "/" ++ zone) ++ " not found")
    ("Failed to list instances in " ++ (project ++ "/" ++ zone)) InstancePage.ofJson?

theorem pageOf_eq_ok_iff : pageOf project zone answer = .ok p ↔ page? answer = some p :=
  understand_eq_ok_iff

theorem pages_succ (limit : Nat) (page : Option String) :
    pages project zone token target filter (limit + 1) page =
      (send (pageRequest target token filter page)).bind fun answer =>
        match pageOf project zone answer with
        | .error e => .done (.error e)
        | .ok p =>
          match p.following with
          | none => .done (.ok p.items)
          | some next => (pages project zone token target filter limit (some next)).bind
              fun rest => .done (rest.map (p.items ++ ·)) := rfl

variable (project zone token target filter) in
/-- A listing that ends with the next answer. -/
theorem run_pages_ends (hends : ∀ p, page? answers.head?.join = some p → p.following = none)
    (limit : Nat) (page : Option String) :
    ((pages project zone token target filter (limit + 1) page).run replay answers).1 =
      (pageOf project zone answers.head?.join).map InstancePage.items ∧
    requests ((pages project zone token target filter (limit + 1) page).transcript replay
        answers) = [pageRequest target token filter page] := by
  rw [pages_succ, run_send_bind, transcript_send_bind]
  simp only [replay]
  cases hpage : pageOf project zone answers.head?.join with
  | error e => exact ⟨rfl, rfl⟩
  | ok p =>
    simp only [hends p (pageOf_eq_ok_iff.mp hpage)]
    exact ⟨rfl, rfl⟩

variable (project zone token target filter) in
/-- A listing whose next page leads on. -/
theorem run_pages_follows {next : String} (hp : page? answer = some p)
    (hnext : p.following = some next) (limit : Nat) (page : Option String)
    (rest : List (Option Response)) :
    ((pages project zone token target filter (limit + 1) page).run replay (answer :: rest)).1 =
      ((pages project zone token target filter limit (some next)).run replay rest).1.map
        (p.items ++ ·) ∧
    requests ((pages project zone token target filter (limit + 1) page).transcript replay
        (answer :: rest)) =
      pageRequest target token filter page ::
        requests ((pages project zone token target filter limit (some next)).transcript replay
          rest) := by
  rw [pages_succ, run_send_bind, transcript_send_bind]
  simp only [replay, List.head?_cons, Option.join_some, List.tail_cons,
    pageOf_eq_ok_iff.mpr hp, hnext]
  rw [Program.run_bind, Program.transcript_bind, Program.transcript_done, List.append_nil]
  exact ⟨rfl, rfl⟩

variable (project zone token target filter) in
/-- **The pages from one on**, asked for one after another: the instances of those that lead on, and
then what the deciding answer means. -/
theorem run_pages {limit : Nat} (hlimit : (leading answers).length < limit)
    (page : Option String) :
    ((pages project zone token target filter limit page).run replay answers).1 =
      ((pageOf project zone (deciding answers)).map fun last =>
        (leading answers ++ [last]).flatMap InstancePage.items) ∧
    requests ((pages project zone token target filter limit page).transcript replay answers) =
      (page :: (leading answers).map InstancePage.next).map
        (pageRequest target token filter) := by
  -- The induction is on the pages that may still be read; each answer that leads on takes one.
  induction limit generalizing answers page with
  | zero => exact absurd hlimit (Nat.not_lt_zero _)
  | succ limit ih =>
    obtain ⟨answer, rest, p, next, rfl, hp, hnext⟩ | ⟨hnone, hends⟩ := leading_cases answers
    · obtain ⟨hrun, hrequests⟩ := run_pages_follows project zone token target filter hp hnext
        limit page rest
      rw [leading_of_follows hp hnext] at hlimit ⊢
      obtain ⟨ihrun, ihrequests⟩ := ih (Nat.lt_of_succ_lt_succ hlimit) (some next)
      rw [hrun, hrequests, ihrun, ihrequests, deciding_of_follows hp hnext]
      constructor
      · cases pageOf project zone (deciding rest) <;> rfl
      · simp only [List.map_cons, (InstancePage.following_eq_some_iff.mp hnext).1]
    · obtain ⟨hrun, hrequests⟩ := run_pages_ends project zone token target filter hends limit page
      rw [hrun, hrequests, deciding_of_ends hnone, hnone]
      refine ⟨?_, rfl⟩
      cases pageOf project zone answers.head?.join with
      | error e => rfl
      | ok last => exact congrArg Except.ok (List.append_nil last.items).symm

end Pages

/-! ## A whole listing -/

/-- A request for a page: the one with a token, or the first one without. -/
structure AsksFor (target : Url) (token : String) (filter page : Option String) (r : Request) :
    Prop where
  /-- Instances are read at the address of those of the zone. -/
  place : r.method = .get ∧ r.target.origin = target.origin ∧ r.target.path = target.path
  /-- The access token goes with it. -/
  bearer : r.header? "authorization" = some ("Bearer " ++ token)
  /-- The filter and the page are asked for, each if there is one. -/
  query : r.target.query = target.query ++ (filter.toList.map fun f => ("filter", some f)) ++
    page.toList.map fun p => ("pageToken", some p)

theorem asksFor_pageRequest (target : Url) (token : String) (filter page : Option String) :
    AsksFor target token filter page (pageRequest target token filter page) where
  place := ⟨rfl, rfl, rfl⟩
  bearer := rfl
  query := by
    cases filter <;> cases page <;> simp [pageRequest, request, Url.withQuery, pageQuery]

/-- What a listing makes of some answers at the address of a zone. -/
structure Lists (target : Url) (token : String) (filter : Option String)
    (answers : List (Option Response)) (sent : List Request)
    (result : ComputeResult (List Instance)) : Prop where
  /-- The first page is asked for, and then each one that the page before it names. -/
  asks : List.Forall₂ (AsksFor target token filter)
    (none :: (leading answers).map InstancePage.next) sent
  /-- If the deciding answer is a page, it is the last one, and no instance is lost. -/
  whole : ∀ last, page? (deciding answers) = some last →
    result = .ok ((leading answers ++ [last]).flatMap InstancePage.items)
  /-- Otherwise there is no partial list. -/
  fails : page? (deciding answers) = none → ∃ e, result = .error e

section Listing

variable {base project zone token : String} {filter : Option String} {limit : Nat}

/-- **The pages** at an address are listed. -/
theorem lists_pages {target : Url} (hlimit : (leading answers).length < limit) :
    Lists target token filter answers
      (requests ((pages project zone token target filter limit none).transcript replay answers))
      ((pages project zone token target filter limit none).run replay answers).1 := by
  obtain ⟨hrun, hrequests⟩ := run_pages project zone token target filter hlimit none
  rw [hrun, hrequests]
  refine ⟨?_, fun last hlast => ?_, fun hnone => ?_⟩
  · exact List.forall₂_map_right_iff.mpr
      (List.forall₂_same.mpr fun page _ => asksFor_pageRequest target token filter page)
  · rw [pageOf_eq_ok_iff.mpr hlast]
    rfl
  · cases hpage : pageOf project zone (deciding answers) with
    | error e => exact ⟨e, rfl⟩
    | ok last => cases hnone.symm.trans (pageOf_eq_ok_iff.mp hpage)

/-- The address of the instances of a zone. -/
def zoneAddress (base project zone : String) : String :=
  base ++ "/projects/" ++ project ++ "/zones/" ++ zone ++ "/instances"

/-- A client with an access token in hand. It keeps no other one. -/
def handed (base token : String) : ComputeClient :=
  ⟨base, .accessToken token, none⟩

/-- With an access token in hand, a listing is that of the pages at its address; without an address
nothing is asked for. -/
theorem listInstances_handed (hproject : project ≠ "") (hzone : zone ≠ "") :
    (handed base token).listInstances limit project zone filter =
      match Url.ofText? (zoneAddress base project zone) with
      | none => .done (.error .http, handed base token)
      | some target => (pages project zone token target filter limit none).bind fun result =>
        .done (result, handed base token) := by
  unfold listInstances instancesAddress
  rw [if_neg (by simp [hproject, hzone])]
  rfl

/-- **A listing follows the pages.** With an access token in hand the client lists all pages up to
the answer that decides, whatever the answers are, and stays as it is. -/
theorem listing_follows_pages (hproject : project ≠ "") (hzone : zone ≠ "")
    (hlimit : (leading answers).length < limit) :
    (((handed base token).listInstances limit project zone filter).run replay answers).1.2 =
      handed base token ∧
    match Url.ofText? (zoneAddress base project zone) with
    | none =>
      requests (((handed base token).listInstances limit project zone filter).transcript replay
        answers) = [] ∧
      ∃ e, (((handed base token).listInstances limit project zone filter).run replay
        answers).1.1 = .error e
    | some target =>
      Lists target token filter answers
        (requests (((handed base token).listInstances limit project zone filter).transcript replay
          answers))
        (((handed base token).listInstances limit project zone filter).run replay answers).1.1 := by
  rw [listInstances_handed hproject hzone]
  cases Url.ofText? (zoneAddress base project zone) with
  | none => exact ⟨rfl, rfl, .http, rfl⟩
  | some target =>
    simp only [Program.run_bind, Program.run_done, Program.transcript_bind,
      Program.transcript_done, List.append_nil]
    exact ⟨trivial, lists_pages hlimit⟩

end Listing

/-- Three pages: the one in the middle is empty, and the last one names no next page although it has
a place for it. One more answer is not used. -/
def threePages : List (Option Response) :=
  let item (name state : String) :=
    "\x7b\"name\":\"" ++ name ++ "\",\"status\":\"" ++ state ++ "\"\x7d"
  let listed (items next : String) : Response :=
    ⟨200, "\x7b\"items\":[" ++ items ++ "],\"nextPageToken\":\"" ++ next ++ "\"\x7d"⟩
  [some (listed (item "one" "RUNNING") "2"), some (listed "" "3"),
    some (listed (item "two" "STOPPED") ""), none]

/-- An instance with only a name and a state. -/
def bareInstance (name : String) (status : InstanceStatus) : Instance :=
  ⟨name, "", status, []⟩

theorem three_pages_listed :
    Lists ⟨"http://[::1]", "/projects/shop/zones/west/instances", []⟩ "pass" (some "tier = web")
      threePages
      (requests (((handed "http://[::1]" "pass").listInstances 3 "shop" "west"
        (some "tier = web")).transcript replay threePages))
      (((handed "http://[::1]" "pass").listInstances 3 "shop" "west"
        (some "tier = web")).run replay threePages).1.1 ∧
    page? (deciding threePages) = some ⟨[bareInstance "two" .stopped], some ""⟩ ∧
    (leading threePages).flatMap InstancePage.items = [bareInstance "one" .running] := by
  have hlisted := @listing_follows_pages threePages "http://[::1]" "shop" "west" "pass"
    (some "tier = web") 3 (by decide) (by decide) (by decide +kernel)
  have haddress : Url.ofText? (zoneAddress "http://[::1]" "shop" "west") =
      some ⟨"http://[::1]", "/projects/shop/zones/west/instances", []⟩ := by decide +kernel
  rw [haddress] at hlisted
  exact ⟨hlisted.2, by decide +kernel, by decide +kernel⟩

end ComputeClient

end PeriodScaler
