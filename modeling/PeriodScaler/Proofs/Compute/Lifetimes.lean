import PeriodScaler.Proofs.Compute.Tokens

/-!
# Lifetimes that no date can tell

The answer to a request for a token holds its lifetime, any number of seconds that has 64 bits. The
time at which the token expires is told by adding it to the clock, and a minute is taken off that
time whenever the token is looked at again. Neither looks at what comes out, and the range of dates
is far shorter than 64 bits of seconds. So there are answers that are understood, and with which a
call ends with a fault: at once when the token cannot be kept (`Fetched.Keepable`), and in every
later call when it was kept and cannot be looked at (`Fetched.Checkable`).

What is kept here is the token that was kept last (`TokenCall.lastRecorded?`), not the one that was
fetched last: a token that cannot be kept leaves the one before it in its place.

* **`Credentials.faults_iff`**: when a call faults, in a session with any lifetimes.
* **`TokenAnswer.fitsAlways_iff`**: the lifetimes that can be told whatever the clock shows in the
  years 1970 to 9999.
* **`Credentials.token_calls_return_iff`**: both together, for the calls of a session.
* **`Credentials.exists_fault`**: every other lifetime makes some call fault.
-/

namespace PeriodScaler

open Http

/-! ## Seconds within the range of dates -/

namespace Instant

variable {t : Instant} {n : Int}

/-- The first second of the range of dates, counted from the epoch. -/
def firstSecond : Int :=
  Date.first.day * 86400

/-- The last second of the range of dates. -/
def lastSecond : Int :=
  Date.last.day * 86400 + 86399

/-- The first second of 1970, and the last one of 9999. -/
def firstCommon : Instant :=
  ⟨⟨⟨0⟩, .midnight⟩⟩

def lastCommon : Instant :=
  ⟨firstCommon.utc.addSeconds 253402300799⟩

/-- An instant of the years 1970 to 9999. -/
def IsCommon (t : Instant) : Prop :=
  Date.dayCount ⟨1970, 1, 1⟩ ≤ t.utc.date.day ∧ t.utc.date.day ≤ Date.dayCount ⟨9999, 12, 31⟩

instance (t : Instant) : Decidable t.IsCommon :=
  inferInstanceAs (Decidable (_ ∧ _))

theorem IsCommon.seconds (ht : t.IsCommon) :
    0 ≤ t.epochSeconds ∧ t.epochSeconds ≤ 253402300799 := by
  have hs := t.utc.clock.second_lt
  have hfirst : Date.dayCount ⟨1970, 1, 1⟩ = 0 := rfl
  have hlast : Date.dayCount ⟨9999, 12, 31⟩ = 2932896 := rfl
  unfold IsCommon at ht
  unfold epochSeconds
  omega

theorem epochSeconds_addSeconds (t : Instant) (n : Int) :
    (⟨t.utc.addSeconds n⟩ : Instant).epochSeconds = t.epochSeconds + n := by
  simp only [epochSeconds, DateTime.addSeconds, Date.addDays_day]
  omega

/-- **A shift stays within the range of dates** when its seconds do. -/
theorem inRange_addSeconds_iff : (t.utc.addSeconds n).inRange = true ↔
    firstSecond ≤ t.epochSeconds + n ∧ t.epochSeconds + n ≤ lastSecond := by
  have hs := (t.utc.addSeconds n).clock.second_lt
  have hsum := epochSeconds_addSeconds t n
  simp only [epochSeconds] at hsum
  rw [DateTime.inRange, Date.inRange_iff]
  unfold firstSecond lastSecond epochSeconds
  omega

end Instant

/-! ## Tokens that can be kept and looked at -/

namespace Fetched

variable {f : Fetched}

/-- The second in which a token expires, counted from the epoch. -/
def expirySecond (f : Fetched) : Int :=
  f.time.epochSeconds + f.answer.expiresIn

theorem expirySecond_mk (answer : TokenAnswer) (t : Instant) :
    expirySecond ⟨answer, t⟩ = t.epochSeconds + answer.expiresIn := rfl

instance (f : Fetched) : Decidable f.Keepable :=
  decidable_of_iff (_ ∧ _) ⟨fun h => ⟨h.1, h.2⟩, fun h => ⟨h.seconds, h.expiry⟩⟩

theorem ofAnswer_eq_error (hf : ¬ f.Keepable) :
    CachedToken.ofAnswer f.time f.answer = .error .date := by
  unfold CachedToken.ofAnswer
  split
  · rename_i hseconds
    have hexpiry : f.time.addSeconds f.answer.expiresIn = .error .date :=
      Instant.addSeconds_of_not_inRange fun hexpiry => hf ⟨hseconds, hexpiry⟩
    rw [hexpiry]
    rfl
  · rfl

theorem usable_cached_eq_error (hf : ¬ f.Checkable) (now : Instant) :
    f.cached.usable now = .error .date := by
  have hlast : f.cached.expires.addSeconds (-CachedToken.margin) = .error .date :=
    Instant.addSeconds_of_not_inRange hf
  unfold CachedToken.usable
  rw [hlast]
  rfl

/-- **A token can be kept** when it expires within the range of dates; the bound on its lifetime is
never the narrower one. -/
theorem keepable_iff (ht : f.time.IsCommon) : f.Keepable ↔
    Instant.firstSecond ≤ f.expirySecond ∧ f.expirySecond ≤ Instant.lastSecond := by
  have hexpiry := Instant.inRange_addSeconds_iff (t := f.time) (n := f.answer.expiresIn)
  constructor
  · exact fun hf => hexpiry.mp hf.expiry
  · intro hrange
    refine ⟨?_, hexpiry.mpr hrange⟩
    obtain ⟨hlo, hhi⟩ := ht.seconds
    have hfirst : Instant.firstSecond = -8334601228800 := rfl
    have hlast : Instant.lastSecond = 8210266876799 := rfl
    unfold expirySecond at hrange
    unfold CachedToken.longest
    omega

/-- A token that is kept can be looked at when it does not expire in the first minute of the range
of dates. -/
theorem checkable_iff : f.Checkable ↔
    Instant.firstSecond + 60 ≤ f.expirySecond ∧ f.expirySecond ≤ Instant.lastSecond + 60 := by
  unfold Checkable
  rw [show f.expiry = (⟨f.expiry⟩ : Instant).utc from rfl, Instant.inRange_addSeconds_iff,
    show (⟨f.expiry⟩ : Instant).epochSeconds = f.expirySecond from
      Instant.epochSeconds_addSeconds _ _]
  omega

/-- The token of an answer is kept and looked at without a fault. -/
theorem fits_iff (f : Fetched) :
    (∃ kept, CachedToken.ofAnswer f.time f.answer = .ok kept ∧
      ∀ now, ∃ lasts, kept.usable now = .ok lasts) ↔ f.Keepable ∧ f.Checkable := by
  constructor
  · rintro ⟨kept, hkept, husable⟩
    have hkeepable : f.Keepable := by
      by_contra hf
      cases hkept.symm.trans (ofAnswer_eq_error hf)
    obtain rfl := Except.ok.inj (hkept.symm.trans (ofAnswer_eq hkeepable))
    refine ⟨hkeepable, ?_⟩
    by_contra hf
    obtain ⟨lasts, hlasts⟩ := husable f.time
    cases hlasts.symm.trans (usable_cached_eq_error hf _)
  · rintro ⟨hkeepable, hcheckable⟩
    exact ⟨f.cached, ofAnswer_eq hkeepable, fun now => ⟨_, usable_cached hcheckable now⟩⟩

end Fetched

/-! ## Lifetimes that can always be told -/

namespace TokenAnswer

/-- A lifetime that can be told whatever the clock shows in the years 1970 to 9999. -/
def FitsAlways (answer : TokenAnswer) : Prop :=
  -8334601228740 ≤ answer.expiresIn ∧ answer.expiresIn ≤ 7956864576000

instance (answer : TokenAnswer) : Decidable answer.FitsAlways :=
  inferInstanceAs (Decidable (_ ∧ _))

variable {answer : TokenAnswer}

/-- **The lifetimes that can always be told.** -/
theorem fitsAlways_iff : answer.FitsAlways ↔ ∀ t : Instant, t.IsCommon →
    (⟨answer, t⟩ : Fetched).Keepable ∧ (⟨answer, t⟩ : Fetched).Checkable := by
  have hfirst : Instant.firstSecond = -8334601228800 := rfl
  have hlast : Instant.lastSecond = 8210266876799 := rfl
  constructor
  · intro hfits t ht
    obtain ⟨hlo, hhi⟩ := ht.seconds
    rw [Fetched.keepable_iff (f := ⟨answer, t⟩) ht, Fetched.checkable_iff, Fetched.expirySecond_mk]
    unfold FitsAlways at hfits
    omega
  · intro hfits
    -- Both bounds are met at the ends of these years.
    have hstart : Instant.firstCommon.IsCommon := by decide
    have hend : Instant.lastCommon.IsCommon := by decide
    have hcheckable := (hfits _ hstart).2
    have hkeepable := (hfits _ hend).1
    rw [Fetched.checkable_iff, Fetched.expirySecond_mk] at hcheckable
    rw [Fetched.keepable_iff (f := ⟨answer, Instant.lastCommon⟩) hend, Fetched.expirySecond_mk]
      at hkeepable
    have hstartSeconds : Instant.firstCommon.epochSeconds = 0 := rfl
    have hendSeconds : Instant.lastCommon.epochSeconds = 253402300799 := rfl
    unfold FitsAlways
    omega

end TokenAnswer

/-! ## Calls that fault -/

namespace TokenCall

variable {v : TokenCall} {past : List TokenCall} {f : Fetched}

/-- A call ends with a fault and gives no answer. -/
def Faults (v : TokenCall) : Prop :=
  ∃ f, v.result = .error (.fault f)

/-- The token that a call has fetched and could keep. -/
def recorded? (v : TokenCall) : Option Fetched :=
  v.fetched?.filter fun f => f.Keepable

/-- The token that was kept last. -/
def lastRecorded? (past : List TokenCall) : Option Fetched :=
  (past.filterMap recorded?).getLast?

theorem lastRecorded?_concat (past : List TokenCall) (v : TokenCall) :
    lastRecorded? (past ++ [v]) = v.recorded?.or (lastRecorded? past) :=
  getLast?_filterMap_concat recorded? past v

theorem recorded?_of_keepable (hf : v.fetched? = some f) (hkeepable : f.Keepable) :
    v.recorded? = some f := by
  unfold recorded?
  rw [hf, Option.filter_some, if_pos (decide_eq_true hkeepable)]

theorem recorded?_of_not_keepable (hf : v.fetched? = some f) (hkeepable : ¬ f.Keepable) :
    v.recorded? = none := by
  unfold recorded?
  rw [hf, Option.filter_some, if_neg (by simpa using hkeepable)]

theorem recorded?_of_fetched_none (hf : v.fetched? = none) : v.recorded? = none := by
  unfold recorded?
  rw [hf]
  rfl

/-- A token was fetched at a time that the clock has shown. -/
theorem time_mem_readings (hf : v.fetched? = some f) : f.time ∈ v.readings := by
  obtain ⟨answer, -, hf⟩ := Option.bind_eq_some_iff.mp hf
  obtain ⟨t, ht, hf⟩ := Option.bind_eq_some_iff.mp hf
  obtain rfl := Option.some.inj hf
  exact List.mem_of_getLast? ht

/-- The token that was kept last was fetched in some call, and it could be kept. -/
theorem exists_of_lastRecorded? (hf : lastRecorded? past = some f) :
    ∃ v ∈ past, v.fetched? = some f ∧ f.Keepable := by
  obtain ⟨v, hv, hrecorded⟩ := List.mem_filterMap.mp (List.mem_of_getLast? hf)
  obtain ⟨hfetched, hkeepable⟩ := Option.filter_eq_some_iff.mp hrecorded
  exact ⟨v, hv, hfetched, of_decide_eq_true hkeepable⟩

end TokenCall

open TokenCall

/-- No request is answered with a fault: it is an answer that is understood, or another error. -/
theorem TokenRequest.understand_ne_fault {failure : String} {answer : Option Response} {f : Fault} :
    understand failure answer ≠ .error (.fault f) := by
  cases answer with
  | none => exact nofun
  | some response =>
    unfold understand
    simp only
    split
    · split <;> exact nofun
    · exact nofun

namespace Credentials

variable {c : Credentials} {σ : Type} {h : Handler network σ} {kept kept' : Option CachedToken}
  {s : σ} {v : TokenCall} {latest : Option Fetched} {endpoint : Option Url}
  {l : List network.Exchange} {result : ComputeResult TokenAnswer} {past : List TokenCall}

/-- What a call comes to, whatever the lifetimes, when `latest` was kept last. -/
structure Records (latest : Option Fetched) (v : TokenCall) (kept' : Option CachedToken) :
    Prop where
  /-- The call faults when the token in reserve cannot be looked at, or the one that it has fetched
  cannot be kept. -/
  faults_iff : v.Faults ↔
    (∃ f, latest = some f ∧ ¬ f.Checkable) ∨ ∃ f, v.fetched? = some f ∧ ¬ f.Keepable
  /-- What is kept is the token that was fetched if it can be kept, or else the one in reserve. -/
  kept_eq : kept' = (v.recorded?.or latest).map Fetched.cached

/-- An exchange that fails does so without a fault. -/
theorem Fetches.ne_fault {p : Exchange (ComputeResult TokenAnswer)} (hp : Fetches c p)
    (h : Handler network σ) (s : σ) (f : Fault) : (p.run h s).1 ≠ .error (.fault f) := by
  have hasks : ∀ (asks : Url → Request) (failure : String) (endpoint : Option Url) (s : σ),
      ((askAt asks failure endpoint).run h s).1 ≠ .error (.fault f) := by
    intro asks failure endpoint s
    cases endpoint with
    | none => exact nofun
    | some target => exact TokenRequest.understand_ne_fault
  cases hp with
  | account account =>
    cases hsound : account.signingFault? with
    | some fault =>
      rw [exchange_of_fault hsound]
      exact nofun
    | none =>
      rw [exchange_of_sound hsound]
      exact hasks _ _ _ _
  | metadata =>
    rw [askMetadata_eq]
    exact hasks _ _ _ _

theorem run_keep_of_not_keepable (kept : Option CachedToken) {f : Fetched} (hf : ¬ f.Keepable)
    (htime : timeOf h s = f.time) :
    ((keep kept (.ok f.answer)).run h s).1 = (.error (.fault .date), kept) := by
  rw [keep_ok, run_clock_bind, htime, f.ofAnswer_eq_error hf]
  rfl

/-- **What an exchange comes to**, whatever the lifetime of its token: it faults when the token
cannot be kept, and then what is kept stays as it is. -/
theorem keep_cases (hl : AsksOnce endpoint l result) (hresult : ∀ f, result ≠ .error (.fault f))
    (kept : Option CachedToken) (h : Handler network σ) (s : σ) :
    let v : TokenCall :=
      ⟨l ++ (keep kept result).transcript h s, ((keep kept result).run h s).1.1⟩
    (v.Faults ↔ ∃ f, v.fetched? = some f ∧ ¬ f.Keepable) ∧
      ((keep kept result).run h s).1.2 = (v.recorded?.map Fetched.cached).or kept := by
  intro v
  cases result with
  | error e =>
    have hnone : v.fetched? = none := fetched?_keep_error hl kept h s _
    refine ⟨iff_of_false ?_ ?_, ?_⟩
    · rintro ⟨f, hf⟩
      exact hresult f (congrArg Except.error (Except.error.inj hf))
    · rintro ⟨f, hf, -⟩
      cases hnone.symm.trans hf
    · rw [recorded?_of_fetched_none hnone]
      rfl
  | ok answer =>
    have hsome : v.fetched? = some ⟨answer, timeOf h s⟩ := fetched?_keep_ok hl kept h s _
    by_cases hkeepable : (⟨answer, timeOf h s⟩ : Fetched).Keepable
    · have hrun := run_keep_ok kept hkeepable (h := h) (s := s) rfl
      refine ⟨iff_of_false ?_ ?_, ?_⟩
      · rintro ⟨f, hf⟩
        cases hf.symm.trans (congrArg Prod.fst hrun)
      · rintro ⟨f, hf, hnot⟩
        obtain rfl := Option.some.inj (hsome.symm.trans hf)
        exact hnot hkeepable
      · rw [recorded?_of_keepable hsome hkeepable]
        exact congrArg Prod.snd hrun
    · have hrun := run_keep_of_not_keepable kept hkeepable (h := h) (s := s) rfl
      refine ⟨iff_of_true ⟨.date, congrArg Prod.fst hrun⟩ ⟨_, hsome, hkeepable⟩, ?_⟩
      rw [recorded?_of_not_keepable hsome hkeepable]
      exact congrArg Prod.snd hrun

/-- A call that exchanges the credentials, whether or not it has looked at a token before. -/
theorem records_of_keep (latest : Option Fetched) (hl : AsksOnce endpoint l result)
    (hresult : ∀ f, result ≠ .error (.fault f)) (hlatest : ∀ f, latest = some f → f.Checkable)
    (h : Handler network σ) (s : σ) :
    Records latest
      ⟨l ++ (keep (latest.map Fetched.cached) result).transcript h s,
        ((keep (latest.map Fetched.cached) result).run h s).1.1⟩
      ((keep (latest.map Fetched.cached) result).run h s).1.2 := by
  obtain ⟨hfaults, hkept⟩ := keep_cases hl hresult (latest.map Fetched.cached) h s
  refine ⟨hfaults.trans (or_iff_right ?_).symm, ?_⟩
  · rintro ⟨f, hf, hnot⟩
    exact hnot (hlatest f hf)
  · rw [hkept, Option.map_or]

/-- A call that exchanges nothing and keeps what it has. -/
theorem records_of_quiet (latest : Option Fetched) (hquiet : requests v.exchanged = [])
    (hfaults : v.Faults ↔ ∃ f, latest = some f ∧ ¬ f.Checkable) :
    Records latest v (latest.map Fetched.cached) := by
  have hnone := fetched?_of_quiet hquiet
  refine ⟨hfaults.trans (or_iff_left ?_).symm, ?_⟩
  · rintro ⟨f, hf, -⟩
    cases hnone.symm.trans hf
  · rw [recorded?_of_fetched_none hnone, Option.none_or]

/-- A call with credentials that are exchanged. -/
theorem records_exchanged (hc : c.IsExchanged) (h : Handler network σ)
    (latest : Option Fetched) (s : σ) :
    Records latest (c.ask h (latest.map Fetched.cached) s)
      (c.keptAfter h (latest.map Fetched.cached) s) := by
  obtain ⟨p, hp⟩ := hc.exists_fetches
  unfold ask keptAfter
  cases latest with
  | none =>
    rw [Option.map_none, token_none, hp.renew_eq, Program.run_bind, Program.transcript_bind]
    exact records_of_keep none (hp.asksOnce h s) (hp.ne_fault h s) nofun h _
  | some f =>
    rw [Option.map_some, token_some, run_clock_bind, transcript_clock_bind]
    by_cases hf : f.Checkable
    · rw [f.usable_cached hf]
      by_cases hlasts : f.Outlasts (timeOf h s)
      · rw [decide_eq_true hlasts]
        refine records_of_quiet (some f) rfl (iff_of_false nofun ?_)
        rintro ⟨g, hg, hnot⟩
        obtain rfl := Option.some.inj hg
        exact hnot hf
      · rw [decide_eq_false hlasts]
        simp only
        rw [hp.renew_eq, Program.run_bind, Program.transcript_bind]
        refine records_of_keep (some f) ((hp.asksOnce h _).shown _) (hp.ne_fault h _) ?_ h _
        rintro g hg
        obtain rfl := Option.some.inj hg
        exact hf
    · rw [f.usable_cached_eq_error hf]
      exact records_of_quiet (some f) rfl (iff_of_true ⟨.date, rfl⟩ ⟨f, rfl, hf⟩)

/-- **How a call ends**, whatever the lifetimes, when what is kept is the token that was kept last.
For a token that was handed over none ever is. -/
theorem records_ask (hlatest : ¬ c.IsExchanged → latest = none) (h : Handler network σ) (s : σ) :
    Records latest (c.ask h (latest.map Fetched.cached) s)
      (c.keptAfter h (latest.map Fetched.cached) s) := by
  by_cases hc : c.IsExchanged
  · exact records_exchanged hc h latest s
  · obtain ⟨token, rfl⟩ := not_isExchanged_iff.mp hc
    obtain rfl := hlatest hc
    exact records_of_quiet none rfl (iff_of_false nofun nofun)

/-! ## Sessions with any lifetimes -/

theorem Session.lastRecorded?_eq_none (hs : Session c h past kept s) (hc : ¬ c.IsExchanged) :
    lastRecorded? past = none := by
  have hnone : past.filterMap recorded? = [] := List.filterMap_eq_nil_iff.mpr fun v hv =>
    recorded?_of_fetched_none ((hs.kept_eq_none hc).2 v hv)
  unfold lastRecorded?
  rw [hnone]
  rfl

/-- **What is kept** is the token that was kept last. -/
theorem Session.kept_eq_recorded (hs : Session c h past kept s) :
    kept = (lastRecorded? past).map Fetched.cached := by
  induction hs with
  | start s => rfl
  | wait s' before ih => exact ih
  | @call past kept s before ih =>
    rw [lastRecorded?_concat, ih]
    exact (records_ask before.lastRecorded?_eq_none h s).kept_eq

/-- **When a call faults**: the token that was kept last cannot be looked at, or the one that the
call has fetched cannot be kept. -/
theorem faults_iff (hs : Session c h past kept s) : (c.ask h kept s).Faults ↔
    (∃ f, lastRecorded? past = some f ∧ ¬ f.Checkable) ∨
      ∃ f, (c.ask h kept s).fetched? = some f ∧ ¬ f.Keepable := by
  have hnone : ¬ c.IsExchanged → lastRecorded? past = none := hs.lastRecorded?_eq_none
  obtain rfl := hs.kept_eq_recorded
  exact (records_ask hnone h s).faults_iff

/-- **When calls for a token return.** In a session whose clock shows nothing but instants of the
years 1970 to 9999, a call faults exactly when the token that was kept last expires in the first
minute of the range of dates, or the one that it has fetched expires outside of the range. Neither
can be the case when all lifetimes are such that they can always be told, and these are exactly the
lifetimes with which a token is kept and looked at without a fault whatever the clock shows. -/
theorem token_calls_return_iff (hs : Session c h past kept s)
    (htimes : ∀ v ∈ past ++ [c.ask h kept s], ∀ t ∈ v.readings, t.IsCommon) :
    ((c.ask h kept s).Faults ↔
      (∃ f, lastRecorded? past = some f ∧ f.expirySecond < Instant.firstSecond + 60) ∨
        ∃ f, (c.ask h kept s).fetched? = some f ∧
          (f.expirySecond < Instant.firstSecond ∨ Instant.lastSecond < f.expirySecond)) ∧
    ((∀ v ∈ past ++ [c.ask h kept s], ∀ f, v.fetched? = some f → f.answer.FitsAlways) →
      ¬ (c.ask h kept s).Faults) ∧
    ∀ answer : TokenAnswer, answer.FitsAlways ↔ ∀ t : Instant, t.IsCommon →
      ∃ fresh, CachedToken.ofAnswer t answer = .ok fresh ∧
        ∀ now, ∃ lasts, fresh.usable now = .ok lasts := by
  have hcall := faults_iff hs
  have htime : ∀ v ∈ past ++ [c.ask h kept s], ∀ f, v.fetched? = some f → f.time.IsCommon :=
    fun v hv f hf => htimes v hv f.time (time_mem_readings hf)
  refine ⟨hcall.trans (or_congr ?_ ?_), fun hfits => ?_, fun answer => ?_⟩
  · refine exists_congr fun f => and_congr_right fun hf => ?_
    obtain ⟨v, hv, hfetched, hkeepable⟩ := exists_of_lastRecorded? hf
    rw [Fetched.keepable_iff (htime v (List.mem_append_left _ hv) f hfetched)] at hkeepable
    rw [Fetched.checkable_iff]
    omega
  · refine exists_congr fun f => and_congr_right fun hf => ?_
    rw [Fetched.keepable_iff (htime _ (List.mem_append_right _ (List.mem_singleton.mpr rfl)) f hf)]
    omega
  · have hall : ∀ v ∈ past ++ [c.ask h kept s], ∀ f, v.fetched? = some f →
        f.Keepable ∧ f.Checkable :=
      fun v hv f hf => TokenAnswer.fitsAlways_iff.mp (hfits v hv f hf) f.time (htime v hv f hf)
    rw [hcall]
    rintro (⟨f, hf, hnot⟩ | ⟨f, hf, hnot⟩)
    · obtain ⟨v, hv, hfetched, -⟩ := exists_of_lastRecorded? hf
      exact hnot (hall v (List.mem_append_left _ hv) f hfetched).2
    · exact hnot (hall _ (List.mem_append_right _ (List.mem_singleton.mpr rfl)) f hf).1
  · rw [TokenAnswer.fitsAlways_iff]
    exact forall₂_congr fun t _ => (Fetched.fits_iff ⟨answer, t⟩).symm

/-! ### Answers that make a call fault -/

section Steady

variable {response : Response} {answer : TokenAnswer} {target : Url} {time : Instant}

/-- A token that cannot be kept makes the call fault that has fetched it. -/
theorem faults_of_not_keepable (htarget : c.endpoint? = some target)
    (hheld : held? TokenAnswer.ofJson? (some response) = some answer)
    (hnot : ¬ (⟨answer, time⟩ : Fetched).Keepable) :
    (c.ask steady none (response, time)).Faults :=
  (faults_iff (.start _)).mpr (.inr ⟨_, fetched?_of_endpoint htarget hheld, hnot⟩)

/-- A token that can be kept and not looked at makes the next call fault. -/
theorem faults_of_not_checkable (htarget : c.endpoint? = some target)
    (hheld : held? TokenAnswer.ofJson? (some response) = some answer)
    (hkeepable : (⟨answer, time⟩ : Fetched).Keepable)
    (hnot : ¬ (⟨answer, time⟩ : Fetched).Checkable) :
    (c.ask steady (c.keptAfter steady none (response, time)) (response, time)).Faults := by
  have hsession := ((Session.start (c := c) (h := steady) (response, time)).call).wait
    (response, time)
  have hlast : lastRecorded? ([] ++ [c.ask steady none (response, time)]) =
      some ⟨answer, time⟩ := by
    rw [lastRecorded?_concat,
      recorded?_of_keepable (fetched?_of_endpoint htarget hheld) hkeepable]
    rfl
  exact (faults_iff hsession).mpr (.inl ⟨_, hlast, hnot⟩)

/-- **Every other lifetime makes some call fault**, for all credentials that have somewhere to ask
and whichever answer it comes in. -/
theorem exists_fault (htarget : c.endpoint? = some target)
    (hheld : held? TokenAnswer.ofJson? (some response) = some answer)
    (hnot : ¬ answer.FitsAlways) :
    ∃ time : Instant, time.IsCommon ∧ ∃ past kept, Session c steady past kept (response, time) ∧
      (c.ask steady kept (response, time)).Faults := by
  obtain ⟨time, hfails⟩ := not_forall.mp (mt TokenAnswer.fitsAlways_iff.mpr hnot)
  obtain ⟨htime, hfails⟩ := Classical.not_imp.mp hfails
  refine ⟨time, htime, ?_⟩
  by_cases hkeepable : (⟨answer, time⟩ : Fetched).Keepable
  · have hcheckable : ¬ (⟨answer, time⟩ : Fetched).Checkable := fun h => hfails ⟨hkeepable, h⟩
    exact ⟨_, _, ((Session.start (response, time)).call).wait (response, time),
      faults_of_not_checkable htarget hheld hkeepable hcheckable⟩
  · exact ⟨[], none, .start _, faults_of_not_keepable htarget hheld hkeepable⟩

/-- Under steady answers the clock shows the time at hand. -/
theorem readings_steady {t : Instant}
    (ht : t ∈ (c.ask steady kept (response, time)).readings) : t = time := by
  obtain ⟨⟨call, found⟩, he, hshown⟩ := List.mem_filterMap.mp ht
  obtain ⟨_, rfl, hanswer⟩ := Program.answered_of_mem (· = (response, time))
    (fun call s hs => by cases call <;> exact hs) rfl he
  cases call with
  | send request => cases hshown
  | clock => exact (Option.some.inj hshown).symm.trans hanswer

end Steady

/-- The second of two calls, for a token of two minutes each, returns. -/
theorem second_call_returns :
    (∀ v ∈ [firstCall] ++ [secondCall], ∀ t ∈ v.readings, t.IsCommon) ∧
    (∀ v ∈ [firstCall] ++ [secondCall], ∀ f, v.fetched? = some f → f.answer.FitsAlways) ∧
    ¬ secondCall.Faults := by
  have hfirst : held? TokenAnswer.ofJson? (some firstToken) = some ⟨"first", 120⟩ := by
    decide +kernel
  have hsecond : held? TokenAnswer.ofJson? (some secondToken) = some ⟨"second", 120⟩ := by
    decide +kernel
  have hsession := ((Session.start (c := metadataServer) (h := steady)
    (firstToken, afterSeconds 0)).call).wait (secondToken, afterSeconds 59)
  have htimes : ∀ v ∈ [firstCall] ++ [secondCall], ∀ t ∈ v.readings, t.IsCommon := by
    intro v hv t ht
    obtain rfl | hv := List.mem_cons.mp hv
    · rw [readings_steady ht]
      decide
    · obtain rfl := List.mem_singleton.mp hv
      rw [readings_steady ht]
      decide
  have hfits : ∀ v ∈ [firstCall] ++ [secondCall], ∀ f, v.fetched? = some f →
      f.answer.FitsAlways := by
    intro v hv f hf
    obtain rfl | hv := List.mem_cons.mp hv
    · rw [fetched?_steady hfirst hf]
      decide
    · obtain rfl := List.mem_singleton.mp hv
      rw [fetched?_steady hsecond hf]
      decide
  exact ⟨htimes, hfits, (token_calls_return_iff hsession htimes).2.1 hfits⟩

/-- A token for the longest time that has 64 bits of seconds. -/
def endlessToken : Response :=
  ⟨200, "\x7b\"access_token\":\"endless\",\"expires_in\":9223372036854775807\x7d"⟩

/-- **An endless token is understood**, and at ten o'clock on 3 June 2024 it cannot be kept: every
call that has fetched it ends with a fault, and so does the one to the metadata server. -/
theorem endless_token_faults :
    held? TokenAnswer.ofJson? (some endlessToken) = some ⟨"endless", 9223372036854775807⟩ ∧
    (Instant.ofHour 19877 10).IsCommon ∧
    CachedToken.ofAnswer (Instant.ofHour 19877 10) ⟨"endless", 9223372036854775807⟩ =
      .error .date ∧
    (∀ c target, endpoint? c = some target →
      (c.ask steady none (endlessToken, Instant.ofHour 19877 10)).Faults) ∧
    (metadataServer.ask steady none (endlessToken, Instant.ofHour 19877 10)).Faults := by
  have hheld : held? TokenAnswer.ofJson? (some endlessToken) =
      some ⟨"endless", 9223372036854775807⟩ := by
    decide +kernel
  have hnot : ¬ (⟨⟨"endless", 9223372036854775807⟩, Instant.ofHour 19877 10⟩ :
      Fetched).Keepable := by
    decide
  exact ⟨hheld, by decide, Fetched.ofAnswer_eq_error hnot,
    fun c target htarget => faults_of_not_keepable htarget hheld hnot,
    faults_of_not_keepable endpoint?_metadataServer hheld hnot⟩

end Credentials

end PeriodScaler
