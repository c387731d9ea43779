import PeriodScaler.Proofs.Calendar.Shift
import PeriodScaler.Proofs.Compute.Exchanges

/-!
# Tokens that are used again

Credentials that have to be exchanged for a token keep the one that they have fetched last, with the
time at which it expires. Calls for a token follow each other in a `Session`; the clock may go
backwards from one to the next, lifetimes may be negative, and exchanges may fail.

A session tells what is kept: `Session.kept_eq` reads it off the calls so far. So it is enough to
know one call, from a kept token that was fetched (`serves_ask`): a token in hand needs nothing, a
token that outlasts the time is given again, and otherwise the credentials are exchanged, which ends
with a token that is kept (`renews_keep`), or with what was kept before.

The expiry of a token can only be told inside the range of dates (`Fetched.Countable`).

* **`Session.kept_eq`**: what is kept is the token that was fetched last.
* **`Session.kept_eq_none`**: nothing is ever kept for a token that was handed over.
* **`tokens_reused_while_valid`**: a token is given without a request exactly while the one fetched
  last outlasts the time; otherwise there is one exchange, and its token is kept.
-/

namespace PeriodScaler

open Http

theorem Instant.addSeconds_of_inRange {t : Instant} {n : Int}
    (h : (t.utc.addSeconds n).inRange = true) : t.addSeconds n = .ok ⟨t.utc.addSeconds n⟩ :=
  if_pos h

theorem Instant.addSeconds_of_not_inRange {t : Instant} {n : Int}
    (h : ¬ (t.utc.addSeconds n).inRange = true) : t.addSeconds n = .error .date :=
  if_neg h

/-! ## Fetched tokens -/

/-- A token that was fetched: what was answered, and when. -/
structure Fetched where
  answer : TokenAnswer
  time : Instant
  deriving DecidableEq, Repr

namespace Fetched

/-- When a token expires: its seconds after the time at which it was fetched. -/
def expiry (f : Fetched) : DateTime :=
  f.time.utc.addSeconds f.answer.expiresIn

/-- A token outlasts an instant when it expires more than a minute later. -/
def Outlasts (f : Fetched) (now : Instant) : Prop :=
  now.utc.addSeconds 60 < f.expiry

instance (f : Fetched) (now : Instant) : Decidable (f.Outlasts now) :=
  inferInstanceAs (Decidable (_ < _))

/-- The lifetime of a token and the times that matter for it are in range. -/
structure Countable (f : Fetched) : Prop where
  seconds : -CachedToken.longest ≤ f.answer.expiresIn ∧ f.answer.expiresIn ≤ CachedToken.longest
  expiry : f.expiry.inRange = true
  last : (f.expiry.addSeconds (-60)).inRange = true

/-- A token can be kept: its lifetime can be counted, and it expires within the range of dates. -/
structure Keepable (f : Fetched) : Prop where
  seconds : -CachedToken.longest ≤ f.answer.expiresIn ∧ f.answer.expiresIn ≤ CachedToken.longest
  expiry : f.expiry.inRange = true

/-- A token that is kept can be looked at again: a minute before it expires is within the range. -/
def Checkable (f : Fetched) : Prop :=
  (f.expiry.addSeconds (-60)).inRange = true

/-- A token as it is kept. -/
def cached (f : Fetched) : CachedToken :=
  ⟨f.answer.token, ⟨f.expiry⟩⟩

variable {f : Fetched}

theorem Countable.keepable (hf : f.Countable) : f.Keepable :=
  ⟨hf.seconds, hf.expiry⟩

theorem ofAnswer_eq (hf : f.Keepable) :
    CachedToken.ofAnswer f.time f.answer = .ok f.cached := by
  have hexpiry : f.time.addSeconds f.answer.expiresIn = .ok ⟨f.expiry⟩ :=
    Instant.addSeconds_of_inRange hf.expiry
  unfold CachedToken.ofAnswer
  rw [if_pos hf.seconds, hexpiry]
  rfl

/-- A token that is kept is used exactly while it outlasts the time. -/
theorem usable_cached (hf : f.Checkable) (now : Instant) :
    f.cached.usable now = .ok (decide (f.Outlasts now)) := by
  have hlast : f.cached.expires.addSeconds (-CachedToken.margin) =
      .ok ⟨f.expiry.addSeconds (-60)⟩ :=
    Instant.addSeconds_of_inRange hf
  have houtlasts : f.Outlasts now ↔ now < ⟨f.expiry.addSeconds (-60)⟩ := by
    rw [Outlasts, Instant.lt_iff_utc, ← DateTime.addSeconds_lt_iff (n := 60) (a := now.utc),
      DateTime.addSeconds_neg_addSeconds]
  unfold CachedToken.usable
  rw [hlast, decide_eq_decide.mpr houtlasts]
  rfl

end Fetched

/-! ## What a call has fetched -/

/-- A call for a token: what was exchanged, and the result. -/
structure TokenCall where
  exchanged : List network.Exchange
  result : ComputeResult String

namespace TokenCall

variable {v : TokenCall} {l : List network.Exchange} {result : ComputeResult String}

/-- The times that the clock has shown during a call. -/
def readings (v : TokenCall) : List Instant :=
  v.exchanged.filterMap reading?

/-- The token that was answered in some exchanges, if there is one. -/
def given? (l : List network.Exchange) : Option TokenAnswer :=
  (l.filterMap answer?).findSome? (held? TokenAnswer.ofJson?)

/-- The token that a call has fetched: the one that was answered, at the last time that the clock
has shown. -/
def fetched? (v : TokenCall) : Option Fetched := do
  return ⟨← given? v.exchanged, ← v.readings.getLast?⟩

/-- The token that was fetched last. -/
def latest? (past : List TokenCall) : Option Fetched :=
  (past.filterMap fetched?).getLast?

/-- A call finds a token to use again: the one fetched last outlasts the time that the clock shows
first. -/
def Finds (v : TokenCall) (latest : Option Fetched) (f : Fetched) : Prop :=
  latest = some f ∧ ∃ now, v.readings.head? = some now ∧ f.Outlasts now

theorem given?_of_answer {answer : Option Response} (h : l.filterMap answer? = [answer]) :
    given? l = held? TokenAnswer.ofJson? answer := by
  unfold given?
  rw [h, List.findSome?_singleton]

theorem given?_append_shown (l : List network.Exchange) (t : Instant) :
    given? (l ++ [shown t]) = given? l := by
  unfold given?
  rw [List.filterMap_append]
  exact congrArg _ (List.append_nil _)

/-- When the clock is read after the answer, the token was fetched at this time. -/
theorem fetched?_append_shown {answer : TokenAnswer} (h : given? l = some answer) (t : Instant) :
    fetched? ⟨l ++ [shown t], result⟩ = some ⟨answer, t⟩ := by
  have hreadings : (readings ⟨l ++ [shown t], result⟩).getLast? = some t := by
    unfold readings
    rw [List.filterMap_append]
    exact List.getLast?_concat
  unfold fetched?
  rw [given?_append_shown, h, hreadings]
  rfl

theorem fetched?_of_given_none (h : given? l = none) : fetched? ⟨l, result⟩ = none := by
  unfold fetched?
  rw [h]
  rfl

/-- Without a request no token is fetched. -/
theorem fetched?_of_quiet (h : requests v.exchanged = []) : v.fetched? = none := by
  unfold fetched? given?
  rw [answers_eq_nil h]
  rfl

/-- What the last of some calls with a token gives is looked for from the end. -/
theorem getLast?_filterMap_concat (token? : TokenCall → Option Fetched) (past : List TokenCall)
    (v : TokenCall) : ((past ++ [v]).filterMap token?).getLast? =
      (token? v).or (past.filterMap token?).getLast? := by
  rw [List.filterMap_append, List.getLast?_append]
  cases hv : token? v <;> simp [hv]

theorem latest?_concat (past : List TokenCall) (v : TokenCall) :
    latest? (past ++ [v]) = v.fetched?.or (latest? past) :=
  getLast?_filterMap_concat fetched? past v

/-- The times of all tokens that were fetched are in range. -/
def AllCountable (past : List TokenCall) : Prop :=
  ∀ v ∈ past, ∀ f, v.fetched? = some f → f.Countable

theorem AllCountable.latest? {past : List TokenCall} (h : AllCountable past) {f : Fetched}
    (hf : TokenCall.latest? past = some f) : f.Countable := by
  obtain ⟨v, hv, hfetched⟩ := List.mem_filterMap.mp (List.mem_of_getLast? hf)
  exact h v hv f hfetched

end TokenCall

open TokenCall

namespace Credentials

variable {c : Credentials} {σ : Type} {h : Handler network σ} {kept kept' : Option CachedToken}
  {s : σ} {v : TokenCall} {latest : Option Fetched} {account : ServiceAccount}
  {endpoint : Option Url} {l : List network.Exchange} {result : ComputeResult TokenAnswer}

/-- Credentials that have to be exchanged for a token. -/
def IsExchanged (c : Credentials) : Prop :=
  ∀ token, c ≠ accessToken token

theorem not_isExchanged_iff : ¬ c.IsExchanged ↔ ∃ token, c = accessToken token := by
  simp [IsExchanged]

/-- Where a token is asked for: nowhere when the request cannot be made. -/
def endpoint? : Credentials → Option Url
  | accessToken _ => none
  | serviceAccount account =>
    if account.signingFault?.isNone then Url.ofText? account.tokenUri else none
  | metadataServer => Url.ofText? TokenRequest.metadataAddress

/-! ## An exchange -/

/-- Some exchanges ask an endpoint once, if there is one, and lead to the token of its answer. -/
def AsksOnce (endpoint : Option Url) (l : List network.Exchange)
    (result : ComputeResult TokenAnswer) : Prop :=
  (requests l).map Request.target = endpoint.toList ∧
    ∀ x, result = .ok x ↔ given? l = some x

theorem AsksOnce.shown (hl : AsksOnce endpoint l result) (now : Instant) :
    AsksOnce endpoint (Http.shown now :: l) result :=
  hl

/-- Asks for a token at an endpoint, if there is one. -/
def askAt (asks : Url → Request) (failure : String) :
    Option Url → Exchange (ComputeResult TokenAnswer)
  | none => .done (.error .http)
  | some target => (send (asks target)).bind fun answer =>
    .done (TokenRequest.understand failure answer)

theorem asksOnce_askAt {asks : Url → Request} (hasks : ∀ target, (asks target).target = target)
    (failure : String) (endpoint : Option Url) (h : Handler network σ) (s : σ) :
    AsksOnce endpoint ((askAt asks failure endpoint).transcript h s)
      ((askAt asks failure endpoint).run h s).1 := by
  cases endpoint with
  | none => exact ⟨rfl, fun x => iff_of_false nofun nofun⟩
  | some target =>
    have hgiven := given?_of_answer (l := (askAt asks failure (some target)).transcript h s) rfl
    refine ⟨congrArg (fun t => [t]) (hasks target), fun x => ?_⟩
    rw [hgiven]
    exact TokenRequest.understand_eq_ok_iff

/-- How credentials are exchanged for a token; a token that was handed over is not. -/
inductive Fetches : Credentials → Exchange (ComputeResult TokenAnswer) → Prop where
  | account (account : ServiceAccount) : Fetches (serviceAccount account) (exchange account)
  | metadata : Fetches metadataServer askMetadata

variable {p : Exchange (ComputeResult TokenAnswer)}

theorem IsExchanged.exists_fetches (hc : c.IsExchanged) : ∃ p, Fetches c p := by
  cases c with
  | accessToken token => exact absurd rfl (hc token)
  | serviceAccount account => exact ⟨_, .account account⟩
  | metadataServer => exact ⟨_, .metadata⟩

theorem exchange_eq (account : ServiceAccount) :
    exchange account = clock.bind fun now =>
      match account.signingFault?, Url.ofText? account.tokenUri with
      | some fault, _ => .done (.error (.authentication fault))
      | none, none => .done (.error .http)
      | none, some target => (send (TokenRequest.exchange account target now)).bind fun answer =>
        .done (TokenRequest.understand "token exchange failed" answer) := rfl

theorem endpoint?_account (account : ServiceAccount) :
    (serviceAccount account).endpoint? =
      if account.signingFault?.isNone then Url.ofText? account.tokenUri else none := rfl

/-- An account that can sign asks at the address of its file. -/
theorem exchange_of_sound (hsound : account.signingFault? = none) :
    exchange account = clock.bind fun now =>
      askAt (fun target => TokenRequest.exchange account target now) "token exchange failed"
        (serviceAccount account).endpoint? := by
  rw [exchange_eq, endpoint?_account, hsound]
  cases Url.ofText? account.tokenUri <;> rfl

/-- An account that cannot sign reads the clock and asks for nothing. -/
theorem exchange_of_fault {fault : String} (hfault : account.signingFault? = some fault) :
    exchange account = clock.bind fun _ => .done (.error (.authentication fault)) := by
  rw [exchange_eq, hfault]

theorem askMetadata_eq :
    askMetadata = askAt TokenRequest.metadata "metadata server token request failed"
      metadataServer.endpoint? := by
  unfold askMetadata endpoint?
  cases Url.ofText? TokenRequest.metadataAddress <;> rfl

/-- **Credentials are exchanged** at their endpoint, once. -/
theorem Fetches.asksOnce (hp : Fetches c p) (h : Handler network σ) (s : σ) :
    AsksOnce c.endpoint? (p.transcript h s) (p.run h s).1 := by
  cases hp with
  | account account =>
    cases hsound : account.signingFault? with
    | some fault =>
      rw [exchange_of_fault hsound, endpoint?_account, hsound]
      exact ⟨rfl, fun x => iff_of_false nofun nofun⟩
    | none =>
      rw [exchange_of_sound hsound]
      exact asksOnce_askAt (fun _ => rfl) _ _ _ _
  | metadata =>
    rw [askMetadata_eq]
    exact asksOnce_askAt (fun _ => rfl) _ _ _ _

/-! ## What becomes of an exchange -/

theorem keep_ok (kept : Option CachedToken) (answer : TokenAnswer) :
    keep kept (.ok answer) = clock.bind fun now =>
      match CachedToken.ofAnswer now answer with
      | .error f => .done (.error (.fault f), kept)
      | .ok fresh => .done (.ok answer.token, some fresh) := rfl

theorem keep_error (kept : Option CachedToken) (e : ComputeError) :
    keep kept (.error e) = .done (.error e, kept) := rfl

theorem Fetches.renew_eq (hp : Fetches c p) (kept : Option CachedToken) :
    c.renew kept = p.bind (keep kept) := by
  cases hp <;> rfl

theorem transcript_keep_ok (kept : Option CachedToken) (answer : TokenAnswer)
    (h : Handler network σ) (s : σ) :
    (keep kept (.ok answer)).transcript h s = [shown (timeOf h s)] := by
  rw [keep_ok, transcript_clock_bind]
  split <;> rfl

theorem run_keep_ok (kept : Option CachedToken) {f : Fetched} (hf : f.Keepable)
    (htime : timeOf h s = f.time) :
    ((keep kept (.ok f.answer)).run h s).1 = (.ok f.answer.token, some f.cached) := by
  rw [keep_ok, run_clock_bind, htime, f.ofAnswer_eq hf]
  rfl

/-- A call that exchanges credentials. -/
structure Renews (c : Credentials) (kept : Option CachedToken) (v : TokenCall)
    (kept' : Option CachedToken) : Prop where
  /-- The endpoint is asked once, if it can be. -/
  asks : (requests v.exchanged).map Request.target = c.endpoint?.toList
  /-- A token that is fetched is the result, and it is kept. -/
  made : ∀ f, v.fetched? = some f → v.result = .ok f.answer.token ∧ kept' = some f.cached
  /-- Without one the call fails, and what is kept stays as it is. -/
  failed : v.fetched? = none → (∃ e, v.result = .error e) ∧ kept' = kept

theorem Renews.requests_ne_nil (hv : Renews c kept v kept') {token : String}
    (hresult : v.result = .ok token) : requests v.exchanged ≠ [] := by
  intro hquiet
  obtain ⟨⟨e, he⟩, -⟩ := hv.failed (fetched?_of_quiet hquiet)
  cases hresult.symm.trans he

/-- Without a token in the answer none is fetched. -/
theorem fetched?_keep_error {e : ComputeError} (hl : AsksOnce endpoint l (.error e))
    (kept : Option CachedToken) (h : Handler network σ) (s : σ) (r : ComputeResult String) :
    fetched? ⟨l ++ (keep kept (.error e)).transcript h s, r⟩ = none := by
  refine fetched?_of_given_none ?_
  rw [keep_error, Program.transcript_done, List.append_nil, Option.eq_none_iff_forall_ne_some]
  exact fun x hx => nomatch (hl.2 x).mpr hx

/-- A token in the answer is fetched at the time that the clock shows then. -/
theorem fetched?_keep_ok {answer : TokenAnswer} (hl : AsksOnce endpoint l (.ok answer))
    (kept : Option CachedToken) (h : Handler network σ) (s : σ) (r : ComputeResult String) :
    fetched? ⟨l ++ (keep kept (.ok answer)).transcript h s, r⟩ = some ⟨answer, timeOf h s⟩ := by
  rw [transcript_keep_ok]
  exact fetched?_append_shown ((hl.2 answer).mp rfl) _

/-- **What an exchange comes to**, whatever was exchanged before its token is kept. -/
theorem renews_keep (hl : AsksOnce c.endpoint? l result) (h : Handler network σ) (s : σ)
    (hcount : ∀ f, fetched? ⟨l ++ (keep kept result).transcript h s,
      ((keep kept result).run h s).1.1⟩ = some f → f.Countable) :
    Renews c kept ⟨l ++ (keep kept result).transcript h s, ((keep kept result).run h s).1.1⟩
      ((keep kept result).run h s).1.2 := by
  cases result with
  | error e =>
    refine ⟨?_, fun f hf => ?_, fun _ => ⟨⟨e, rfl⟩, rfl⟩⟩
    · exact (congrArg (fun l => (requests l).map Request.target) (List.append_nil l)).trans hl.1
    · cases (fetched?_keep_error hl kept h s _).symm.trans hf
  | ok answer =>
    have hfetched := fetched?_keep_ok hl kept h s ((keep kept (.ok answer)).run h s).1.1
    have hrun := run_keep_ok kept (hcount _ hfetched).keepable (h := h) (s := s) rfl
    refine ⟨?_, fun f hf => ?_, fun hnone => ?_⟩
    · rw [requests_append, List.map_append, transcript_keep_ok]
      exact (List.append_nil _).trans hl.1
    · obtain rfl := Option.some.inj (hfetched.symm.trans hf)
      rw [hrun]
      exact ⟨rfl, rfl⟩
    · cases hfetched.symm.trans hnone

/-! ## A call -/

/-- A call for a token, with what is kept before it. -/
def ask (c : Credentials) (h : Handler network σ) (kept : Option CachedToken) (s : σ) : TokenCall :=
  ⟨(c.token kept).transcript h s, ((c.token kept).run h s).1.1⟩

/-- What is kept after a call for a token. -/
def keptAfter (c : Credentials) (h : Handler network σ) (kept : Option CachedToken) (s : σ) :
    Option CachedToken :=
  ((c.token kept).run h s).1.2

theorem token_none (c : Credentials) : c.token none = c.renew none := rfl

theorem token_some (c : Credentials) (cached : CachedToken) :
    c.token (some cached) = clock.bind fun now =>
      match cached.usable now with
      | .error f => .done (.error (.fault f), some cached)
      | .ok true => .done (.ok cached.token, some cached)
      | .ok false => c.renew (some cached) := rfl

/-- A call with a token in reserve reads the clock first. -/
theorem head?_readings (c : Credentials) (h : Handler network σ) (cached : CachedToken) (s : σ) :
    (c.ask h (some cached) s).readings.head? = some (timeOf h s) := by
  unfold ask readings
  rw [token_some, transcript_clock_bind]
  rfl

/-- How a call is served when `latest` was fetched last. -/
structure Serves (c : Credentials) (latest : Option Fetched) (v : TokenCall)
    (kept kept' : Option CachedToken) : Prop where
  /-- A token in hand is given as it is, and nothing else is done. -/
  handed : ∀ token, c = accessToken token → v = ⟨[], .ok token⟩ ∧ kept' = kept
  /-- Other credentials give a token without a request exactly when the one fetched last outlasts
  the time, and then it is this one. -/
  reuses_iff : c.IsExchanged → ∀ token,
    (v.result = .ok token ∧ requests v.exchanged = []) ↔
      ∃ f, v.Finds latest f ∧ f.answer.token = token
  /-- What is kept stays then as it is. -/
  stays : ∀ f, v.Finds latest f → kept' = kept
  /-- Without such a token the credentials are exchanged. -/
  renews : c.IsExchanged → (∀ f, ¬ v.Finds latest f) → Renews c kept v kept'

theorem Renews.serves (hc : c.IsExchanged) (hv : Renews c kept v kept')
    (hfinds : ∀ f, ¬ v.Finds latest f) : Serves c latest v kept kept' where
  handed token htoken := absurd htoken (hc token)
  reuses_iff _ _ :=
    iff_of_false (fun h => hv.requests_ne_nil h.1 h.2) fun ⟨f, hf, _⟩ => hfinds f hf
  stays f hf := absurd hf (hfinds f)
  renews _ _ := hv

/-- A token that is found is given, and nothing is asked for. -/
theorem serves_of_outlasts (hc : c.IsExchanged) {f : Fetched} {now : Instant}
    (hlasts : f.Outlasts now) (kept : Option CachedToken) :
    Serves c (some f) ⟨[shown now], .ok f.answer.token⟩ kept kept := by
  have hfinds : Finds ⟨[shown now], .ok f.answer.token⟩ (some f) f := ⟨rfl, now, rfl, hlasts⟩
  refine ⟨fun token htoken => absurd htoken (hc token), fun _ token => ⟨?_, ?_⟩, fun _ _ => rfl,
    fun _ hnone => absurd hfinds (hnone f)⟩
  · rintro ⟨hresult, -⟩
    exact ⟨f, hfinds, Except.ok.inj hresult⟩
  · rintro ⟨g, ⟨hg, -⟩, htoken⟩
    obtain rfl := Option.some.inj hg
    exact ⟨congrArg Except.ok htoken, rfl⟩

theorem serves_ask_none (hc : c.IsExchanged) (h : Handler network σ) (s : σ)
    (hcount : ∀ f, (c.ask h none s).fetched? = some f → f.Countable) :
    Serves c none (c.ask h none s) none (c.keptAfter h none s) := by
  unfold ask at hcount
  unfold ask keptAfter
  obtain ⟨p, hp⟩ := hc.exists_fetches
  rw [token_none, hp.renew_eq, Program.run_bind, Program.transcript_bind] at hcount ⊢
  exact (renews_keep (hp.asksOnce h s) h _ hcount).serves hc nofun

theorem serves_ask_some (hc : c.IsExchanged) (h : Handler network σ) (s : σ) {f : Fetched}
    (hf : f.Countable)
    (hcount : ∀ g, (c.ask h (some f.cached) s).fetched? = some g → g.Countable) :
    Serves c (some f) (c.ask h (some f.cached) s) (some f.cached)
      (c.keptAfter h (some f.cached) s) := by
  unfold ask at hcount
  unfold ask keptAfter
  rw [token_some, run_clock_bind, transcript_clock_bind, f.usable_cached hf.last] at hcount ⊢
  by_cases hlasts : f.Outlasts (timeOf h s)
  · rw [decide_eq_true hlasts]
    exact serves_of_outlasts hc hlasts _
  · rw [decide_eq_false hlasts] at hcount ⊢
    simp only at hcount ⊢
    obtain ⟨p, hp⟩ := hc.exists_fetches
    rw [hp.renew_eq, Program.run_bind, Program.transcript_bind] at hcount ⊢
    refine (renews_keep ((hp.asksOnce h _).shown _) h _ hcount).serves hc ?_
    rintro g ⟨hg, now, hnow, houtlasts⟩
    obtain rfl := Option.some.inj hg
    obtain rfl := Option.some.inj hnow
    exact hlasts houtlasts

/-- **How a call is served** when what is kept is the token that was fetched last; none is fetched
where one was handed over. -/
theorem serves_ask (c : Credentials) (h : Handler network σ) (s : σ)
    (hhanded : ¬ c.IsExchanged → latest = none)
    (hlatest : ∀ f, latest = some f → f.Countable)
    (hcount : ∀ f, (c.ask h (latest.map Fetched.cached) s).fetched? = some f → f.Countable) :
    Serves c latest (c.ask h (latest.map Fetched.cached) s) (latest.map Fetched.cached)
      (c.keptAfter h (latest.map Fetched.cached) s) := by
  by_cases hc : c.IsExchanged
  · cases latest with
    | none => exact serves_ask_none hc h s hcount
    | some f => exact serves_ask_some hc h s (hlatest f rfl) hcount
  · obtain rfl := hhanded hc
    obtain ⟨token, rfl⟩ := not_isExchanged_iff.mp hc
    exact ⟨fun t ht => ⟨by cases ht; rfl, rfl⟩, fun hne => absurd hne hc, fun _ _ => rfl,
      fun hne => absurd hne hc⟩

/-- What is kept after a call is again the token that was fetched last. -/
theorem Serves.kept_eq (hv : Serves c latest v (latest.map Fetched.cached) kept') :
    kept' = (v.fetched?.or latest).map Fetched.cached := by
  by_cases hc : c.IsExchanged
  · by_cases hfinds : ∃ f, v.Finds latest f
    · obtain ⟨f, hf⟩ := hfinds
      have hquiet := ((hv.reuses_iff hc _).mpr ⟨f, hf, rfl⟩).2
      rw [hv.stays f hf, fetched?_of_quiet hquiet, Option.none_or]
    · have hrenews := hv.renews hc fun f hf => hfinds ⟨f, hf⟩
      cases hfetched : v.fetched? with
      | none => exact (hrenews.failed hfetched).2
      | some f => exact (hrenews.made f hfetched).2
  · obtain ⟨token, rfl⟩ := not_isExchanged_iff.mp hc
    obtain ⟨rfl, hkept⟩ := hv.handed token rfl
    exact hkept

/-! ## Sessions -/

/-- Calls for a token, one after another, each from what the one before has kept; between two of
them anything may happen to the clock and to what answers requests. -/
inductive Session (c : Credentials) (h : Handler network σ) :
    List TokenCall → Option CachedToken → σ → Prop where
  | start (s : σ) : Session c h [] none s
  | wait {past : List TokenCall} {kept : Option CachedToken} {s : σ} (s' : σ)
    (before : Session c h past kept s) : Session c h past kept s'
  | call {past : List TokenCall} {kept : Option CachedToken} {s : σ}
    (before : Session c h past kept s) :
    Session c h (past ++ [c.ask h kept s]) (c.keptAfter h kept s) ((c.token kept).run h s).2

/-- **Nothing is kept for a token that was handed over**, and none is fetched. -/
theorem Session.kept_eq_none {past : List TokenCall} (hs : Session c h past kept s)
    (hc : ¬ c.IsExchanged) : kept = none ∧ ∀ v ∈ past, v.fetched? = none := by
  obtain ⟨token, rfl⟩ := not_isExchanged_iff.mp hc
  induction hs with
  | start s => exact ⟨rfl, nofun⟩
  | wait s' before ih => exact ih
  | @call past kept s before ih =>
    obtain ⟨rfl, hpast⟩ := ih
    refine ⟨rfl, fun v hv => ?_⟩
    rcases List.mem_append.mp hv with hv | hv
    · exact hpast v hv
    · rw [List.mem_singleton.mp hv]
      rfl

theorem Session.latest?_eq_none {past : List TokenCall} (hs : Session c h past kept s)
    (hc : ¬ c.IsExchanged) : latest? past = none := by
  unfold latest?
  rw [List.filterMap_eq_nil_iff.mpr (hs.kept_eq_none hc).2]
  rfl

/-- **What is kept** is the token that was fetched last. -/
theorem Session.kept_eq {past : List TokenCall} (hs : Session c h past kept s)
    (hcount : AllCountable past) : kept = (latest? past).map Fetched.cached := by
  induction hs with
  | start s => rfl
  | wait s' before ih => exact ih hcount
  | @call past kept s before ih =>
    obtain ⟨hpast, hcall⟩ := List.forall_mem_append.mp hcount
    obtain rfl := ih hpast
    rw [latest?_concat]
    exact (serves_ask c h s before.latest?_eq_none (fun f hf => AllCountable.latest? hpast hf)
      (hcall _ (List.mem_singleton.mpr rfl))).kept_eq

/-- **Tokens are used again while they last.** Whatever calls came before, the next one is served
from the token that was fetched last. -/
theorem tokens_reused_while_valid {past : List TokenCall} (hs : Session c h past kept s)
    (hcount : AllCountable (past ++ [c.ask h kept s])) :
    kept = (latest? past).map Fetched.cached ∧
      Serves c (latest? past) (c.ask h kept s) kept (c.keptAfter h kept s) := by
  obtain ⟨hpast, hcall⟩ := List.forall_mem_append.mp hcount
  have hhanded : ¬ c.IsExchanged → latest? past = none := hs.latest?_eq_none
  obtain rfl := hs.kept_eq hpast
  exact ⟨rfl, serves_ask c h s hhanded (fun f hf => AllCountable.latest? hpast hf)
    (hcall _ (List.mem_singleton.mpr rfl))⟩

/-! ### A token that lasts for two minutes -/

/-- Answers every request with the response at hand, and shows the time at hand. -/
def steady : Handler network (Response × Instant)
  | .send _, now => (some now.1, now)
  | .clock, now => (now.2, now)

variable {response : Response} {answer : TokenAnswer} {time : Instant}

/-- A token that is fetched under steady answers is theirs, at the time at hand. -/
theorem fetched?_steady (hheld : held? TokenAnswer.ofJson? (some response) = some answer)
    {f : Fetched} (hf : (c.ask steady kept (response, time)).fetched? = some f) :
    f = ⟨answer, time⟩ := by
  have hanswered : ∀ e ∈ (c.ask steady kept (response, time)).exchanged,
      e.answer = (steady e.call (response, time)).1 := by
    intro e he
    obtain ⟨_, rfl, hanswer⟩ := Program.answered_of_mem (· = (response, time))
      (fun call t ht => by cases call <;> exact ht) rfl he
    exact hanswer
  obtain ⟨given, hgiven, hf⟩ := Option.bind_eq_some_iff.mp hf
  obtain ⟨shownTime, htime, hf⟩ := Option.bind_eq_some_iff.mp hf
  obtain rfl := Option.some.inj hf
  obtain ⟨a, ha, hfound⟩ := List.exists_of_findSome?_eq_some hgiven
  obtain ⟨⟨call, found⟩, he, ha⟩ := List.mem_filterMap.mp ha
  obtain ⟨⟨call', found'⟩, he', hreading⟩ := List.mem_filterMap.mp (List.mem_of_getLast? htime)
  cases call <;> cases call' <;> cases ha <;> cases hreading
  obtain rfl : a = some response := hanswered _ he
  obtain rfl : shownTime = time := hanswered _ he'
  rw [Option.some.inj (hfound.symm.trans hheld)]

theorem isExchanged_of_endpoint {target : Url} (htarget : c.endpoint? = some target) :
    c.IsExchanged := by
  rintro token rfl
  cases htarget

/-- Credentials with an endpoint get its answer. -/
theorem Fetches.run_steady (hp : Fetches c p) {target : Url} (htarget : c.endpoint? = some target)
    (hheld : held? TokenAnswer.ofJson? (some response) = some answer) :
    p.run steady (response, time) = (.ok answer, (response, time)) := by
  have hmade : ∀ failure, TokenRequest.understand failure (some response) = .ok answer :=
    fun failure => TokenRequest.understand_eq_ok_iff.mpr hheld
  cases hp with
  | account account =>
    have hsound : account.signingFault? = none := by
      rw [endpoint?_account] at htarget
      exact Option.isNone_iff_eq_none.mp (Option.ite_none_right_eq_some.mp htarget).1
    rw [exchange_of_sound hsound, htarget]
    exact congrArg (fun made => (made, (response, time))) (hmade _)
  | metadata =>
    rw [askMetadata_eq, htarget]
    exact congrArg (fun made => (made, (response, time))) (hmade _)

/-- The first call of credentials with an endpoint fetches the token of its answer. -/
theorem fetched?_of_endpoint {target : Url} (htarget : c.endpoint? = some target)
    (hheld : held? TokenAnswer.ofJson? (some response) = some answer) :
    (c.ask steady none (response, time)).fetched? = some ⟨answer, time⟩ := by
  obtain ⟨p, hp⟩ := (isExchanged_of_endpoint htarget).exists_fetches
  have hasks := hp.asksOnce steady (response, time)
  rw [hp.run_steady htarget hheld] at hasks
  unfold ask
  rw [token_none, hp.renew_eq, Program.transcript_bind, hp.run_steady htarget hheld]
  exact fetched?_keep_ok hasks none steady (response, time) _

/-- The metadata server is asked for the token of the machine. -/
theorem endpoint?_metadataServer : metadataServer.endpoint? =
    some ⟨"http://metadata.google.internal",
      "/computeMetadata/v1/instance/service-accounts/default/token", []⟩ := by
  decide +kernel

/-- A token for two minutes, and another one. -/
def firstToken : Response :=
  ⟨200, "\x7b\"access_token\":\"first\",\"expires_in\":120\x7d"⟩

def secondToken : Response :=
  ⟨200, "\x7b\"access_token\":\"second\",\"expires_in\":120\x7d"⟩

/-- An instant some seconds after midnight of day zero. -/
def afterSeconds (seconds : Nat) : Instant :=
  ⟨(default : Instant).utc.addSeconds seconds⟩

/-- The call for the first token, and one that is made 59 seconds later. -/
def firstCall : TokenCall :=
  metadataServer.ask steady none (firstToken, afterSeconds 0)

def secondCall : TokenCall :=
  metadataServer.ask steady (metadataServer.keptAfter steady none (firstToken, afterSeconds 0))
    (secondToken, afterSeconds 59)

/-- The second call is given the first token, and nothing is asked for. -/
theorem first_token_used_again :
    Serves metadataServer (latest? [firstCall]) secondCall
      (metadataServer.keptAfter steady none (firstToken, afterSeconds 0))
      (metadataServer.keptAfter steady
        (metadataServer.keptAfter steady none (firstToken, afterSeconds 0))
        (secondToken, afterSeconds 59)) ∧
    (requests firstCall.exchanged).map Request.target =
      [⟨"http://metadata.google.internal",
        "/computeMetadata/v1/instance/service-accounts/default/token", []⟩] ∧
    secondCall.result = .ok "first" ∧ requests secondCall.exchanged = [] := by
  have hfirst : held? TokenAnswer.ofJson? (some firstToken) = some ⟨"first", 120⟩ := by
    decide +kernel
  have hsecond : held? TokenAnswer.ofJson? (some secondToken) = some ⟨"second", 120⟩ := by
    decide +kernel
  have hcount : AllCountable [firstCall, secondCall] := by
    intro v hv f hf
    obtain rfl | hv := List.mem_cons.mp hv
    · rw [fetched?_steady hfirst hf]
      exact ⟨by decide, by decide, by decide⟩
    · obtain rfl := List.mem_singleton.mp hv
      rw [fetched?_steady hsecond hf]
      exact ⟨by decide, by decide, by decide⟩
  have hstart := Session.start (c := metadataServer) (h := steady) (firstToken, afterSeconds 0)
  have hexchanged : metadataServer.IsExchanged := isExchanged_of_endpoint endpoint?_metadataServer
  have hcounted : AllCountable [firstCall] := fun v hv =>
    hcount v (List.mem_cons.mpr (.inl (List.mem_singleton.mp hv)))
  obtain ⟨-, hrenews⟩ := tokens_reused_while_valid hstart hcounted
  have hasked := (hrenews.renews hexchanged nofun).asks
  rw [endpoint?_metadataServer] at hasked
  obtain ⟨hkept, hserves⟩ :=
    tokens_reused_while_valid (hstart.call.wait (secondToken, afterSeconds 59)) hcount
  have hlatest : latest? [firstCall] = some ⟨⟨"first", 120⟩, afterSeconds 0⟩ := by
    have hfetched : firstCall.fetched? = _ :=
      fetched?_of_endpoint endpoint?_metadataServer hfirst
    unfold latest?
    rw [List.filterMap_cons_some hfetched]
    rfl
  have hfinds : secondCall.Finds (latest? [firstCall]) ⟨⟨"first", 120⟩, afterSeconds 0⟩ := by
    refine ⟨hlatest, afterSeconds 59, ?_, by decide⟩
    have hcached := hkept.trans (congrArg (Option.map Fetched.cached) hlatest)
    unfold secondCall
    rw [hcached]
    exact head?_readings _ _ _ _
  exact ⟨hserves, hasked, (hserves.reuses_iff hexchanged _).mpr ⟨_, hfinds, rfl⟩⟩

end Credentials

end PeriodScaler
