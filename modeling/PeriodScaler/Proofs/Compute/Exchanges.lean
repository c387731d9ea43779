import PeriodScaler.Compute.Client
import PeriodScaler.Proofs.Transcript

/-!
# What a client exchanges

The requests, answers and times in what a client exchanges with the network, and what a request for
a value comes to: a success with a text that can be read as the value, or an error.

* **`ComputeClient.understand_eq_ok_iff`**, **`TokenRequest.understand_eq_ok_iff`**: a client
  understands a value exactly when the answer holds it.
-/

namespace PeriodScaler

namespace Http

variable {α : Type}

/-- The value that an answer holds, if it tells of success and its text is one of a value. -/
def held? (value? : Json → Option α) (answer : Option Response) : Option α :=
  answer.bind fun response =>
    if HttpStatus.isSuccess response.status then (Json.read? response.body).bind value? else none

/-! ## The parts of a transcript -/

/-- The request of an exchange, if it is one. -/
def request? : network.Exchange → Option Request
  | ⟨.send r, _⟩ => some r
  | ⟨.clock, _⟩ => none

/-- What a request was answered with; none for another exchange. -/
def answer? : network.Exchange → Option (Option Response)
  | ⟨.send _, answer⟩ => some answer
  | ⟨.clock, _⟩ => none

/-- The time that the clock has shown, if it was read. -/
def reading? : network.Exchange → Option Instant
  | ⟨.send _, _⟩ => none
  | ⟨.clock, t⟩ => some t

/-- The requests among some exchanges, in their order. -/
def requests (l : List network.Exchange) : List Request :=
  l.filterMap request?

/-- The exchange of a request. -/
def sent (r : Request) (answer : Option Response) : network.Exchange :=
  ⟨.send r, answer⟩

/-- The exchange in which the clock shows a time. -/
def shown (t : Instant) : network.Exchange :=
  ⟨.clock, t⟩

theorem requests_append (l l' : List network.Exchange) :
    requests (l ++ l') = requests l ++ requests l' :=
  List.filterMap_append

/-- Nothing is answered where nothing is asked. -/
theorem answers_eq_nil {l : List network.Exchange} (h : requests l = []) :
    l.filterMap answer? = [] := by
  unfold requests at h
  rw [List.filterMap_eq_nil_iff] at h ⊢
  rintro ⟨call, answer⟩ he
  cases call with
  | send r => cases h _ he
  | clock => rfl

/-! ## Runs that begin with a call -/

section Runs

variable {σ : Type} {h : Handler network σ}

theorem run_send_bind (r : Request) (f : Option Response → Exchange α) (s : σ) :
    ((send r).bind f).run h s = (f (h (.send r) s).1).run h (h (.send r) s).2 := rfl

theorem transcript_send_bind (r : Request) (f : Option Response → Exchange α) (s : σ) :
    ((send r).bind f).transcript h s =
      sent r (h (.send r) s).1 :: (f (h (.send r) s).1).transcript h (h (.send r) s).2 := rfl

/-- The time that a handler shows. -/
def timeOf (h : Handler network σ) (s : σ) : Instant :=
  (clock.run h s).1

/-- What a handler goes on with when it has shown the time. -/
def afterTime (h : Handler network σ) (s : σ) : σ :=
  (clock.run h s).2

theorem run_clock_bind (f : Instant → Exchange α) (s : σ) :
    (clock.bind f).run h s = (f (timeOf h s)).run h (afterTime h s) := rfl

theorem transcript_clock_bind (f : Instant → Exchange α) (s : σ) :
    (clock.bind f).transcript h s =
      shown (timeOf h s) :: (f (timeOf h s)).transcript h (afterTime h s) := rfl

end Runs

end Http

open Http

/-! ## What is understood -/

/-- **A client understands** a value when the answer holds it. That something does not exist is no
success. -/
theorem ComputeClient.understand_eq_ok_iff {α : Type} {missing failure : String}
    {value? : Json → Option α} {answer : Option Response} {x : α} :
    understand missing failure value? answer = .ok x ↔ held? value? answer = some x := by
  cases answer with
  | none => exact iff_of_false nofun nofun
  | some response =>
    unfold understand held?
    simp only [Option.bind_some]
    by_cases hmissing : response.status = 404
    · have hfailure : ¬ HttpStatus.isSuccess response.status = true := by
        rw [hmissing]
        decide
      rw [if_pos hmissing, if_neg hfailure]
      exact iff_of_false nofun nofun
    · rw [if_neg hmissing]
      split
      · cases (Json.read? response.body).bind value? <;> simp
      · exact iff_of_false nofun nofun

theorem TokenRequest.understand_eq_ok_iff {failure : String} {answer : Option Response}
    {x : TokenAnswer} :
    understand failure answer = .ok x ↔ held? TokenAnswer.ofJson? answer = some x := by
  cases answer with
  | none => exact iff_of_false nofun nofun
  | some response =>
    unfold understand held?
    simp only [Option.bind_some]
    split
    · cases (Json.read? response.body).bind TokenAnswer.ofJson? <;> simp
    · exact iff_of_false nofun nofun

end PeriodScaler
