import Calculator.Proofs.Json.Compact
import Calculator.Proofs.Serving.Answers

/-!
# The status of an answer

What a body comes to over the web is its verdict: it is no JSON, it is no request, there
are no settings to answer it under, its expression has a fault, or it has a value.  Every
verdict has a status, and a code unless all is well, and answers show both.

The server tries the verdicts in this order, and whatever it comes to, the answer shows it
(`shows_of_fits`).  One thing else can go wrong (`fits_or_unanswerable`): the expression
stops at a half, which is a fault of its form, but there is no answer that tells it.  A unit
is missed only for want of settings, and all other failures of an expression are faults.

An answer shows just one verdict (`Shows.eq`).  The status alone would not tell them
apart, but the code stands early in the body, in front of all that depends on the
request, and no code is the start of another.  So an answer shows a verdict exactly if
the verdict fits, and exactly one does, unless there is no answer.
-/

namespace Calculator.WebServer

open Calculator.Text Calculator.Json

variable {environment : Environment} {words : List UInt8 → String} {body : List UInt8}
  {response : Response} {request : EvaluateRequest}

/-- What a body comes to. -/
inductive Verdict where
  | unreadable
  | invalid
  | misconfigured
  | faulty (kind : FaultKind)
  | valued
  deriving DecidableEq, Repr

/-- The answer refuses a request, with a status and a code. -/
def Response.Refuses (response : Response) (status : Nat) (code : String) : Prop :=
  ∃ (message : String) (details : Value) (advice : String),
    response =
      .ofFields status
        [("status", .text "error"),
          ("error",
            .record
              [("code", .text code), ("message", .text message), ("details", details),
                ("recovery", .text advice)])]

/-- The answer brings data. -/
def Response.Succeeds (response : Response) (status : Nat) : Prop :=
  ∃ data, response = .ofFields status [("status", .text "success"), ("data", data)]

namespace Verdict

/-- The condition on a body for a verdict. -/
def Fits (environment : Environment) (body : List UInt8) : Verdict → Prop
  | unreadable => readBody? body = none
  | invalid => readBody? body ≠ none ∧ ∀ request, ¬ Writes body request
  | misconfigured =>
    ∃ request, Writes body request ∧ request.unit = none ∧
      ∃ failure, Settings.ofEnvironment environment = .error failure
  | faulty kind =>
    ∃ request unit fault, Writes body request ∧
      AngleUnit.Resolved environment request.unit unit ∧
        evaluatePoints request.expression unit = .error (.failure (.fault fault)) ∧
          fault.kind = kind
  | valued =>
    ∃ request unit x, Writes body request ∧ AngleUnit.Resolved environment request.unit unit ∧
      evaluatePoints request.expression unit = .ok x

/-- The status of a verdict. -/
def status : Verdict → Nat
  | unreadable | faulty _ => 400
  | invalid => 422
  | misconfigured => 500
  | valued => 200

/-- The code of a verdict that is a refusal. -/
def code? : Verdict → Option String
  | unreadable => some "INVALID_INPUT"
  | invalid => some "PYDANTIC_VALIDATION_ERROR"
  | misconfigured => some "CONFIGURATION_ERROR"
  | faulty kind => some kind.code
  | valued => none

/-- The answer shows the verdict, by its status and by its code or its data. -/
def Shows (response : Response) (verdict : Verdict) : Prop :=
  match verdict.code? with
  | some code => response.Refuses verdict.status code
  | none => response.Succeeds verdict.status

/-! ### Answers show one verdict -/

def all : List Verdict :=
  [unreadable, invalid, misconfigured, faulty .form, faulty .domain, faulty .arithmetic, valued]

theorem mem_all (verdict : Verdict) : verdict ∈ all := by
  cases verdict with
  | faulty kind => cases kind <;> decide
  | unreadable | invalid | misconfigured | valued => decide

/-- No code, as it is written, is the start of another. -/
theorem eq_of_written_start : ∀ verdict ∈ all, ∀ other ∈ all, ∀ code ∈ verdict.code?,
    ∀ code' ∈ other.code?,
      (Json.stringText false code).toList <+: (Json.stringText false code').toList →
        verdict = other := by
  decide

theorem eq_of_code_start {verdict other : Verdict} {code code' : String}
    (hcode : verdict.code? = some code) (hcode' : other.code? = some code')
    (h : (Json.stringText false code).toList <+: (Json.stringText false code').toList) :
    verdict = other :=
  eq_of_written_start verdict (mem_all verdict) other (mem_all other) code
    (Option.mem_def.2 hcode) code' (Option.mem_def.2 hcode') h

end Verdict

/-! ### The start of a refusal -/

/-- What stands in front of the code of a refusal. -/
def opening : String :=
  "\x7b" ++ Json.compactField 1 ("status", .text "error") ++ "," ++
    Json.stringText false "error" ++ ":\x7b" ++ Json.stringText false "code" ++ ":"

/-- The code of a refusal comes right behind the opening. -/
theorem Response.Refuses.exists_rest {status : Nat} {code : String}
    (h : response.Refuses status code) :
    ∃ rest, response.body = opening ++ Json.stringText false code ++ rest := by
  obtain ⟨message, details, advice, rfl⟩ := h
  obtain ⟨inner, hinner⟩ := Json.exists_rest_of_record 1 ("code", .text code)
    ("message", .text message) [("details", details), ("recovery", .text advice)]
  obtain ⟨outer, houter⟩ := Json.exists_rest_of_record 0 ("status", .text "error")
    ("error", .record [("code", .text code), ("message", .text message), ("details", details),
      ("recovery", .text advice)]) []
  refine ⟨"," ++ Json.compactField 2 ("message", .text message) ++ inner ++ outer, ?_⟩
  show Json.writeAt .compact 0 _ = _
  rw [houter]
  simp only [Json.compactField, opening] at hinner ⊢
  rw [hinner]
  simp only [Json.writeAt, String.append_assoc]
  rfl

theorem Response.Refuses.status_eq {status : Nat} {code : String}
    (h : response.Refuses status code) : response.status = status := by
  obtain ⟨message, details, advice, rfl⟩ := h
  rfl

theorem Response.Succeeds.status_eq {status : Nat} (h : response.Succeeds status) :
    response.status = status := by
  obtain ⟨data, rfl⟩ := h
  rfl

namespace Verdict

variable {verdict other : Verdict}

theorem status_eq_of_shows (h : verdict.Shows response) : response.status = verdict.status := by
  unfold Shows at h
  split at h
  · exact h.status_eq
  · exact h.status_eq

/-- Refusals with one text are for one reason. -/
theorem eq_of_refuses {status status' : Nat} {code code' : String}
    (hcode : verdict.code? = some code) (hcode' : other.code? = some code')
    (h : response.Refuses status code) (h' : response.Refuses status' code') :
    verdict = other := by
  obtain ⟨rest, hrest⟩ := h.exists_rest
  obtain ⟨rest', hrest'⟩ := h'.exists_rest
  have hboth : (Json.stringText false code).toList ++ rest.toList =
      (Json.stringText false code').toList ++ rest'.toList := by
    have hbody := congrArg String.toList (hrest.symm.trans hrest')
    simpa only [String.toList_append, List.append_assoc, List.append_cancel_left_eq] using hbody
  -- both codes start one text, so the shorter starts the longer
  have hstart : (Json.stringText false code).toList <+:
      (Json.stringText false code').toList ++ rest'.toList := ⟨rest.toList, hboth⟩
  rcases List.prefix_or_prefix_of_prefix hstart (List.prefix_append _ _) with hstarts | hstarts
  · exact eq_of_code_start hcode hcode' hstarts
  · exact (eq_of_code_start hcode' hcode hstarts).symm

theorem status_ne_of_code? {code : String} (h : verdict.code? = some code) :
    verdict.status ≠ valued.status := by
  cases verdict with
  | valued => cases h
  | unreadable | invalid | misconfigured | faulty kind =>
      simp only [status]
      omega

theorem eq_valued_of_code? (h : verdict.code? = none) : verdict = valued := by
  cases verdict with
  | valued => rfl
  | unreadable | invalid | misconfigured | faulty => cases h

/-- **An answer shows one verdict.** -/
theorem Shows.eq (h : verdict.Shows response) (h' : other.Shows response) : verdict = other := by
  have hstatus : verdict.status = other.status :=
    (status_eq_of_shows h).symm.trans (status_eq_of_shows h')
  cases hcode : verdict.code? with
  | some code =>
      cases hcode' : other.code? with
      | some code' =>
          simp only [Shows, hcode] at h
          simp only [Shows, hcode'] at h'
          exact eq_of_refuses hcode hcode' h h'
      | none =>
          rw [eq_valued_of_code? hcode'] at hstatus
          exact absurd hstatus (status_ne_of_code? hcode)
  | none =>
      cases hcode' : other.code? with
      | some code' =>
          rw [eq_valued_of_code? hcode] at hstatus
          exact absurd hstatus.symm (status_ne_of_code? hcode')
      | none => rw [eq_valued_of_code? hcode, eq_valued_of_code? hcode']

end Verdict

/-! ### Answers to a body -/

/-- A failure is refused with its status and its code. -/
theorem refuses_ofFields (failure : Failure) :
    (Response.ofFields failure.status failure.webFields).Refuses failure.status failure.code :=
  ⟨failure.message, failure.details, failure.advice, rfl⟩

/-- **The verdict that fits is shown.** -/
theorem shows_of_fits {verdict : Verdict} (h : verdict.Fits environment body)
    (words : List UInt8 → String) :
    ∃ response, evaluate (Settings.ofEnvironment environment) words body = .ok response ∧
      verdict.Shows response := by
  cases verdict with
  | unreadable =>
      rw [evaluate_of_unreadable h, refuse_ofFailure]
      exact ⟨_, rfl, refuses_ofFields (.refusal (.bodyNotJson (words body)))⟩
  | invalid =>
      obtain ⟨hbody, hnone⟩ := h
      obtain ⟨datum, hdatum⟩ := Option.ne_none_iff_exists'.1 hbody
      cases hrequest : EvaluateRequest.ofDatum datum with
      | ok request =>
          have hconforms := EvaluateRequest.ofDatum_eq_ok_iff.1 hrequest
          exact absurd ⟨datum, hdatum, hconforms⟩ (hnone request)
      | error problems =>
          rw [evaluate_of_problems hdatum hrequest, refuse, json_eq_ok]
          exact ⟨_, rfl, _, _, _, rfl⟩
  | misconfigured =>
      obtain ⟨request, hrequest, hunit, failure, hsettings⟩ := h
      obtain ⟨field, hfield, hgiven⟩ := exists_field_of_writes hrequest
      obtain ⟨cause, rfl⟩ := Settings.exists_cause_of_ofEnvironment hsettings
      have hresolve := AngleUnit.resolve_eq_error_iff.2 ⟨hfield.trans hunit, hsettings⟩
      rw [← hgiven] at hresolve
      have hstop := ExpressionTools.evaluatePoints_of_not_resolved hresolve request.expression
      exact ⟨_, evaluate_of_failure hrequest hstop, refuses_ofFields (.misconfiguration cause)⟩
  | faulty kind =>
      obtain ⟨request, unit, fault, hrequest, hunit, hvalue, rfl⟩ := h
      have hstop := ExpressionTools.evaluatePoints_of_stop (resolve_given hrequest hunit) hvalue
      exact ⟨_, evaluate_of_failure hrequest hstop, refuses_ofFields (.fault fault)⟩
  | valued =>
      obtain ⟨request, unit, x, hrequest, hunit, hvalue⟩ := h
      obtain ⟨outcome, houtcome⟩ :=
        ExpressionTools.exists_outcome_of_evaluatePoints (resolve_given hrequest hunit) hvalue
      exact ⟨_, evaluate_of_outcome hrequest houtcome, _, rfl⟩

/-- **Some verdict fits,** or there is no answer. -/
theorem fits_or_unanswerable (environment : Environment) (body : List UInt8) :
    (∃ verdict : Verdict, verdict.Fits environment body) ∨ Unanswerable environment body := by
  by_cases hbody : readBody? body = none
  · exact Or.inl ⟨.unreadable, hbody⟩
  by_cases hrequest : ∃ request, Writes body request
  · obtain ⟨request, hrequest⟩ := hrequest
    obtain ⟨field, hfield, -⟩ := exists_field_of_writes hrequest
    cases hresolve : AngleUnit.resolve (Settings.ofEnvironment environment) field.value with
    | error failure =>
        obtain ⟨hnone, hsettings⟩ := AngleUnit.resolve_eq_error_iff.1 hresolve
        exact Or.inl ⟨.misconfigured, request, hrequest, hfield ▸ hnone, failure, hsettings⟩
    | ok unit =>
        have hunit := AngleUnit.resolve_eq_ok_iff.1 hresolve
        rw [hfield] at hunit
        cases hvalue : evaluatePoints request.expression unit with
        | ok x => exact Or.inl ⟨.valued, request, unit, x, hrequest, hunit, hvalue⟩
        | error stop =>
            rcases evaluatePoints_error_cases hvalue with ⟨fault, rfl⟩ | ⟨half, position, rfl⟩
            · exact Or.inl ⟨.faulty fault.kind, request, unit, fault, hrequest, hunit, hvalue, rfl⟩
            · have hstops := exists_evaluatePoints_eq_half_iff.1 ⟨half, position, hvalue⟩
              exact Or.inr ⟨request, unit, hrequest, hunit, hstops⟩
  · exact Or.inl ⟨.invalid, hbody, not_exists.1 hrequest⟩

/-- Where there is no answer, no verdict fits. -/
theorem not_fits_of_unanswerable (h : Unanswerable environment body) (verdict : Verdict) :
    ¬ verdict.Fits environment body := by
  intro hfits
  obtain ⟨response, hresponse, -⟩ := shows_of_fits hfits fun _ => ""
  obtain ⟨cause, hcause⟩ := exists_evaluate_eq_error_of_unanswerable h fun _ => ""
  rw [hresponse] at hcause
  cases hcause

/-- **No answer** comes only of an expression that stops at a half. -/
theorem exists_evaluate_eq_error_iff (environment : Environment) (words : List UInt8 → String)
    (body : List UInt8) :
    (∃ cause, evaluate (Settings.ofEnvironment environment) words body = .error cause) ↔
      Unanswerable environment body := by
  refine ⟨?_, fun h => exists_evaluate_eq_error_of_unanswerable h words⟩
  rintro ⟨cause, hcause⟩
  rcases fits_or_unanswerable environment body with ⟨verdict, hfits⟩ | hunanswerable
  · obtain ⟨response, hresponse, -⟩ := shows_of_fits hfits words
    rw [hresponse] at hcause
    cases hcause
  · exact hunanswerable

/-- **The status of an answer.** An answer shows a verdict exactly if it fits the body.
There is none exactly if the body writes an expression that stops at a half, with a unit to
be found for it; exactly one verdict fits any other body. -/
theorem respond_shows_iff_fits (environment : Environment) (words : List UInt8 → String)
    (body : List UInt8) :
    let answer := respond (Settings.ofEnvironment environment) words "POST" "/evaluate" body
    (∀ verdict : Verdict,
      (∃ response, answer = .ok response ∧ verdict.Shows response) ↔
        verdict.Fits environment body) ∧
      ((∃ cause, answer = .error cause) ↔ Unanswerable environment body) ∧
        ((∃! verdict : Verdict, verdict.Fits environment body) ↔
          ¬ Unanswerable environment body) := by
  intro answer
  have hnone := exists_evaluate_eq_error_iff environment words body
  have hshown : ∀ {verdict : Verdict}, verdict.Fits environment body →
      ∃ response, answer = .ok response ∧ verdict.Shows response :=
    fun hfits => shows_of_fits hfits words
  -- one answer shows one verdict, so what fits and what is shown are the same
  have heq : ∀ {verdict other : Verdict} {response : Response}, verdict.Fits environment body →
      answer = .ok response → other.Shows response → other = verdict := by
    intro verdict other response hfits hresponse hother
    obtain ⟨shown, hanswer, hshows⟩ := hshown hfits
    obtain rfl : shown = response := Except.ok.inj (hanswer.symm.trans hresponse)
    exact hother.eq hshows
  refine ⟨fun verdict => ⟨?_, hshown⟩, hnone, ?_, fun hanswerable => ?_⟩
  · rintro ⟨response, hresponse, hshows⟩
    rcases fits_or_unanswerable environment body with ⟨other, hfits⟩ | hunanswerable
    · rw [heq hfits hresponse hshows]
      exact hfits
    · obtain ⟨cause, hcause⟩ := hnone.2 hunanswerable
      cases hresponse.symm.trans hcause
  · rintro ⟨verdict, hfits, -⟩ hunanswerable
    exact not_fits_of_unanswerable hunanswerable verdict hfits
  · obtain ⟨verdict, hfits⟩ := (fits_or_unanswerable environment body).resolve_right hanswerable
    refine ⟨verdict, hfits, fun other hother => ?_⟩
    obtain ⟨response, hresponse, hshows⟩ := hshown hother
    exact heq hfits hresponse hshows

/-- An expression that has a fault of its form, and no answer that tells it. -/
theorem not_answered_loneHalf :
    Writes loneHalf ⟨[.half 0], none⟩ ∧
      (∃ stop, evaluatePoints [.half 0] .degrees = .error stop ∧
        stop.category.code = "SYNTAX_ERROR" ∧ stop.category.status = 400) ∧
      respond (Settings.ofEnvironment fun _ => none) (fun _ => "") "POST" "/evaluate" loneHalf =
        .error { half := 0, position := 159, count := 1 } := by
  refine ⟨writes_loneHalf, ⟨_, evaluatePoints_loneHalf .degrees, rfl, rfl⟩, ?_⟩
  rw [respond_evaluate, evaluate_loneHalf]
  decide +kernel

end Calculator.WebServer
