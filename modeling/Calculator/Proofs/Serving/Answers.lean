import Calculator.Proofs.Json.Halves
import Calculator.Proofs.Json.RoundTrip
import Calculator.Proofs.Serving.Points
import Calculator.Proofs.Serving.Reports

/-!
# Answers over the web

An answer that tells a value has a body, the text of the value (`json_eq_ok`).  So has one
that tells a failure.  What is to be told of a half holds the half itself, though, and so
there is no answer (`exists_render_half_eq_error`).

The rest follows the server through a body, case by case: what it comes to depends on
whether the body is read, whether it writes a request, whether there is a unit and what
the expression comes to under it.
-/

namespace Calculator.WebServer

open Calculator.Text Calculator.Json

variable {settings : Except Failure Settings} {words : List UInt8 → String} {body : List UInt8}
  {request : EvaluateRequest} {field : UnitField}

/-! ### Answers -/

/-- The answer that tells a record. -/
def Response.ofFields (status : Nat) (fields : Fields Value) : Response where
  status := status
  body := Json.write .compact (.record fields)

theorem render_ofValue (status : Nat) (value : Value) :
    render status (.ofValue value) = .ok { status, body := Json.write .compact value } := by
  rw [render, Datum.write, Datum.writeAt_ofValue, encoded_points]
  rfl

theorem json_eq_ok (status : Nat) (fields : Fields Value) :
    json status fields = .ok (.ofFields status fields) :=
  render_ofValue status (.record fields)

theorem refuse_ofFailure (failure : Failure) :
    refuse (Report.ofFailure failure) = .ok (.ofFields failure.status failure.webFields) := by
  rw [refuse, Report.status_ofFailure, Report.toWebFields_ofFailure, json_eq_ok]

/-- A failure is told by its report. -/
theorem toWebDatum_failure (failure : Failure) :
    (Stop.failure failure).toWebDatum =
      .ofValue (.record (Report.ofFailure failure).toWebFields) := by
  have hmessage : (Stop.failure failure).message = (Report.ofFailure failure).message :=
    (Report.message_ofFailure failure).symm
  rw [Stop.toWebDatum, hmessage]
  simp only [Report.toWebFields, Datum.ofValue, Datum.ofFields]
  rfl

theorem render_failure (failure : Failure) :
    render (Stop.failure failure).category.status (Stop.failure failure).toWebDatum =
      .ok (.ofFields failure.status failure.webFields) := by
  rw [toWebDatum_failure, ← refuse_ofFailure]
  rfl

/-- **A half cannot be told.** -/
theorem exists_render_half_eq_error (status : Nat) (half : Half) (position : Nat) :
    ∃ cause, render status (Stop.half half position).toWebDatum = .error cause := by
  have htext : Point.half half ∈ Datum.writeAt .compact 3 (.text [.half half]) := by
    rw [Datum.writeAt]
    exact List.mem_append_left _ (List.mem_cons_of_mem _ (List.mem_cons_self ..))
  have hdetails : Point.half half ∈
      Datum.writeAt .compact 2 (Stop.half half position).details :=
    Datum.mem_writeAt_of_field (List.mem_append_right _ (List.mem_cons_self ..)) htext
  have hwritten : Point.half half ∈ (Stop.half half position).toWebDatum.write .compact := by
    refine Datum.mem_writeAt_of_field (List.mem_cons_of_mem _ (List.mem_cons_self ..)) ?_
    exact Datum.mem_writeAt_of_field
      (List.mem_cons_of_mem _ (List.mem_cons_of_mem _ (List.mem_cons_self ..))) hdetails
  obtain ⟨cause, hcause⟩ := exists_encoded_eq_error hwritten
  exact ⟨cause, by rw [render, hcause]; rfl⟩

/-! ### What a body comes to -/

/-- The body writes a request. -/
def Writes (body : List UInt8) (request : EvaluateRequest) : Prop :=
  ∃ datum, readBody? body = some datum ∧ request.Conforms datum

theorem eq_of_writes {other : EvaluateRequest} (h : Writes body request) (h' : Writes body other) :
    request = other := by
  obtain ⟨datum, hdatum, hconforms⟩ := h
  obtain ⟨datum', hdatum', hconforms'⟩ := h'
  obtain rfl := Option.some.inj (hdatum.symm.trans hdatum')
  have hrequest := EvaluateRequest.ofDatum_eq_ok_iff.2 hconforms
  exact Except.ok.inj (hrequest.symm.trans (EvaluateRequest.ofDatum_eq_ok_iff.2 hconforms'))

/-- The unit that a request gives stands in a field. -/
theorem exists_field_of_writes (h : Writes body request) :
    ∃ field : UnitField, field.unit? = request.unit ∧ request.given = field.value := by
  obtain ⟨datum, -, written, fields, field, -, -, -, hfield⟩ := h
  exact ⟨field, hfield, EvaluateRequest.given_eq hfield⟩

/-- The unit for a request is found where it is to be taken from. -/
theorem resolve_given {environment : Environment} {unit : AngleUnit} (h : Writes body request)
    (hunit : AngleUnit.Resolved environment request.unit unit) :
    AngleUnit.resolve (Settings.ofEnvironment environment) request.given = .ok unit := by
  obtain ⟨field, hfield, hgiven⟩ := exists_field_of_writes h
  rw [hgiven]
  exact AngleUnit.resolve_eq_ok_iff.2 (hfield ▸ hunit)

theorem evaluate_of_unreadable (h : readBody? body = none) :
    evaluate settings words body =
      refuse (Report.ofFailure (.refusal (.bodyNotJson (words body)))) := by
  simp only [evaluate, h]

theorem evaluate_of_problems {datum : Datum} {problems : List SchemaProblem}
    (hbody : readBody? body = some datum)
    (hdatum : EvaluateRequest.ofDatum datum = .error problems) :
    evaluate settings words body = refuse (Report.validation problems) := by
  simp only [evaluate, hbody, hdatum]

theorem evaluate_of_writes (h : Writes body request) :
    evaluate settings words body =
      match ExpressionTools.evaluatePoints settings request.expression request.given with
      | .error stop => render stop.category.status stop.toWebDatum
      | .ok outcome =>
        json 200 [("status", .text "success"), ("data", .record outcome.toFields)] := by
  obtain ⟨datum, hdatum, hconforms⟩ := h
  have hrequest := EvaluateRequest.ofDatum_eq_ok_iff.2 hconforms
  cases hvalue : ExpressionTools.evaluatePoints settings request.expression request.given with
  | error stop => simp only [evaluate, hdatum, hrequest, hvalue]
  | ok outcome => simp only [evaluate, hdatum, hrequest, hvalue]

theorem evaluate_of_failure {failure : Failure} (hbody : Writes body request)
    (h : ExpressionTools.evaluatePoints settings request.expression request.given =
      .error (.failure failure)) :
    evaluate settings words body = .ok (.ofFields failure.status failure.webFields) := by
  rw [evaluate_of_writes hbody, h]
  exact render_failure failure

theorem exists_evaluate_eq_error {half : Half} {position : Nat} (hbody : Writes body request)
    (h : ExpressionTools.evaluatePoints settings request.expression request.given =
      .error (.half half position)) :
    ∃ cause, evaluate settings words body = .error cause := by
  rw [evaluate_of_writes hbody, h]
  exact exists_render_half_eq_error _ half position

theorem evaluate_of_outcome {outcome : Outcome} (hbody : Writes body request)
    (h : ExpressionTools.evaluatePoints settings request.expression request.given = .ok outcome) :
    evaluate settings words body =
      .ok (.ofFields 200 [("status", .text "success"), ("data", .record outcome.toFields)]) := by
  rw [evaluate_of_writes hbody, h]
  exact json_eq_ok 200 _

/-- The body writes a request for which there is a unit, but whose expression stops at a
half. -/
def Unanswerable (environment : Environment) (body : List UInt8) : Prop :=
  ∃ request unit, Writes body request ∧ AngleUnit.Resolved environment request.unit unit ∧
    StopsAtHalf request.expression

/-- **Such a body has no answer.** -/
theorem exists_evaluate_eq_error_of_unanswerable {environment : Environment}
    (h : Unanswerable environment body) (words : List UInt8 → String) :
    ∃ cause, evaluate (Settings.ofEnvironment environment) words body = .error cause := by
  obtain ⟨request, unit, hrequest, hunit, hstops⟩ := h
  obtain ⟨half, position, hhalf⟩ := exists_evaluatePoints_eq_half_iff.2 hstops
  exact exists_evaluate_eq_error hrequest
    (ExpressionTools.evaluatePoints_of_stop (resolve_given hrequest hunit) hhalf)

/-! ### A half on its own -/

/-- A body that asks for the value of the escape of a half. -/
def loneHalf : List UInt8 :=
  bytes "\x7b\x22expression\x22:\x22\\ud800\x22\x7d"

theorem readBody?_loneHalf :
    readBody? loneHalf = some (.record [(points "expression", .text [.half 0])]) := by
  have hstart : ∃ rest, loneHalf = 0x7b :: 0x22 :: rest := ⟨_, rfl⟩
  obtain ⟨rest, hrest⟩ := hstart
  rw [readBody?, loneHalf, points?_bytes hrest]
  rfl

theorem writes_loneHalf : Writes loneHalf ⟨[.half 0], none⟩ := by
  refine ⟨_, readBody?_loneHalf, _, [("expression", .text [.half 0])], .absent, rfl, rfl, ?_, rfl⟩
  exact ⟨rfl, rfl, by simp [Fields.names]⟩

theorem evaluatePoints_loneHalf (unit : AngleUnit) :
    evaluatePoints [.half 0] unit = .error (.half 0 0) := by
  have hfront : lexemes (some (String.ofList [])) = .ok [] := by
    show Lexeme.readFrom 0 [] = .ok []
    rw [Lexeme.readFrom]
  show Except.error (Stop.behind [] 0) = _
  rw [Stop.behind, hfront]
  rfl

/-- What the tool comes to without settings. -/
theorem evaluatePoints_loneHalf_of_empty :
    ExpressionTools.evaluatePoints (Settings.ofEnvironment fun _ => none) [.half 0] .null =
      .error (.half 0 0) := by
  have hresolve : AngleUnit.resolve (Settings.ofEnvironment fun _ => none) .null =
      .ok .degrees := rfl
  exact ExpressionTools.evaluatePoints_of_stop hresolve (evaluatePoints_loneHalf .degrees)

theorem evaluate_loneHalf (words : List UInt8 → String) :
    evaluate (Settings.ofEnvironment fun _ => none) words loneHalf =
      render 400 (Stop.half 0 0).toWebDatum := by
  have hgiven : EvaluateRequest.given ⟨[.half 0], none⟩ = .null := rfl
  rw [evaluate_of_writes writes_loneHalf, hgiven, evaluatePoints_loneHalf_of_empty]
  rfl

end Calculator.WebServer
