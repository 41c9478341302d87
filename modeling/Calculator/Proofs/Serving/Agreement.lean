import Calculator.Proofs.Serving.Calls

/-!
# All ways of asking agree

The value of an expression can be asked for directly, from the tool, in a call to the
tool server, and over the web.  Whatever the expression, the unit and the environment, the
four come to the same: the same result, or the same failure, told with the same code,
message, details and advice.  One thing cannot be told over the web, that an expression in
a body stops at a half.

All four come down to one evaluation.  The tool takes the expression and the unit out of
its arguments, and a call hands the arguments on (`call_evaluate`); the server takes the
same out of any body that writes the same request, and tells what the tool comes to
(`respond_of_outcome`, `respond_of_failure`).  What the evaluation comes to depends on the unit found: a value, with the order that the tool for
it gives (`exists_order_of_evaluate`), or the failure of the settings or of the expression
(`failure_cases_of_evaluate`).

There is a body for every request: the text of its record, which is read back
(`writes_requestBody`).
-/

namespace Calculator

open Calculator.Text

variable {environment : Environment} {settings : Except Failure Settings}
  {arguments : Fields Value} {expression : String} {field : UnitField} {outcome : Outcome}
  {failure : Failure}

/-! ### Bodies -/

/-- A request as a record. -/
def requestFields (expression : String) (field : UnitField) : Fields Value :=
  ("expression", .text expression) :: field.value?.toList.map fun value => ("angle_mode", value)

/-- A request as a body. -/
def requestBody (expression : String) (field : UnitField) : List UInt8 :=
  Json.bytes (Json.write .compact (.record (requestFields expression field)))

theorem asks_requestFields (expression : String) (field : UnitField) :
    Asks (requestFields expression field) expression field := by
  cases field with
  | absent | empty | named => exact ⟨rfl, rfl⟩

theorem nodup_requestFields (expression : String) (field : UnitField) :
    (requestFields expression field).names.Nodup := by
  cases field with
  | absent => exact (show ["expression"].Nodup by decide)
  | empty | named => exact (show ["expression", "angle_mode"].Nodup by decide)

theorem plain_requestFields (expression : String) (field : UnitField) :
    Json.Plain (.record (requestFields expression field)) := by
  have hexpression := Json.Plain.text expression
  refine .record ?_
  cases field with
  | absent => exact List.forall_mem_singleton.2 hexpression
  | empty => exact List.forall_mem_cons.2 ⟨hexpression, List.forall_mem_singleton.2 .null⟩
  | named unit =>
      exact List.forall_mem_cons.2 ⟨hexpression, List.forall_mem_singleton.2 (.text unit.name)⟩

/-- The fields of a request as the server comes to them. -/
def readFields (expression : String) (field : UnitField) : Fields Json.Datum :=
  (requestFields expression field).map fun (name, value) => (name, .ofValue value)

theorem asksOnly_readFields (expression : String) (field : UnitField) :
    WebServer.AsksOnly (readFields expression field) (Text.points expression) field := by
  cases field with
  | absent | empty | named =>
      exact ⟨rfl, rfl, by simp [readFields, requestFields, UnitField.value?, Fields.names]⟩

/-- **Every request has a body.** -/
theorem writes_requestBody (expression : String) (field : UnitField) :
    WebServer.Writes (requestBody expression field) ⟨Text.points expression, field.unit?⟩ := by
  have hnames : (readFields expression field).names.Nodup := by
    simpa [readFields, Fields.names, Function.comp_def] using nodup_requestFields expression field
  refine ⟨_, Json.readBody?_write (plain_requestFields expression field),
    (readFields expression field).map Json.Datum.written, _, field, ?_,
    Json.Datum.fields?_map_written hnames, asksOnly_readFields expression field, rfl⟩
  rw [Json.Datum.ofValue, Json.Datum.ofFields_eq_map, readFields, List.map_map]
  rfl

/-! ### Answers -/

/-- Arguments that ask for something count as given. -/
theorem taken_of_asks (h : Asks arguments expression field) :
    ToolServer.taken (.record arguments) = .record arguments := by
  have hgiven : (Value.record arguments).isGiven = true := by
    cases arguments with
    | nil => cases h.expression_field
    | cons => rfl
  rw [ToolServer.taken, if_pos hgiven]

theorem call_evaluate (h : Asks arguments expression field) :
    ToolServer.call .installed settings "calc_evaluate" (.record arguments) =
      match ExpressionTools.evaluate settings (some expression) field.value with
      | .ok outcome => [Json.write .indented (.record outcome.toFields)]
      | .error failure => [Json.write .indented (.record failure.toolFields)] := by
  have htool : "calc_evaluate" ∈ ExpressionTools.tools.map Tool.name := by decide
  rw [ToolServer.call, ToolServer.answer_of_mem htool, taken_of_asks h,
    ExpressionTools.handle_evaluate h]
  cases houtcome : ExpressionTools.evaluate settings (some expression) field.value with
  | error failure => rfl
  | ok outcome =>
      have htype : outcome.itemType ≠ "object" := by
        obtain ⟨_, _, _, _, -, -, -, rfl⟩ := ExpressionTools.evaluate_eq_ok_iff.1 houtcome
        show "float64" ≠ "object"
        decide
      simp only [if_neg htype]

theorem respond_of_outcome {body : List UInt8} {text : List Point}
    (hbody : WebServer.Writes body ⟨text, field.unit?⟩)
    (h : ExpressionTools.evaluatePoints settings text field.value = .ok outcome)
    (words : List UInt8 → String) :
    WebServer.respond settings words "POST" "/evaluate" body =
      .ok (.ofFields 200 [("status", .text "success"), ("data", .record outcome.toFields)]) := by
  rw [← WebServer.EvaluateRequest.given_mk text field] at h
  exact WebServer.evaluate_of_outcome hbody h

theorem respond_of_failure {body : List UInt8} {text : List Point}
    (hbody : WebServer.Writes body ⟨text, field.unit?⟩)
    (h : ExpressionTools.evaluatePoints settings text field.value = .error (.failure failure))
    (words : List UInt8 → String) :
    WebServer.respond settings words "POST" "/evaluate" body =
      .ok (.ofFields failure.status failure.webFields) := by
  rw [← WebServer.EvaluateRequest.given_mk text field] at h
  exact WebServer.evaluate_of_failure hbody h

/-- The server has no answer if there is a unit, and the expression stops at a half. -/
theorem exists_respond_eq_error_iff {body : List UInt8} {text : List Point}
    (hbody : WebServer.Writes body ⟨text, field.unit?⟩) (words : List UInt8 → String) :
    (∃ cause, WebServer.respond (Settings.ofEnvironment environment) words "POST" "/evaluate" body =
        .error cause) ↔
      (∃ unit, AngleUnit.Resolved environment field.unit? unit) ∧ StopsAtHalf text := by
  refine (WebServer.exists_evaluate_eq_error_iff environment words body).trans ⟨?_, ?_⟩
  · rintro ⟨request, unit, hrequest, hunit, hstops⟩
    obtain rfl := WebServer.eq_of_writes hrequest hbody
    exact ⟨⟨unit, hunit⟩, hstops⟩
  · rintro ⟨⟨unit, hunit⟩, hstops⟩
    exact ⟨_, unit, hbody, hunit, hstops⟩

/-- The order that is told with a value is what the tool for it gives. -/
theorem exists_order_of_evaluate (h : Asks arguments expression field)
    (houtcome : ExpressionTools.evaluate (Settings.ofEnvironment environment) (some expression)
      field.value = .ok outcome) :
    ∃ unit x listing, AngleUnit.Resolved environment field.unit? unit ∧
      evaluate (some expression) unit = .ok x ∧
      ExpressionTools.handle (Settings.ofEnvironment environment) "calc_to_postfix"
        (.record arguments) = .ok listing ∧
      outcome.result =
        .record
          [("value", .ofNumber x), ("is_finite", .truth x.isFinite),
            ("angle_mode", .text unit.label), ("postfix", listing.result)] := by
  obtain ⟨unit, tokens, ordered, x, hunit, hread, hx, rfl⟩ :=
    ExpressionTools.evaluate_eq_ok_iff.1 houtcome
  obtain ⟨htokens, hordered⟩ := Trace.read_eq_ok_iff.1 hread
  have hvalue : evaluate (some expression) unit = .ok x := by
    rw [evaluate_eq_read, hread]
    exact hx
  exact ⟨unit, x, _, AngleUnit.resolve_eq_ok_iff.1 hunit, hvalue,
    ExpressionTools.handle_toPostfix h (tokenize_of_read htokens) hordered, rfl⟩

/-- A failure is that of the settings, or a fault of the expression. -/
theorem failure_cases_of_evaluate
    (h : ExpressionTools.evaluate (Settings.ofEnvironment environment) (some expression)
      field.value = .error failure) :
    (field.unit? = none ∧ Settings.ofEnvironment environment = .error failure) ∨
      ∃ unit fault, AngleUnit.Resolved environment field.unit? unit ∧
        evaluate (some expression) unit = .error (.fault fault) ∧ failure = .fault fault := by
  rcases bind_eq_error_iff.1 h with hunit | ⟨unit, hunit, hrest⟩
  · exact Or.inl (AngleUnit.resolve_eq_error_iff.1 hunit)
  · rcases bind_eq_error_iff.1 hrest with htrace | ⟨trace, -, hok⟩
    · obtain ⟨fault, rfl, -⟩ := failsOnly_ofExpression _ _ failure htrace
      have hvalue : evaluate (some expression) unit = .error (.fault fault) :=
        bind_eq_error_iff.2 (Or.inl htrace)
      exact Or.inr ⟨unit, fault, AngleUnit.resolve_eq_ok_iff.1 hunit, hvalue, rfl⟩
    · cases hok

/-- **All ways of asking agree.** For every expression, every way of giving the unit and
every environment there are arguments and a body that ask; and whatever arguments and body
ask for the same, a result is told alike by all, with the value under the unit found and the
order that the tool gives, and so is a failure.  Without a unit given, settings that cannot
be had are the failure.  A body may also ask for the value of an expression with halves: then
the server tells what the tool comes to, unless that is a stop at a half. -/
theorem surfaces_agree (environment : Environment) (expression : String) (field : UnitField)
    (words : List UInt8 → String) :
    let settings := Settings.ofEnvironment environment
    ∃ registry, Registry.empty.install = .ok registry ∧
      (∃ arguments body, Asks arguments expression field ∧
        WebServer.Writes body ⟨points expression, field.unit?⟩) ∧
      (∀ arguments body, Asks arguments expression field →
        WebServer.Writes body ⟨points expression, field.unit?⟩ →
          let answer := ExpressionTools.evaluate settings (some expression) field.value
          ExpressionTools.handle settings "calc_evaluate" (.record arguments) = answer ∧
          (∀ outcome, answer = .ok outcome →
            ToolServer.call registry settings "calc_evaluate" (.record arguments) =
              [Json.write .indented (.record outcome.toFields)] ∧
            WebServer.respond settings words "POST" "/evaluate" body =
              .ok (.ofFields 200
                [("status", .text "success"), ("data", .record outcome.toFields)]) ∧
            ∃ unit x listing, AngleUnit.Resolved environment field.unit? unit ∧
              evaluate (some expression) unit = .ok x ∧
              ExpressionTools.handle settings "calc_to_postfix" (.record arguments) =
                .ok listing ∧
              outcome.result =
                .record
                  [("value", .ofNumber x), ("is_finite", .truth x.isFinite),
                    ("angle_mode", .text unit.label), ("postfix", listing.result)] ∧
              (x.isFinite = false ↔ ∃ word, Value.ofNumber x = .text word)) ∧
          (∀ failure, answer = .error failure →
            ToolServer.call registry settings "calc_evaluate" (.record arguments) =
              [Json.write .indented (.record failure.toolFields)] ∧
            WebServer.respond settings words "POST" "/evaluate" body =
              .ok (.ofFields failure.status failure.webFields) ∧
            ((field.unit? = none ∧ settings = .error failure) ∨
              ∃ unit fault, AngleUnit.Resolved environment field.unit? unit ∧
                evaluate (some expression) unit = .error (.fault fault) ∧
                  failure = .fault fault)) ∧
          ∀ failure, field.unit? = none → settings = .error failure →
            answer = .error failure ∧ failure.code = "CONFIGURATION_ERROR") ∧
      ∀ text body, WebServer.Writes body ⟨text, field.unit?⟩ →
        let answer := ExpressionTools.evaluatePoints settings text field.value
        let told := WebServer.respond settings words "POST" "/evaluate" body
        (∀ outcome, answer = .ok outcome →
          told =
            .ok (.ofFields 200
              [("status", .text "success"), ("data", .record outcome.toFields)])) ∧
        (∀ failure, answer = .error (.failure failure) →
          told = .ok (.ofFields failure.status failure.webFields)) ∧
        ((∃ cause, told = .error cause) ↔
          (∃ unit, AngleUnit.Resolved environment field.unit? unit) ∧ StopsAtHalf text) := by
  have hbody := writes_requestBody expression field
  refine ⟨.installed, Registry.install_empty, ⟨_, _, asks_requestFields expression field, hbody⟩,
    fun arguments body hasks hwrites => ?_, fun text body hwrites => ?_⟩
  · refine ⟨ExpressionTools.handle_evaluate hasks, fun outcome houtcome => ?_,
      fun failure hfailure => ?_, fun failure hfield hsettings => ?_⟩
    · refine ⟨?_, respond_of_outcome hwrites (by simpa using houtcome) words, ?_⟩
      · rw [call_evaluate hasks, houtcome]
      · obtain ⟨unit, x, listing, hunit, hvalue, hlisting, hresult⟩ :=
          exists_order_of_evaluate hasks houtcome
        exact ⟨unit, x, listing, hunit, hvalue, hlisting, hresult, isFinite_eq_false_iff⟩
    · refine ⟨?_, respond_of_failure hwrites (by simpa using hfailure) words,
        failure_cases_of_evaluate hfailure⟩
      rw [call_evaluate hasks, hfailure]
    · obtain ⟨cause, rfl⟩ := Settings.exists_cause_of_ofEnvironment hsettings
      have hunit := AngleUnit.resolve_eq_error_iff.2 ⟨hfield, hsettings⟩
      exact ⟨ExpressionTools.evaluate_of_not_resolved hunit, rfl⟩
  · exact ⟨fun outcome houtcome => respond_of_outcome hwrites houtcome words,
      fun failure hfailure => respond_of_failure hwrites hfailure words,
      exists_respond_eq_error_iff hwrites words⟩

/-- An expression with the failure of a syntax error, which the server does not tell. -/
theorem not_told_loneHalf :
    WebServer.Writes WebServer.loneHalf ⟨[.half 0], none⟩ ∧
      (∃ stop, ExpressionTools.evaluatePoints (Settings.ofEnvironment fun _ => none) [.half 0]
          .null = .error stop ∧
        stop.category.code = "SYNTAX_ERROR") ∧
      ∀ response, WebServer.respond (Settings.ofEnvironment fun _ => none) (fun _ => "") "POST"
        "/evaluate" WebServer.loneHalf ≠ .ok response := by
  refine ⟨WebServer.writes_loneHalf, ⟨_, WebServer.evaluatePoints_loneHalf_of_empty, rfl⟩, ?_⟩
  intro response hresponse
  obtain ⟨cause, hcause⟩ := WebServer.exists_render_half_eq_error 400 0 0
  have hnone := (WebServer.evaluate_loneHalf fun _ => "").trans hcause
  cases hresponse.symm.trans hnone

end Calculator
