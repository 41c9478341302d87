import Calculator.Proofs.Registering.Consistency
import Calculator.Proofs.Serving.Statuses
import Calculator.Proofs.Serving.Strict
import Calculator.Service.ToolServer

/-!
# Calls of tools

A call is answered by one text, whatever the tool and its arguments are.  `Answers` says
what is written in it, case by case: the server's own answer, the refusal of a tool that
it does not have, what the tool comes to, or what it fails with.

The failures of tools are listed by `Raises`.  Arguments may be unfit to begin with
(`Unfit`), which every tool that needs an expression tells; then the unit may be
missed, and last the expression may have a fault.  Only arguments that are no record are
not prepared for, which is why only they have the code of an internal error.

What is written, to tool clients or over the web, is strict in every case.  An answer over the
web has to be encoded as well, which fails for expressions that stop at a half and for no
others (`WebServer.Unanswerable`).
-/

namespace Calculator

variable {environment : Environment} {settings : Except Failure Settings} {failure : Failure}
  {tool : String} {arguments : Value} {outcome : Outcome}

/-! ### The registry -/

namespace Registry

/-- The registry with the one capability that there is. -/
def installed : Registry where
  capabilities := [(ExpressionTools.capability.name, ExpressionTools.capability)]
  owners := ExpressionTools.tools.map (·.name, ExpressionTools.capability.name)
  tools := ExpressionTools.tools.map fun tool => (tool.name, tool)

theorem install_empty : empty.install = .ok installed :=
  rfl

theorem has_installed : installed.has tool = true ↔ tool ∈ ExpressionTools.tools.map Tool.name := by
  unfold has Fields.has installed
  simp

theorem offers_installed (htool : tool ∈ ExpressionTools.tools.map Tool.name) :
    installed.Offers ExpressionTools.capability tool := by
  have hextended : installed = empty.extended ExpressionTools.capability := rfl
  rw [hextended]
  exact offers_extended htool

end Registry

/-! ### What tools fail with -/

namespace ExpressionTools

/-- The arguments hold no expression, which is told by a failure. -/
inductive Unfit : Value → Failure → Prop
  | notRecord {arguments : Value} (h : ∀ fields, arguments ≠ .record fields) :
      Unfit arguments (.notRecord arguments)
  | missing {fields : Fields Value} (h : (fields.get? "expression").getD .null = .null) :
      Unfit (.record fields) (.refusal .missingExpression)
  | notText {fields : Fields Value} {value : Value} (h : fields.get? "expression" = some value)
      (hnull : value ≠ .null) (htext : ∀ text, value ≠ .text text) :
      Unfit (.record fields) (.refusal (.expressionNotText value))

/-- What a tool may fail with, for some arguments. -/
inductive Raises (environment : Environment) : Value → Failure → Prop
  | unfit {arguments : Value} {failure : Failure} (h : Unfit arguments failure) :
      Raises environment arguments failure
  | unknownUnit {fields : Fields Value} {value : Value}
      (h : fields.get? "angle_mode" = some value) (hnull : value ≠ .null)
      (hunknown : ∀ name, value = .text name → AngleUnit.ofText? name = none) :
      Raises environment (.record fields) (.refusal (.unknownAngleUnit value))
  | misconfigured {fields : Fields Value} {cause : Misconfiguration}
      (h : Settings.ofEnvironment environment = .error (.misconfiguration cause)) :
      Raises environment (.record fields) (.misconfiguration cause)
  | fault {fields : Fields Value} {cause : Fault} (h : cause.Classified) :
      Raises environment (.record fields) (.fault cause)

/-- The one failure that is not prepared for is with arguments that are no record. -/
theorem Raises.code_eq_internal_iff (h : Raises environment arguments failure) :
    failure.code = "INTERNAL_ERROR" ↔ ∀ fields, arguments ≠ .record fields := by
  have hinput : "INVALID_INPUT" ≠ "INTERNAL_ERROR" := by decide
  have hsettings : "CONFIGURATION_ERROR" ≠ "INTERNAL_ERROR" := by decide
  have hfault : ∀ kind : FaultKind, kind.code ≠ "INTERNAL_ERROR" := fun kind => by
    cases kind <;> decide
  cases h with
  | unfit h =>
      cases h with
      | notRecord h => exact ⟨fun _ => h, fun _ => rfl⟩
      | missing | notText => exact ⟨fun hcode => absurd hcode hinput, fun h => absurd rfl (h _)⟩
  | unknownUnit => exact ⟨fun hcode => absurd hcode hinput, fun h => absurd rfl (h _)⟩
  | misconfigured => exact ⟨fun hcode => absurd hcode hsettings, fun h => absurd rfl (h _)⟩
  | fault => exact ⟨fun hcode => absurd hcode (hfault _), fun h => absurd rfl (h _)⟩

theorem raises_of_failsOnly {α : Type} {x : Except Failure α} {fields : Fields Value}
    (hx : FailsOnly Fault.Placed x) (h : x = .error failure) :
    Raises environment (.record fields) failure := by
  obtain ⟨fault, rfl, hplaced⟩ := hx failure h
  exact .fault (fault.classified_of_placed hplaced)

theorem raises_of_tokenless {α : Type} {x : Except Failure α} {fields : Fields Value}
    (hx : FailsOnly Fault.Tokenless x) (h : x = .error failure) :
    Raises environment (.record fields) failure :=
  raises_of_failsOnly (hx.mono fun _ => Fault.placed_of_tokenless) h

theorem requireExpression_eq_error_iff :
    requireExpression arguments = .error failure ↔ Unfit arguments failure := by
  constructor
  · intro h
    cases arguments with
    | record fields =>
        simp only [requireExpression, argument_record, bind, Except.bind] at h
        cases hfound : Fields.get? fields "expression" with
        | none =>
            rw [hfound] at h
            obtain rfl := Except.error.inj h
            exact .missing (by rw [hfound]; rfl)
        | some value =>
            rw [hfound, Option.getD_some] at h
            cases value with
            | text expression => cases h
            | null =>
                obtain rfl := Except.error.inj h
                exact .missing (by rw [hfound]; rfl)
            | truth | whole | number | list | record =>
                obtain rfl := Except.error.inj h
                exact .notText hfound (fun hnull => by cases hnull) fun _ htext => by cases htext
    | null | truth | whole | number | text | list =>
        obtain rfl := Except.error.inj h
        exact .notRecord fun _ hrecord => by cases hrecord
  · intro h
    cases h with
    | notRecord h =>
        cases arguments with
        | record fields => exact absurd rfl (h fields)
        | null | truth | whole | number | text | list => rfl
    | missing h => simp only [requireExpression, argument_record, h, bind, Except.bind]
    | @notText fields value h hnull htext =>
        -- neither of the first two cases is met, as the other two hypotheses say
        simp only [requireExpression, argument_record, h, Option.getD_some, bind, Except.bind]

/-- A tool that needs an expression fails for want of one, or for what it does with
it. -/
theorem raises_of_bind {f : String → Except Failure Outcome}
    (hf : ∀ fields expression, arguments = .record fields → f expression = .error failure →
      Raises environment arguments failure)
    (h : (requireExpression arguments >>= f) = .error failure) :
    Raises environment arguments failure := by
  rcases bind_eq_error_iff.1 h with hexpression | ⟨expression, hexpression, hrest⟩
  · exact .unfit (requireExpression_eq_error_iff.1 hexpression)
  · cases arguments with
    | record fields => exact hf fields expression rfl hrest
    | null | truth | whole | number | text | list => cases hexpression

/-- The tools that need an expression fail without one. -/
theorem handle_of_unfit (htool : tool ∈ ["calc_evaluate", "calc_tokenize", "calc_to_postfix"])
    (h : Unfit arguments failure) : handle settings tool arguments = .error failure := by
  have hexpression := requireExpression_eq_error_iff.2 h
  simp only [List.mem_cons, List.not_mem_nil, or_false] at htool
  rcases htool with rfl | rfl | rfl <;>
    simp [handle, hexpression, bind, Except.bind]

/-- An evaluation fails for its unit, or with a fault of the expression. -/
theorem raises_of_evaluate {fields : Fields Value} {expression : Option String}
    (h : evaluate (Settings.ofEnvironment environment) expression
      ((fields.get? "angle_mode").getD .null) = .error failure) :
    Raises environment (.record fields) failure := by
  rcases bind_eq_error_iff.1 h with hunit | ⟨unit, -, h⟩
  · rcases AngleUnit.resolve_error_cases hunit with
      ⟨cause, hsettings, rfl⟩ | ⟨hnull, hunknown, rfl⟩
    · exact .misconfigured hsettings
    · cases hgiven : fields.get? "angle_mode" with
      | none =>
          rw [hgiven] at hnull
          exact absurd rfl hnull
      | some value =>
          rw [hgiven] at hnull hunknown
          exact .unknownUnit hgiven hnull hunknown
  · exact raises_of_failsOnly
      ((failsOnly_ofExpression expression unit).bind fun _ _ => failsOnly_ok _) h

/-- **The failures of tools.** -/
theorem raises_of_handle (htool : tool ∈ tools.map Tool.name)
    (h : handle (Settings.ofEnvironment environment) tool arguments = .error failure) :
    Raises environment arguments failure := by
  unfold handle at h
  split at h
  · refine raises_of_bind (fun fields expression harguments hrest => ?_) h
    subst harguments
    exact raises_of_evaluate hrest
  split at h
  · refine raises_of_bind (fun fields expression harguments hrest => ?_) h
    subst harguments
    refine raises_of_tokenless ?_ hrest
    exact (failsOnly_tokenize _).bind fun _ _ => failsOnly_ok _
  split at h
  · refine raises_of_bind (fun fields expression harguments hrest => ?_) h
    subst harguments
    refine raises_of_tokenless ((failsOnly_tokenize _).bind fun tokens htokens => ?_) hrest
    have hknown := isKnown_of_tokenize htokens
    exact (Postfix.failsOnly_ofInfix hknown).bind fun _ _ => failsOnly_ok _
  split at h
  · cases h
  · next hevaluate htokenize horder hlist =>
      exact absurd htool (by simp [tools, hevaluate, htokenize, horder, hlist])

end ExpressionTools

/-! ### Calls -/

namespace ToolServer

/-- The arguments that a tool is called with.  An empty record stands for all that does
not count as given. -/
def taken (arguments : Value) : Value :=
  if arguments.isGiven then arguments else .record []

/-- What answers a call, as data. -/
inductive Answers (environment : Environment) (tool : String) (arguments : Value) : Value → Prop
  | ping (h : tool = "ping") :
      Answers environment tool arguments
        (.record [("status", .text "ok"), ("service", .text "calcengine")])
  | unknown (hping : tool ≠ "ping") (h : tool ∉ ExpressionTools.tools.map Tool.name) :
      Answers environment tool arguments
        (.record
          [("status", .text "error"), ("error_code", .text "UNKNOWN_TOOL"),
            ("message", .text ("Unknown tool: " ++ tool))])
  | listing {outcome : Outcome} (htool : tool ∈ ExpressionTools.tools.map Tool.name)
      (h : ExpressionTools.handle (Settings.ofEnvironment environment) tool (taken arguments) =
        .ok outcome)
      (htype : outcome.itemType = "object") :
      Answers environment tool arguments outcome.result
  | result {outcome : Outcome} (htool : tool ∈ ExpressionTools.tools.map Tool.name)
      (h : ExpressionTools.handle (Settings.ofEnvironment environment) tool (taken arguments) =
        .ok outcome)
      (htype : outcome.itemType ≠ "object") :
      Answers environment tool arguments (.record outcome.toFields)
  | failed {failure : Failure} (htool : tool ∈ ExpressionTools.tools.map Tool.name)
      (h : ExpressionTools.handle (Settings.ofEnvironment environment) tool (taken arguments) =
        .error failure)
      (hraises : ExpressionTools.Raises environment (taken arguments) failure) :
      Answers environment tool arguments (.record failure.toolFields)

variable {payload : Value}

/-- What clients are told of what a tool comes to. -/
def told : Except Failure Outcome → Value
  | .ok outcome => if outcome.itemType = "object" then outcome.result else .record outcome.toFields
  | .error failure => .record failure.toolFields

/-- A call reaches the capability that offers the tool, unless it is for the server. -/
theorem answer_of_offers {registry : Registry} {capability : Capability}
    (hping : tool ≠ ping.name) (h : registry.Offers capability tool) :
    answer registry settings tool arguments =
      told (capability.handle settings tool (taken arguments)) := by
  rw [answer, if_neg hping, if_pos (Registry.has_eq_true_iff.2 h.listed)]
  show (match registry.handle settings tool (taken arguments) with
    | .ok outcome => _
    | .error failure => _) = _
  rw [h.handle_eq]
  cases capability.handle settings tool (taken arguments) with
  | ok outcome => rfl
  | error failure => exact congrArg Value.record (Report.toToolFields_ofFailure failure)

/-- A tool that is there is called through the registry. -/
theorem answer_of_mem (htool : tool ∈ ExpressionTools.tools.map Tool.name) :
    answer .installed settings tool arguments =
      match ExpressionTools.handle settings tool (taken arguments) with
      | .ok outcome =>
        if outcome.itemType = "object" then outcome.result else .record outcome.toFields
      | .error failure => .record failure.toolFields := by
  have hping : tool ≠ ping.name := by
    rintro rfl
    exact absurd htool (by decide)
  rw [answer_of_offers hping (Registry.offers_installed htool)]
  rfl

/-- **What answers a call.** -/
theorem answers_answer (environment : Environment) (tool : String) (arguments : Value) :
    Answers environment tool arguments
      (answer .installed (Settings.ofEnvironment environment) tool arguments) := by
  by_cases hping : tool = ping.name
  · rw [answer, if_pos hping]
    exact .ping hping
  by_cases htool : tool ∈ ExpressionTools.tools.map Tool.name
  · rw [answer_of_mem htool]
    split
    · next outcome houtcome =>
        split
        · next htype => exact .listing htool houtcome htype
        · next htype => exact .result htool houtcome htype
    · next failure hfailure =>
        exact .failed htool hfailure (ExpressionTools.raises_of_handle htool hfailure)
  · rw [answer, if_neg hping, if_neg fun hhas => htool (Registry.has_installed.1 hhas)]
    exact .unknown hping htool

theorem Answers.strict (h : Answers environment tool arguments payload) : payload.Strict := by
  cases h with
  | ping => simp
  | unknown => simp
  | listing htool h htype => exact ExpressionTools.strict_of_handle h
  | result htool h htype => exact Outcome.strict_toFields (ExpressionTools.strict_of_handle h)
  | failed => exact Failure.strict_toolFields _

end ToolServer

namespace WebServer

/-- What answers a request for a value is strict. -/
theorem exists_strict_of_evaluate {words : List UInt8 → String} {body : List UInt8}
    {response : Response} (h : evaluate settings words body = .ok response) :
    ∃ status fields, response = .ofFields status fields ∧ (Value.record fields).Strict := by
  cases hbody : Json.readBody? body with
  | none =>
      rw [evaluate_of_unreadable hbody, refuse_ofFailure] at h
      exact ⟨_, _, (Except.ok.inj h).symm, Failure.strict_webFields _⟩
  | some datum =>
      cases hdatum : EvaluateRequest.ofDatum datum with
      | error problems =>
          rw [evaluate_of_problems hbody hdatum, refuse, json_eq_ok] at h
          exact ⟨_, _, (Except.ok.inj h).symm, Report.strict_toWebFields_validation _⟩
      | ok request =>
          have hwrites : Writes body request :=
            ⟨datum, hbody, EvaluateRequest.ofDatum_eq_ok_iff.1 hdatum⟩
          cases hvalue : ExpressionTools.evaluatePoints settings request.expression
            request.given with
          | ok outcome =>
              rw [evaluate_of_outcome hwrites hvalue] at h
              obtain ⟨text, -, houtcome⟩ := ExpressionTools.exists_text_of_evaluatePoints hvalue
              have hdata := Outcome.strict_toFields (ExpressionTools.strict_of_evaluate houtcome)
              exact ⟨_, _, (Except.ok.inj h).symm, by simpa using hdata⟩
          | error stop =>
              cases stop with
              | failure failure =>
                  rw [evaluate_of_failure hwrites hvalue] at h
                  exact ⟨_, _, (Except.ok.inj h).symm, Failure.strict_webFields _⟩
              | half half position =>
                  obtain ⟨cause, hcause⟩ := exists_evaluate_eq_error hwrites hvalue
                  cases h.symm.trans hcause

end WebServer

/-- The value of an expression is told by `Value.ofNumber`. -/
theorem ExpressionTools.exists_value_of_evaluate {expression : Option String} {unit : AngleUnit}
    {given : Value} {x : Float} (hunit : AngleUnit.resolve settings given = .ok unit)
    (hvalue : Calculator.evaluate expression unit = .ok x) :
    ∃ outcome fields, evaluate settings expression given = .ok outcome ∧
      outcome.result = .record fields ∧ Fields.get? fields "value" = some (.ofNumber x) := by
  obtain ⟨tokens, ordered, hread, hx⟩ := exists_read_of_evaluate hvalue
  refine ⟨_, _, evaluate_of_resolve hunit hread hx, rfl, ?_⟩
  rw [Fields.get?_cons, if_pos rfl]

/-- **Calls never fail, and all that is written is strict.** Under any environment the
registry is set up; a call is then answered by one text, which tells what `Answers` says.
Neither it nor an answer over the web holds a double that is not finite: the value of an
expression and the doubles that a fault tells go through `Value.ofNumber`, which has words
for those.  Over the web there is an answer unless the expression stops at a half, which
cannot be encoded. -/
theorem ToolServer.call_strict (environment : Environment) :
    ∃ registry, Registry.empty.install = .ok registry ∧
      (∀ tool arguments, ∃ payload,
        call registry (Settings.ofEnvironment environment) tool arguments =
            [Json.write .indented payload] ∧
          Answers environment tool arguments payload ∧ payload.Strict) ∧
      (∀ tool ∈ ["calc_evaluate", "calc_tokenize", "calc_to_postfix"], ∀ arguments failure,
        ExpressionTools.Unfit (taken arguments) failure →
          call registry (Settings.ofEnvironment environment) tool arguments =
            [Json.write .indented (.record failure.toolFields)]) ∧
      (∀ arguments failure, ExpressionTools.Raises environment arguments failure →
        (failure.code = "INTERNAL_ERROR" ↔ ∀ fields, arguments ≠ .record fields)) ∧
      (∀ words body,
        let answer :=
          WebServer.respond (Settings.ofEnvironment environment) words "POST" "/evaluate" body
        (∀ response, answer = .ok response → ∃ status fields,
          response = .ofFields status fields ∧ (Value.record fields).Strict) ∧
        ((∃ cause, answer = .error cause) ↔ WebServer.Unanswerable environment body)) ∧
      (∀ expression unit given x,
        AngleUnit.resolve (Settings.ofEnvironment environment) given = .ok unit →
          Calculator.evaluate expression unit = .ok x →
            ∃ outcome fields,
              ExpressionTools.evaluate (Settings.ofEnvironment environment) expression given =
                  .ok outcome ∧
                outcome.result = .record fields ∧
                  Fields.get? fields "value" = some (.ofNumber x)) ∧
      (∀ (fault : Fault) name x, (name, .number x) ∈ fault.particulars →
        fault.details.get? name = some (.ofNumber x)) ∧
      ∀ x : Float, x.isFinite = false →
        ∃ word ∈ ["inf", "-inf", "nan"], Value.ofNumber x = .text word := by
  refine ⟨.installed, Registry.install_empty, fun tool arguments => ?_,
    fun tool htool arguments failure hunfit => ?_, fun _ _ hraises => hraises.code_eq_internal_iff,
    fun words body => ⟨fun response hresponse => WebServer.exists_strict_of_evaluate hresponse,
      WebServer.exists_evaluate_eq_error_iff environment words body⟩,
    fun _ _ _ _ hunit hvalue => ExpressionTools.exists_value_of_evaluate hunit hvalue,
    fun _ _ _ hmem => Fault.get?_details_of_number hmem,
    fun _ hfinite => exists_word_of_not_isFinite hfinite⟩
  · have hanswer := answers_answer environment tool arguments
    exact ⟨_, rfl, hanswer, hanswer.strict⟩
  · have hmem : tool ∈ ExpressionTools.tools.map Tool.name := by
      revert tool
      decide
    rw [call, answer_of_mem hmem, ExpressionTools.handle_of_unfit htool hunfit]

/-- A body with an answer that cannot be encoded. -/
theorem WebServer.not_encoded_loneHalf :
    respond (Settings.ofEnvironment fun _ => none) (fun _ => "") "POST" "/evaluate" loneHalf =
        render 400 (Stop.half 0 0).toWebDatum ∧
      ∃ cause, render 400 (Stop.half 0 0).toWebDatum = .error cause :=
  ⟨evaluate_loneHalf fun _ => "", exists_render_half_eq_error 400 0 0⟩

end Calculator
