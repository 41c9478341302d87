import Calculator.Proofs.Meaning.Classified
import Calculator.Report

/-!
# What clients are told of a failure

A failure has a code, a message, details and an advice, which depend on the failure
alone (`Failure.code`, `Failure.message`, `Failure.details`, `Failure.advice`).  Tool
clients and web clients get these four under names of their own (`Failure.toolFields`,
`Failure.webFields`), and a report tells just that, whatever the failure
(`toToolFields_ofFailure`, `toWebFields_ofFailure`).
-/

namespace Calculator

namespace Failure

/-- The code of a failure.  All that the program is not prepared for has one code. -/
def code : Failure → String
  | fault cause => cause.kind.code
  | refusal _ => "INVALID_INPUT"
  | misconfiguration _ => "CONFIGURATION_ERROR"
  | missingKey _ | unreadableNumber _ | notRecord _ | capabilityTaken _ | toolTaken .. =>
    "INTERNAL_ERROR"

/-- What a failure tells besides its message, if anything. -/
def details : Failure → Value
  | fault cause => .record cause.details
  | refusal (.unknownAngleUnit value) => .record [("angle_mode", .text value.shown)]
  | refusal _ => .null
  | misconfiguration cause => .record [("variable", .text cause.setting.variableName)]
  | missingKey _ => .record [("exception_type", .text "KeyError")]
  | notRecord _ => .record [("exception_type", .text "AttributeError")]
  | unreadableNumber _ | capabilityTaken _ | toolTaken .. =>
    .record [("exception_type", .text "ValueError")]

/-- The status of an answer that tells a failure over the web. -/
def status : Failure → Nat
  | fault _ | refusal _ => 400
  | misconfiguration _ | missingKey _ | unreadableNumber _ | notRecord _ | capabilityTaken _
  | toolTaken .. => 500

/-- What to do about a failure. -/
def advice (failure : Failure) : String :=
  if failure.code = "INTERNAL_ERROR" then
    "An unexpected error occurred. Please report this issue if it persists."
  else Report.recoveryFor failure.code

/-- A failure as tool clients are told it. -/
def toolFields (failure : Failure) : Fields Value :=
  [("status", .text "error"), ("error_code", .text failure.code),
    ("message", .text failure.message), ("details", failure.details),
    ("recovery_strategy", .text failure.advice)]

/-- A failure as web clients are told it. -/
def webFields (failure : Failure) : Fields Value :=
  [("status", .text "error"),
    ("error",
      .record
        [("code", .text failure.code), ("message", .text failure.message),
          ("details", failure.details), ("recovery", .text failure.advice)])]

end Failure

namespace Report

variable {failure : Failure}

theorem code_ofFailure (failure : Failure) :
    (ofFailure failure).category.code = failure.code := by
  cases failure with
  | fault cause =>
      show Category.code (.classified cause.kind cause.reason) = cause.kind.code
      cases cause.kind <;> rfl
  | refusal | misconfiguration | missingKey | unreadableNumber | notRecord | capabilityTaken
  | toolTaken => rfl

theorem message_ofFailure (failure : Failure) : (ofFailure failure).message = failure.message := by
  cases failure <;> rfl

/-- The kind and the reason of a fault are always told. -/
theorem details_ne_nil (cause : Fault) : cause.details ≠ [] := by
  have hkind : "kind" ∈ Fields.names cause.details :=
    Fields.mem_names_update.2 (Or.inl (List.mem_cons_self ..))
  intro hnil
  rw [hnil] at hkind
  cases hkind

theorem shownDetails_ofFailure (failure : Failure) :
    (ofFailure failure).shownDetails = failure.details := by
  cases failure with
  | fault cause =>
      have hdetails : (ofFailure (.fault cause)).details = cause.details := rfl
      have hempty : cause.details.isEmpty = false := by simp [details_ne_nil cause]
      simp only [shownDetails, hdetails, hempty, Failure.details]
      rfl
  | refusal cause => cases cause <;> rfl
  | misconfiguration | missingKey | unreadableNumber | notRecord | capabilityTaken
  | toolTaken => rfl

theorem recovery_ofFailure (failure : Failure) :
    (ofFailure failure).category.recovery = failure.advice := by
  cases failure with
  | fault cause =>
      have hcode : Failure.code (.fault cause) = cause.kind.code := rfl
      show Category.recovery (.classified cause.kind cause.reason) = Failure.advice (.fault cause)
      rw [Failure.advice, hcode]
      cases cause.kind <;> rfl
  | refusal | misconfiguration | missingKey | unreadableNumber | notRecord | capabilityTaken
  | toolTaken => rfl

theorem status_ofFailure (failure : Failure) :
    (ofFailure failure).category.status = failure.status := by
  cases failure <;> rfl

/-- **What a tool client is told.** -/
theorem toToolFields_ofFailure (failure : Failure) :
    (ofFailure failure).toToolFields = failure.toolFields := by
  rw [toToolFields, code_ofFailure, message_ofFailure, shownDetails_ofFailure, recovery_ofFailure]
  rfl

/-- **What a web client is told.** -/
theorem toWebFields_ofFailure (failure : Failure) :
    (ofFailure failure).toWebFields = failure.webFields := by
  rw [toWebFields, code_ofFailure, message_ofFailure, shownDetails_ofFailure, recovery_ofFailure]
  rfl

end Report

end Calculator
