import Calculator.Proofs.Conversing.Dialogue
import Mathlib.Data.List.Forall2

/-!
# Expressions as arguments and as lines

The same expressions may be given as arguments or as the lines of a dialogue.  Either way
each of them comes to what it comes to alone (`Comes`), since nothing but a command changes
the unit.  What differs is where the lines go that tell it: a dialogue has one stream, in
which values and faults are mixed, while arguments have two and a status that remembers
whether there was a fault.

A dialogue takes off the blanks around a line before it looks at it, and arguments are
evaluated as they stand.  The evaluation cleans both, so they come to the same
(`Session.evaluate_trim`).
-/

namespace Calculator

open Calculator.Text

variable {unit : AngleUnit} {line reply : String} {expressions : List String}
  {outcome : Except Fault Float} {outcomes : List (Except Fault Float)}

/-- What an expression comes to when it stands alone. -/
def Comes (unit : AngleUnit) (expression : String) (outcome : Except Fault Float) : Prop :=
  evaluate (some expression) unit = outcome.mapError .fault

/-- The line that tells what an expression has come to. -/
def told : Except Fault Float → String
  | .ok x => Number.text x
  | .error fault => fault.kind.name ++ " error: " ++ fault.message

theorem exists_comes (unit : AngleUnit) (expression : String) :
    ∃ outcome, Comes unit expression outcome := by
  unfold Comes
  cases hvalue : evaluate (some expression) unit with
  | ok x => exact ⟨.ok x, rfl⟩
  | error failure =>
      obtain ⟨fault, rfl, -⟩ := failsOnly_evaluate (some expression) unit failure hvalue
      exact ⟨.error fault, rfl⟩

theorem exists_forall₂_comes (unit : AngleUnit) (expressions : List String) :
    ∃ outcomes, List.Forall₂ (Comes unit) expressions outcomes := by
  induction expressions with
  | nil => exact ⟨[], .nil⟩
  | cons expression rest ih =>
      obtain ⟨outcome, hfirst⟩ := exists_comes unit expression
      obtain ⟨outcomes, hrest⟩ := ih
      exact ⟨outcome :: outcomes, .cons hfirst hrest⟩

/-! ### As lines -/

namespace Session

/-- Whether a line of a dialogue is an expression: it is neither blank nor a command. -/
def IsExpression (line : String) : Prop :=
  trim line ≠ "" ∧ trim line ∉ commands

theorem IsExpression.quits_eq_false (h : IsExpression line) : quits (trim line) = false := by
  cases hquits : quits (trim line) with
  | false => rfl
  | true =>
      refine absurd ?_ h.2
      rcases quits_eq_true_iff.1 hquits with hquit | hquit <;> rw [hquit] <;> decide

theorem IsExpression.lineChange?_eq_none (h : IsExpression line) : lineChange? line = none := by
  have hne : ∀ command ∈ commands, trim line ≠ command := fun command hcommand heq =>
    h.2 (heq ▸ hcommand)
  unfold lineChange?
  rw [if_neg (hne _ (by decide)), if_neg (hne _ (by decide)), if_neg (hne _ (by decide))]

/-- An expression is replied to by the line that tells what it comes to. -/
theorem Replies.eq_told (h : Replies unit line reply) (hline : IsExpression line)
    (hcomes : Comes unit line outcome) : reply = told outcome := by
  have hnot : ∀ command ∈ commands, trim line ≠ command := fun command hcommand heq =>
    hline.2 (heq ▸ hcommand)
  cases h with
  | degrees h | radians h | current h | toggled h => exact absurd h (hnot _ (by decide))
  | value _ hvalue =>
      cases outcome with
      | ok x => rw [Except.ok.inj (hvalue.symm.trans hcomes)]; rfl
      | error fault => cases hvalue.symm.trans hcomes
  | fault _ hfault =>
      cases outcome with
      | ok x => cases hfault.symm.trans hcomes
      | error fault => rw [Failure.fault.inj (Except.error.inj (hfault.symm.trans hcomes))]; rfl

theorem respond_of_isExpression (session : Session) (hline : IsExpression line)
    (hcomes : Comes session.unit line outcome) :
    session.respond line = (.ok (some (told outcome)), session) := by
  obtain ⟨reply, hrespond, hreplies⟩ := exists_respond session hline.quits_eq_false
  rw [hrespond, hline.lineChange?_eq_none, hreplies.eq_told hline hcomes]
  rfl

/-- **Expressions as lines** are told one after the other, and the session is as before. -/
theorem dialogue_of_isExpression (session : Session)
    (hlines : ∀ line ∈ expressions, IsExpression line)
    (houtcomes : List.Forall₂ (Comes session.unit) expressions outcomes) :
    session.dialogue expressions = .ok (outcomes.map told, session) := by
  induction houtcomes with
  | nil => rfl
  | cons hfirst _ ih =>
      obtain ⟨hline, hrest⟩ := List.forall_mem_cons.1 hlines
      exact dialogue_of_respond hline.1 (session.respond_of_isExpression hline hfirst) (ih hrest)

end Session

/-! ### As arguments -/

namespace CommandLine

/-- **Expressions as arguments** are told in the same order, values and faults apart. -/
theorem batch_of_comes (houtcomes : List.Forall₂ (Comes unit) expressions outcomes) :
    batch unit expressions = .ok ((outcomes.filter (·.isOk)).map told,
      (outcomes.filter (!·.isOk)).map told) := by
  induction houtcomes with
  | nil => rfl
  | @cons expression outcome expressions outcomes hfirst _ ih =>
      unfold Comes at hfirst
      rw [batch, hfirst, ih]
      cases outcome <;> rfl

theorem batchOutcome_of_comes (houtcomes : List.Forall₂ (Comes unit) expressions outcomes) :
    batchOutcome unit expressions = .ok {
      status := if ∃ outcome ∈ outcomes, outcome.isOk = false then 1 else 0
      out := lines ((outcomes.filter (·.isOk)).map told)
      err := lines ((outcomes.filter (!·.isOk)).map told) } := by
  have hfaults : ((outcomes.filter (!·.isOk)).map told).isEmpty = true ↔
      ¬ ∃ outcome ∈ outcomes, outcome.isOk = false := by
    simp
  unfold batchOutcome
  rw [batch_of_comes houtcomes]
  show Except.ok _ = _
  by_cases hfails : ∃ outcome ∈ outcomes, outcome.isOk = false
  · rw [if_pos hfails, if_neg (mt hfaults.1 (not_not_intro hfails))]
  · rw [if_neg hfails, if_pos (hfaults.2 hfails)]

/-- Plain arguments are taken in one row at the end. -/
theorem readForms_of_plain {parsed : Arguments.Parsed} {stretch forms : List Arguments.Form}
    (hforms : ∀ form ∈ forms, form.isOption = false) :
    Arguments.readForms parsed stretch forms = .ok (some (parsed.withPlain (stretch ++ forms))) := by
  induction forms generalizing stretch with
  | nil => rw [Arguments.readForms, List.append_nil]
  | cons form forms ih =>
      obtain ⟨hform, hmore⟩ := List.forall_mem_cons.1 hforms
      rw [show stretch ++ form :: forms = (stretch ++ [form]) ++ forms by simp, ← ih hmore]
      cases form with
      | plain | divider => rfl
      | known | unknown => cases hform

/-- Behind a double minus every argument is an expression. -/
theorem read_of_divider (unit : AngleUnit) (expressions : List String) :
    Arguments.read [Arguments.help, unitOption] true
        ("--angle-mode" :: unit.name :: "--" :: expressions) =
      .ok (some { values := [("--angle-mode", .text unit.name)], row := some expressions }) := by
  have hforms : Arguments.forms [Arguments.help, unitOption]
      ("--angle-mode" :: unit.name :: "--" :: expressions) =
      .ok (.known unitOption "--angle-mode" none :: .plain unit.name ::
        .divider :: expressions.map .plain) := by
    cases unit <;> rfl
  have hplain : ∀ form ∈ Arguments.Form.divider :: expressions.map .plain,
      form.isOption = false := by
    simp [Arguments.Form.isOption]
  -- the divider opens the row and is no part of it
  have hrow : ({ values := [("--angle-mode", .text unit.name)], row := none } :
      Arguments.Parsed).withPlain (.divider :: expressions.map .plain) =
      { values := [("--angle-mode", .text unit.name)], row := some expressions } := by
    unfold Arguments.Parsed.withPlain
    dsimp only
    rw [List.filter_cons_of_neg (by simp), List.filter_eq_self.2 (by simp), List.map_map]
    congr 2
    exact List.map_id _
  unfold Arguments.read
  rw [hforms]
  show Except.bind (Arguments.readForms _ [] (.divider :: expressions.map .plain)) _ = _
  rw [readForms_of_plain hplain]
  exact congrArg (fun parsed => Except.ok (some parsed)) hrow

theorem run_of_divider (settings : Except Failure Settings) (unit : AngleUnit)
    (hne : expressions ≠ []) (input : List String) :
    run settings ("--angle-mode" :: unit.name :: "--" :: expressions) input =
      batchOutcome unit expressions := by
  have hsession : Session.start settings (.text unit.name) = .ok { unit } := by
    have hunit : AngleUnit.resolve settings (.text unit.name) = .ok unit :=
      AngleUnit.resolve_named settings unit
    rw [Session.start, hunit]
    rfl
  have hplan : plan settings ("--angle-mode" :: unit.name :: "--" :: expressions) =
      (batchOutcome unit expressions).map .done := by
    obtain ⟨first, rest, rfl⟩ := List.exists_cons_of_ne_nil hne
    unfold plan
    rw [read_of_divider]
    simp only [List.lookup_cons_self, Option.getD_some, hsession]
  rw [run, hplan]
  cases batchOutcome unit expressions <;> rfl

/-- **Arguments and lines agree.**  Expressions come to the same whether they are given as
the lines of a dialogue or as arguments, each to what it comes to alone.  A dialogue tells
all of them on its one stream.  Arguments have the values told on one stream and the faults
on the other, in the same order and by the same lines, and the status is zero just if there
are no faults. -/
theorem batch_agrees_with_dialogue (unit : AngleUnit) (expressions : List String)
    (h : ∀ expression ∈ expressions, trim expression ≠ "" ∧ trim expression ∉ Session.commands) :
    ∃ outcomes, List.Forall₂ (Comes unit) expressions outcomes ∧
      Session.dialogue { unit } expressions = .ok (outcomes.map told, { unit }) ∧
      converse { unit } expressions = .ok { status := 0, out := lines (outcomes.map told) } ∧
      batchOutcome unit expressions = .ok {
        status := if ∃ outcome ∈ outcomes, outcome.isOk = false then 1 else 0
        out := lines ((outcomes.filter (·.isOk)).map told)
        err := lines ((outcomes.filter (!·.isOk)).map told) } ∧
      (expressions ≠ [] → ∀ settings input,
        run settings ("--angle-mode" :: unit.name :: "--" :: expressions) input =
          batchOutcome unit expressions) := by
  obtain ⟨outcomes, houtcomes⟩ := exists_forall₂_comes unit expressions
  have hdialogue := Session.dialogue_of_isExpression { unit } h houtcomes
  refine ⟨outcomes, houtcomes, hdialogue, ?_, ?_, fun hne settings input => ?_⟩
  · unfold converse
    rw [hdialogue]
    rfl
  · exact batchOutcome_of_comes houtcomes
  · exact run_of_divider settings unit hne input

/-- A value and a fault, with blanks and a comma that neither of them shows. -/
theorem batch_of_value_and_fault :
    (∀ expression ∈ [" 2π\t", "é,"],
      trim expression ≠ "" ∧ trim expression ∉ Session.commands) ∧
    ∃ value fault, Comes .degrees " 2π\t" value ∧
      Session.dialogue { unit := .degrees } [" 2π\t", "é,"] =
        .ok ([told value, told (.error fault)], { unit := .degrees }) ∧
      ∃ outcome, batchOutcome .degrees [" 2π\t", "é,"] = .ok outcome ∧ outcome.status = 1 := by
  have hlines : ∀ expression ∈ [" 2π\t", "é,"],
      trim expression ≠ "" ∧ trim expression ∉ Session.commands := by decide
  have hchars : (sanitize (some "é,")).toList = ['é'] := by decide
  have hfirst : Lexeme.first? ['é'] = none := by decide
  have htokens : tokenize (some "é,") = .error (.fault (.invalidCharacter 'é' 0)) := by
    rw [tokenize, lexemes, hchars, Lexeme.readFrom, if_neg (by decide), hfirst]
    rfl
  have hvalue : evaluate (some "é,") .degrees = .error (.fault (.invalidCharacter 'é' 0)) := by
    rw [evaluate_eq_read, Trace.read, tokenize_sanitize, htokens]
    rfl
  obtain ⟨outcomes, houtcomes, hdialogue, -, hbatch, -⟩ :=
    batch_agrees_with_dialogue .degrees [" 2π\t", "é,"] hlines
  obtain ⟨value, rest, hcomes, hrest, rfl⟩ := List.forall₂_cons_left_iff.1 houtcomes
  obtain ⟨outcome, more, hfault, hmore, rfl⟩ := List.forall₂_cons_left_iff.1 hrest
  obtain rfl := List.forall₂_nil_left_iff.1 hmore
  obtain ⟨fault, rfl⟩ : ∃ fault, outcome = .error fault := by
    cases outcome with
    | ok x => cases hvalue.symm.trans hfault
    | error fault => exact ⟨fault, rfl⟩
  exact ⟨hlines, value, fault, hcomes, hdialogue, _, hbatch,
    if_pos ⟨.error fault, by simp, rfl⟩⟩

end CommandLine

end Calculator
