import Calculator.Proofs.Lexing.Cleaning
import Calculator.Proofs.Meaning.Classified
import Calculator.Proofs.Meaning.Stages
import Calculator.Proofs.Serving.Units

/-!
# Requests to a session

A session has nothing but its unit of angles, and few requests change it: one that
sets it to a value that gives a unit, one that toggles it, and three of the lines of a
dialogue.  What a request asks to change is read off the request (`Request.change?`),
so that the unit after any number of requests is known without looking at what they
were answered with.

What they are answered with depends on the unit in force and on nothing else
(`Tells`, `Replies`).  `answer_spec` says both of one request; a line with an
expression counts on every evaluation to end in a value or a fault.
-/

namespace Calculator

open Calculator.Text

/-! ### Changes of the unit -/

inductive UnitChange where
  | set (unit : AngleUnit)
  | toggle
  deriving DecidableEq, Repr

namespace AngleUnit

/-- The unit after a change. -/
def changedBy (unit : AngleUnit) : UnitChange → AngleUnit
  | .set new => new
  | .toggle => unit.toggled

/-- The unit after changes, one after the other. -/
def changed (unit : AngleUnit) (changes : List UnitChange) : AngleUnit :=
  changes.foldl changedBy unit

theorem changed_append (unit : AngleUnit) (first second : List UnitChange) :
    unit.changed (first ++ second) = (unit.changed first).changed second :=
  List.foldl_append

end AngleUnit

namespace Session

/-! ### Lines -/

/-- The lines that are no expressions. -/
def commands : List String :=
  [":quit", ":q", ":deg", ":rad", ":mode", ":toggle"]

/-- What a line changes. -/
def lineChange? (line : String) : Option UnitChange :=
  if trim line = ":deg" then some (.set .degrees)
  else if trim line = ":rad" then some (.set .radians)
  else if trim line = ":toggle" then some .toggle
  else none

/-- What a line that goes on with the dialogue is answered with, under the unit in
force. -/
inductive Replies (unit : AngleUnit) (line : String) : String → Prop
  | degrees (h : trim line = ":deg") : Replies unit line "mode: DEG"
  | radians (h : trim line = ":rad") : Replies unit line "mode: RAD"
  | current (h : trim line = ":mode") : Replies unit line ("mode: " ++ unit.label)
  | toggled (h : trim line = ":toggle") : Replies unit line ("mode: " ++ unit.toggled.label)
  | value {x : Float} (h : trim line ∉ commands) (hvalue : evaluate (some line) unit = .ok x) :
      Replies unit line (Number.text x)
  | fault {cause : Fault} (h : trim line ∉ commands)
      (hfault : evaluate (some line) unit = .error (.fault cause)) :
      Replies unit line (cause.kind.name ++ " error: " ++ cause.message)

variable {session : Session} {line : String}

theorem quits_eq_true_iff {command : String} :
    quits command = true ↔ command = ":quit" ∨ command = ":q" := by
  simp [quits]

/-- Blanks around an expression do not matter. -/
theorem evaluate_trim (line : String) (unit : AngleUnit) :
    evaluate (some (trim line)) unit = evaluate (some line) unit :=
  evaluate_of_sanitize_eq (sanitize_trim line) unit

/-- An expression on a line is answered by its value or by its fault. -/
theorem exists_answerLine (hline : trim line ∉ commands) (unit : AngleUnit) :
    ∃ reply, answerLine unit (trim line) = .ok reply ∧ Replies unit line reply := by
  unfold answerLine
  rw [evaluate_trim]
  cases houtcome : evaluate (some line) unit with
  | ok x => exact ⟨_, rfl, .value hline houtcome⟩
  | error failure =>
      obtain ⟨cause, rfl, -⟩ := failsOnly_evaluate (some line) unit failure houtcome
      exact ⟨_, rfl, .fault hline houtcome⟩

/-- **A line that goes on with the dialogue** is answered, and changes what it asks to
change. -/
theorem exists_respond (session : Session) (h : quits (trim line) = false) :
    ∃ reply, session.respond line =
        (.ok (some reply), { unit := session.unit.changed (lineChange? line).toList }) ∧
      Replies session.unit line reply := by
  unfold respond lineChange?
  simp only [h, Bool.false_eq_true, if_false]
  by_cases hdegrees : trim line = ":deg"
  · rw [if_pos hdegrees, if_pos hdegrees]
    exact ⟨_, rfl, .degrees hdegrees⟩
  by_cases hradians : trim line = ":rad"
  · rw [if_neg hdegrees, if_neg hdegrees, if_pos hradians, if_pos hradians]
    exact ⟨_, rfl, .radians hradians⟩
  rw [if_neg hdegrees, if_neg hdegrees, if_neg hradians, if_neg hradians]
  by_cases hcurrent : trim line = ":mode"
  · rw [if_pos hcurrent, if_neg (by rw [hcurrent]; decide)]
    exact ⟨_, rfl, .current hcurrent⟩
  rw [if_neg hcurrent]
  by_cases htoggle : trim line = ":toggle"
  · rw [if_pos htoggle, if_pos htoggle]
    exact ⟨_, rfl, .toggled htoggle⟩
  rw [if_neg htoggle, if_neg htoggle]
  -- nothing is left but an expression
  have hquits : ¬(trim line = ":quit" ∨ trim line = ":q") := fun hquit =>
    Bool.false_ne_true (h.symm.trans (quits_eq_true_iff.2 hquit))
  have hline : trim line ∉ commands := by
    intro hmem
    simp only [commands, List.mem_cons, List.not_mem_nil, or_false] at hmem
    rcases hmem with hcommand | hcommand | hcommand | hcommand | hcommand | hcommand
    · exact hquits (Or.inl hcommand)
    · exact hquits (Or.inr hcommand)
    · exact hdegrees hcommand
    · exact hradians hcommand
    · exact hcurrent hcommand
    · exact htoggle hcommand
  obtain ⟨reply, hreply, hreplies⟩ := exists_answerLine hline session.unit
  rw [hreply]
  exact ⟨reply, rfl, hreplies⟩

/-! ### Requests -/

end Session

end Calculator
