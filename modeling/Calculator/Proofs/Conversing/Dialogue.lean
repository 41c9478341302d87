import Calculator.CommandLine
import Calculator.Proofs.Conversing.Legible
import Calculator.Proofs.Conversing.Lines

/-!
# Dialogues

A dialogue answers the lines that are asked, one by one: those that are not blank, as
long as none of them quits.  It comes to its end whatever is asked, since a line with an
expression is answered by a value or by a fault and never fails (`exists_respond`).

Commands among the lines change the unit for the lines after them.  The induction
therefore goes over the input with the session left open, and `Answers` says under
which unit each line is answered: the one that the lines before it lead to.
-/

namespace Calculator

open Calculator.Text

namespace Session

/-- The lines that a dialogue answers: all that are not blank, up to the one that
quits. -/
def asked (input : List String) : List String :=
  (input.takeWhile fun line => !quits (trim line)).filter fun line => trim line ≠ ""

variable {unit : AngleUnit} {line answer : String} {input rest answers : List String}

example : asked ["cos(π)", " ", ":deg", "cos(180)", ":q ", "1+1"] = ["cos(π)", ":deg", "cos(180)"] := by
  decide

/-! ### Answers in order -/

/-- What the first line changes is changed for all that follow. -/
theorem changed_cons (unit : AngleUnit) (line : String) (rest : List String) :
    unit.changed ((line :: rest).filterMap lineChange?) =
      (unit.changed (lineChange? line).toList).changed (rest.filterMap lineChange?) := by
  rw [← AngleUnit.changed_append]
  cases hchange : lineChange? line <;> simp [hchange]

/-- Answers to lines, one by one. -/
structure Answers (unit : AngleUnit) (asked answers : List String) : Prop where
  length_eq : answers.length = asked.length
  replies : ∀ position line, asked[position]? = some line →
    ∃ answer, answers[position]? = some answer ∧
      Replies (unit.changed ((asked.take position).filterMap lineChange?)) line answer

theorem Answers.nil : Answers unit [] [] where
  length_eq := rfl
  replies := by
    intro position line hline
    cases hline

theorem Answers.cons (hfirst : Replies unit line answer)
    (hrest : Answers (unit.changed (lineChange? line).toList) rest answers) :
    Answers unit (line :: rest) (answer :: answers) where
  length_eq := congrArg (· + 1) hrest.length_eq
  replies := by
    intro position other hother
    cases position with
    | zero =>
        cases hother
        exact ⟨answer, rfl, hfirst⟩
    | succ position =>
        obtain ⟨reply, hreply, hreplies⟩ := hrest.replies position other hother
        refine ⟨reply, hreply, ?_⟩
        rw [List.take_succ_cons, changed_cons]
        exact hreplies

theorem dialogue_of_respond {session next last : Session} (hblank : trim line ≠ "")
    (hrespond : session.respond line = (.ok (some answer), next))
    (hrest : next.dialogue rest = .ok (answers, last)) :
    session.dialogue (line :: rest) = .ok (answer :: answers, last) := by
  rw [dialogue, if_neg hblank, hrespond]
  simp only [hrest]
  rfl

end Session

namespace CommandLine

end CommandLine

end Calculator
