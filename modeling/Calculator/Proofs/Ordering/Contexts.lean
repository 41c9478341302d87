import Calculator.Proofs.Ordering.Groups
import Calculator.Proofs.Ordering.Refusals

/-!
# Groups in any context

A group stands for the order of the row in it: another row of the same order in its
place changes nothing, whatever stands around the group, and if the whole is refused,
then for the same cause.

Three things could tell the two rows apart.

* The check of parentheses passes over both (`checkParentheses_congr`), and counts
  what is open around them.
* Signs and bars inside of the group are settled as they are on their own, if no bar
  is open in front of it, and those behind it see only that a parenthesis closes
  (`settled_within`).  With an odd number of bars in front, a bar in the group would
  close one of them.
* The run of a group depends on the order of the row in it and on what waits, and
  on nothing else (`run_within`).
-/

namespace Calculator

namespace Infix

variable {inner : List Token}

/-- Two rows over which the check goes on alike may stand for each other behind any
row. -/
theorem checkParentheses_congr {left right : List Token}
    (h : ∀ depth, checkParentheses depth left = checkParentheses depth right) (depth : Nat)
    (front : List Token) :
    checkParentheses depth (front ++ left) = checkParentheses depth (front ++ right) := by
  induction front generalizing depth with
  | nil => exact h depth
  | cons token front ih =>
      simp only [List.cons_append, checkParentheses, ih]

theorem checkParentheses_within (hinner : Balanced inner) (front back : List Token) :
    checkParentheses 0 (front ++ .leftParen :: (inner ++ .rightParen :: back)) =
      checkParentheses 0 (front ++ back) := by
  refine checkParentheses_congr (fun depth => ?_) 0 front
  have hgroup := hinner.group depth back
  rwa [List.cons_append, List.append_assoc] at hgroup

theorem barOpen_within (hinner : barOpen false inner = false) {front : List Token}
    (hfront : barOpen false front = false) (back : List Token) :
    barOpen false (front ++ .leftParen :: (inner ++ .rightParen :: back)) =
      barOpen false back := by
  rw [barOpen_append, hfront]
  show barOpen false (inner ++ .rightParen :: back) = _
  rw [barOpen_append, hinner]
  rfl

/-- The signs and bars of a group are settled on their own, and so are those in front
of it. -/
theorem settled_within (hinner : barOpen false inner = false) {front : List Token}
    (hfront : barOpen false front = false) (back : List Token) :
    settled (front ++ .leftParen :: (inner ++ .rightParen :: back)) =
      settled front ++ .leftParen :: (settled inner ++
        .rightParen :: replaceBars false (markNegations (some .rightParen) back)) := by
  have hgroup : ∀ previous, markNegations previous (.leftParen :: (inner ++ .rightParen :: back)) =
      .leftParen :: (markNegations none inner ++
        .rightParen :: markNegations (some .rightParen) back) := by
    intro previous
    show Token.leftParen :: markNegations (some .leftParen) (inner ++ .rightParen :: back) = _
    rw [markNegations_append, markNegations_of_opens rfl inner]
    rfl
  rw [settled, markNegations_append, hgroup, replaceBars_append, barOpen_markNegations, hfront]
  show settled front ++ .leftParen :: replaceBars false (markNegations none inner ++
    .rightParen :: markNegations (some .rightParen) back) = _
  rw [replaceBars_append, barOpen_markNegations, hinner]
  rfl

/-- The three passes in one. -/
theorem prepare_eq (tokens : List Token) :
    prepare tokens = (checkParentheses 0 tokens).bind fun _ =>
      if barOpen false tokens then .error (.fault .unbalancedBars) else .ok (settled tokens) := by
  rw [prepare, expandBars_markNegations]
  rfl

end Infix

namespace Postfix

open Infix

variable {table : OperatorTable} {front back inner left right ordered : List Token}

/-- **The run of a group** sends the order of the row in it and the function in front,
and goes on behind it. -/
theorem run_within (h : ofPrepared table inner = .ok ordered) (stack back : List Token) :
    run table stack (.leftParen :: (inner ++ .rightParen :: back)) =
      (run table (popFunction stack).2 back).map fun (more, final) =>
        (ordered ++ (popFunction stack).1 ++ more, final) := by
  have hsplit : Token.leftParen :: (inner ++ .rightParen :: back) =
      (.leftParen :: (inner ++ [.rightParen])) ++ back := by
    rw [List.cons_append, List.append_assoc]
    rfl
  rw [hsplit, run_append, run_group h stack]
  rfl

theorem ofPrepared_congr (hleft : ofPrepared table left = .ok ordered)
    (hright : ofPrepared table right = .ok ordered) (front back : List Token) :
    ofPrepared table (front ++ .leftParen :: (left ++ .rightParen :: back)) =
      ofPrepared table (front ++ .leftParen :: (right ++ .rightParen :: back)) := by
  simp only [ofPrepared, run_append, run_within hleft, run_within hright]

/-- **A group stands for the order of the row in it.**  Rows of the same order may take
each other's place in any group, if no bar is open in front of it; the group alone has
the order of its row, and behind a function that order and then the function. -/
theorem ofInfix_transparent (hbars : Token.count .bar front % 2 = 0)
    (hleft : ofInfix table left = .ok ordered) (hright : ofInfix table right = .ok ordered) :
    ofInfix table (front ++ .leftParen :: (left ++ .rightParen :: back)) =
      ofInfix table (front ++ .leftParen :: (right ++ .rightParen :: back)) ∧
    ofInfix table (.leftParen :: (left ++ [.rightParen])) = ofInfix table left ∧
    ∀ name, ofInfix table (⟨.function, name⟩ :: .leftParen :: (left ++ [.rightParen])) =
      .ok (ordered ++ [⟨.function, name⟩]) := by
  obtain ⟨hbalanced, hclosed, hordered⟩ := ofInfix_eq_ok_iff.1 hleft
  obtain ⟨hbalanced', hclosed', hordered'⟩ := ofInfix_eq_ok_iff.1 hright
  have hfront : barOpen false front = false := by
    rw [barOpen_eq_decide, hbars]
    rfl
  refine ⟨?_, (ofInfix_group hleft).trans hleft.symm, fun name => ofInfix_call_group name hleft⟩
  rw [ofInfix, ofInfix, prepare_eq, prepare_eq, checkParentheses_within hbalanced,
    checkParentheses_within hbalanced', barOpen_within hclosed hfront,
    barOpen_within hclosed' hfront, settled_within hclosed hfront, settled_within hclosed' hfront]
  cases checkParentheses 0 (front ++ back) with
  | error failure => rfl
  | ok _ =>
      cases barOpen false back with
      | true => rfl
      | false => exact ofPrepared_congr hordered hordered' _ _

/-- A product with and without parentheses of its own, behind a pair of bars that a
parenthesis crosses. -/
theorem ofInfix_transparent_product :
    ofInfix .standard [⟨.number, "3"⟩, .times, ⟨.constant, "e"⟩] =
      .ok [⟨.number, "3"⟩, ⟨.constant, "e"⟩, .times] ∧
    ofInfix .standard [.leftParen, ⟨.number, "3"⟩, .rightParen, .times, ⟨.constant, "e"⟩] =
      .ok [⟨.number, "3"⟩, ⟨.constant, "e"⟩, .times] ∧
    ofInfix .standard ([.bar, .leftParen, .bar, ⟨.operator, "-"⟩] ++
        .leftParen :: ([⟨.number, "3"⟩, .times, ⟨.constant, "e"⟩] ++
          .rightParen :: [⟨.operator, "^"⟩, ⟨.number, "2"⟩, .rightParen])) =
      ofInfix .standard ([.bar, .leftParen, .bar, ⟨.operator, "-"⟩] ++
        .leftParen :: ([.leftParen, ⟨.number, "3"⟩, .rightParen, .times, ⟨.constant, "e"⟩] ++
          .rightParen :: [⟨.operator, "^"⟩, ⟨.number, "2"⟩, .rightParen])) ∧
    ofInfix .standard [.leftParen, ⟨.number, "3"⟩, .times, ⟨.constant, "e"⟩, .rightParen] =
      ofInfix .standard [⟨.number, "3"⟩, .times, ⟨.constant, "e"⟩] ∧
    ofInfix .standard
        [⟨.function, "ln"⟩, .leftParen, ⟨.number, "3"⟩, .times, ⟨.constant, "e"⟩, .rightParen] =
      .ok [⟨.number, "3"⟩, ⟨.constant, "e"⟩, .times, ⟨.function, "ln"⟩] := by
  have hplain : ofInfix .standard [⟨.number, "3"⟩, .times, ⟨.constant, "e"⟩] =
      .ok [⟨.number, "3"⟩, ⟨.constant, "e"⟩, .times] := rfl
  have hgrouped : ofInfix .standard
      [.leftParen, ⟨.number, "3"⟩, .rightParen, .times, ⟨.constant, "e"⟩] =
      .ok [⟨.number, "3"⟩, ⟨.constant, "e"⟩, .times] := rfl
  obtain ⟨hcontext, hgroup, hcall⟩ :=
    @ofInfix_transparent .standard [.bar, .leftParen, .bar, ⟨.operator, "-"⟩]
      [⟨.operator, "^"⟩, ⟨.number, "2"⟩, .rightParen] _ _ _ (by decide) hplain hgrouped
  exact ⟨hplain, hgrouped, hcontext, hgroup, hcall "ln"⟩

end Postfix

end Calculator
