import Calculator.Proofs.Ordering.Moves

/-!
# Groups are ordered on their own

No move looks below a left parenthesis that waits: a coming operator stops there,
and a right parenthesis drops it.  So a row above one moves as it does on an empty
stack (`run_above`), and if it is ordered there, it is ordered within parentheses
as well, whatever the tokens in it are and whatever waits below (`run_group`).  A move
above a function is the same too, unless a right parenthesis uncovers the function
(`Moves.above`).

The preparation also settles a group on its own, since the row in it leaves no bar
open and opens an operand at its start.  Together this gives the order of the rows
that are put together from groups: an operation stands behind the orders of its
operands.
-/

namespace Calculator.Postfix

open Infix

variable {table : OperatorTable} {token partner : Token}
  {tokens stack stack' below sent ordered : List Token}

/-! ### Above a token that waits -/

/-- At the bottom of the stack there is no left parenthesis, so a function below is not
uncovered by the partner of one. -/
def Grounded (stack : List Token) : Prop :=
  ∀ bottom ∈ stack.getLast?, bottom.kind ≠ .leftParen

theorem grounded_nil : Grounded [] := by
  intro bottom hbottom
  cases hbottom

theorem Grounded.of_append {above : List Token} (h : Grounded (above ++ below)) :
    Grounded below := by
  intro bottom hbottom
  refine h bottom ?_
  rw [List.getLast?_append, hbottom]
  rfl

/-- What comes to wait above others leaves the bottom as it is. -/
theorem Grounded.cons (h : Grounded stack) (hopen : stack = [] → token.kind ≠ .leftParen) :
    Grounded (token :: stack) := by
  intro bottom hbottom
  cases stack with
  | nil =>
      obtain rfl : token = bottom := Option.some.inj hbottom
      exact hopen rfl
  | cons top rest =>
      rw [List.getLast?_cons_cons] at hbottom
      exact h bottom hbottom

theorem popFunction_above (h : partner.kind = .function → stack ≠ []) (below : List Token) :
    popFunction (stack ++ partner :: below) =
      ((popFunction stack).1, (popFunction stack).2 ++ partner :: below) := by
  cases stack with
  | nil =>
      have hpartner : partner.kind ≠ .function := fun hfunction => h hfunction rfl
      simp [popFunction, hpartner]
  | cons top rest => by_cases hkind : top.kind = .function <;> simp [popFunction, hkind]

theorem blocks_above {coming : Operator} (hpartner : partner.kind ≠ .operator)
    (h : Blocks table coming stack) : Blocks table coming (stack ++ partner :: below) := by
  cases stack with
  | nil =>
      intro top htop hoperator
      obtain rfl : partner = top := Option.some.inj htop
      exact absurd hoperator hpartner
  | cons top rest => exact h

/-- **One token** moves above one that waits as if nothing were there, unless that is an
operator, or a function that a right parenthesis may uncover. -/
theorem Moves.above (h : Moves table token stack sent stack') (hoperator : partner.kind ≠ .operator)
    (hfunction : partner.kind = .function → Grounded stack) (below : List Token) :
    Moves table token (stack ++ partner :: below) sent (stack' ++ partner :: below) := by
  cases h with
  | operand hkind => exact .operand hkind
  | wait hkind => exact .wait hkind
  | operator hkind hcoming hsent hblocks =>
      rw [List.append_assoc]
      exact .operator hkind hcoming hsent (blocks_above hoperator hblocks)
  | @close inner pending rest hkind hpending hinner =>
      have hcover : partner.kind = .function → rest ≠ [] := by
        rintro hpartner rfl
        exact (hfunction hpartner).of_append inner rfl hinner
      have hclose : Moves table token (pending ++ inner :: (rest ++ partner :: below)) _ _ :=
        .close hkind hpending hinner
      rw [popFunction_above hcover] at hclose
      rwa [List.append_assoc]
  | bar hkind => exact .bar hkind

/-- **A row** runs above a left parenthesis as it does on its own. -/
theorem run_above (h : run table stack tokens = .ok (sent, stack'))
    (hpartner : partner.kind = .leftParen) (below : List Token) :
    run table (stack ++ partner :: below) tokens = .ok (sent, stack' ++ partner :: below) := by
  induction tokens generalizing stack sent with
  | nil =>
      obtain ⟨rfl, rfl⟩ := run_nil_eq_ok_iff.1 h
      rfl
  | cons token rest ih =>
      obtain ⟨first, middle, more, hmoves, hrun, rfl⟩ := run_cons_eq_ok_iff.1 h
      exact run_cons_eq_ok_iff.2
        ⟨first, middle ++ partner :: below, more,
          hmoves.above (by simp [hpartner]) (by simp [hpartner]) below, ih hrun, rfl⟩

/-- **A group** sends the order of the row in it, and then the function in front. -/
theorem run_group (h : ofPrepared table tokens = .ok ordered) (below : List Token) :
    run table below (.leftParen :: (tokens ++ [.rightParen])) =
      .ok (ordered ++ (popFunction below).1, (popFunction below).2) := by
  obtain ⟨sent, pending, hrun, rfl, hpending⟩ := ofPrepared_eq_ok_iff.1 h
  have hopen : step table below .leftParen = .ok ([], .leftParen :: below) := rfl
  have hinner : run table (.leftParen :: below) tokens =
      .ok (sent, pending ++ .leftParen :: below) := run_above hrun rfl below
  have hclose : run table (pending ++ .leftParen :: below) [.rightParen] =
      .ok (pending ++ (popFunction below).1 ++ [], (popFunction below).2) :=
    run_cons_ok (closeGroup_append (fun waiting hmem => (hpending waiting hmem).1) rfl) rfl
  have hgroup := run_cons_ok hopen (run_append_ok hinner hclose)
  rwa [List.nil_append, List.append_nil, ← List.append_assoc] at hgroup

/-! ### Rows put together from groups -/

theorem ofInfix_eq_ok_iff :
    ofInfix table tokens = .ok ordered ↔ Balanced tokens ∧ barOpen false tokens = false ∧
      ofPrepared table (settled tokens) = .ok ordered := by
  constructor
  · intro h
    obtain ⟨prepared, hprepare, hordered⟩ := bind_eq_ok_iff.1 h
    obtain ⟨hcheck, hclosed, rfl⟩ := prepare_eq_ok_iff.1 hprepare
    exact ⟨balanced_of_checkParentheses hcheck, hclosed, hordered⟩
  · rintro ⟨hbalanced, hclosed, hordered⟩
    exact bind_eq_ok_iff.2 ⟨_, prepare_eq_settled hbalanced hclosed, hordered⟩

theorem barOpen_group (h : barOpen false tokens = false) :
    barOpen false (.leftParen :: (tokens ++ [.rightParen])) = false := by
  show barOpen false (tokens ++ [.rightParen]) = false
  rw [barOpen_append, h]
  rfl

/-- A group has the order of the row in it. -/
theorem ofInfix_group (h : ofInfix table tokens = .ok ordered) :
    ofInfix table (.leftParen :: (tokens ++ [.rightParen])) = .ok ordered := by
  obtain ⟨hbalanced, hclosed, hordered⟩ := ofInfix_eq_ok_iff.1 h
  refine ofInfix_eq_ok_iff.2 ⟨hbalanced.group, barOpen_group hclosed, ?_⟩
  rw [settled_group hclosed]
  have hrow := ofPrepared_of_run (run_group hordered []) (List.forall_mem_nil _)
  rwa [popFunction, List.append_nil, List.append_nil] at hrow

/-- The sign of a group stands behind the order of the row in it. -/
theorem ofInfix_negation_group {sign : Operator} (hsign : table Token.negation.text = some sign)
    (h : ofInfix table tokens = .ok ordered) :
    ofInfix table (⟨.operator, "-"⟩ :: .leftParen :: (tokens ++ [.rightParen])) =
      .ok (ordered ++ [.negation]) := by
  obtain ⟨hbalanced, hclosed, hordered⟩ := ofInfix_eq_ok_iff.1 h
  have hminus : Balanced [⟨.operator, "-"⟩] := balanced_singleton _ (by decide) (by decide)
  refine ofInfix_eq_ok_iff.2 ⟨hminus.append hbalanced.group, barOpen_group hclosed, ?_⟩
  have hwait : step table [] .negation = .ok ([], [.negation]) :=
    step_eq_ok_iff.2 (.operator rfl hsign (List.forall_mem_nil _) blocks_nil)
  have hgroup := run_group hordered [.negation]
  rw [popFunction_of_not_function (by decide), List.append_nil] at hgroup
  rw [settled_minus, settled_group hclosed]
  exact ofPrepared_of_run (run_cons_ok hwait hgroup) (by decide)

/-- A function of a group stands behind the order of the row in it. -/
theorem ofInfix_call_group (name : String) (h : ofInfix table tokens = .ok ordered) :
    ofInfix table (⟨.function, name⟩ :: .leftParen :: (tokens ++ [.rightParen])) =
      .ok (ordered ++ [⟨.function, name⟩]) := by
  obtain ⟨hbalanced, hclosed, hordered⟩ := ofInfix_eq_ok_iff.1 h
  have hname : Balanced [⟨.function, name⟩] := balanced_singleton _ (by simp) (by simp)
  refine ofInfix_eq_ok_iff.2 ⟨hname.append hbalanced.group, barOpen_group hclosed, ?_⟩
  have hwait : step table [] ⟨.function, name⟩ = .ok ([], [⟨.function, name⟩]) := rfl
  have hgroup : run table [⟨.function, name⟩] (.leftParen :: (settled tokens ++ [.rightParen])) =
      .ok (ordered ++ [⟨.function, name⟩], []) := run_group hordered _
  rw [settled_call, settled_group hclosed]
  have hrow := ofPrepared_of_run (run_cons_ok hwait hgroup) (List.forall_mem_nil _)
  rwa [List.append_nil, List.nil_append] at hrow

/-- An operator between two groups stands behind the orders of both. -/
theorem ofInfix_operator_groups {symbol : String} {op : Operator} {left right : List Token}
    {orderedLeft orderedRight : List Token} (hop : table symbol = some op)
    (hl : ofInfix table left = .ok orderedLeft) (hr : ofInfix table right = .ok orderedRight) :
    ofInfix table (.leftParen :: (left ++ [.rightParen]) ++
        ⟨.operator, symbol⟩ :: .leftParen :: (right ++ [.rightParen])) =
      .ok (orderedLeft ++ orderedRight ++ [⟨.operator, symbol⟩]) := by
  obtain ⟨hbalancedLeft, hclosedLeft, horderedLeft⟩ := ofInfix_eq_ok_iff.1 hl
  obtain ⟨hbalancedRight, hclosedRight, horderedRight⟩ := ofInfix_eq_ok_iff.1 hr
  have hone : Balanced [⟨.operator, symbol⟩] := balanced_singleton _ (by simp) (by simp)
  have hbalanced := hbalancedLeft.group.append (hone.append hbalancedRight.group)
  have hclosed : barOpen false (.leftParen :: (left ++ [.rightParen]) ++
      ⟨.operator, symbol⟩ :: .leftParen :: (right ++ [.rightParen])) = false := by
    rw [barOpen_append, barOpen_group hclosedLeft]
    exact barOpen_group hclosedRight
  have hend : EndsOperand (.leftParen :: (left ++ [.rightParen])) := by
    have hclose : EndsOperand [.rightParen] := rfl
    exact (hclose.append _).cons _
  refine ofInfix_eq_ok_iff.2 ⟨hbalanced, hclosed, ?_⟩
  -- after the left group nothing waits, so the operator sends nothing
  have hleft := run_group horderedLeft []
  rw [popFunction, List.append_nil] at hleft
  have hwait : step table [] ⟨.operator, symbol⟩ = .ok ([], [⟨.operator, symbol⟩]) :=
    step_eq_ok_iff.2 (.operator rfl hop (List.forall_mem_nil _) blocks_nil)
  have hright := run_group horderedRight [⟨.operator, symbol⟩]
  rw [popFunction_of_not_function (by simp), List.append_nil] at hright
  rw [settled_operator hend (barOpen_group hclosedLeft), settled_group hclosedLeft,
    settled_group hclosedRight]
  exact ofPrepared_of_run (run_append_ok hleft (run_cons_ok hwait hright)) (by simp)

end Calculator.Postfix
