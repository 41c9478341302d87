import Calculator.Proofs.Ordering.Moves

/-!
# What the order keeps of a row

The order of a row has the tokens of the prepared row, each as often, but for the
parentheses, and it has the operands of the row in their old order.

That no token is lost is known of a run (`run_perm`), but says nothing about their
order, and a parenthesis could still be among those that are sent.  Both follow from
what one token sends (`Moves.sends`): an operand sends itself and nothing else, and
all other tokens send functions and operators, since nothing else waits above a
left parenthesis (`CanWait`).  So operands pass the stack by, one after the other.

The preparation makes up signs, calls and parentheses in the place of minus signs and
bars.  None of them is an operand (`operands_settled`).
-/

namespace Calculator

open scoped List

/-- The operands of a row, in their order. -/
def Token.operands (tokens : List Token) : List Token :=
  tokens.filter Token.isOperand

@[simp] theorem Token.operands_append (left right : List Token) :
    operands (left ++ right) = operands left ++ operands right :=
  List.filter_append ..

theorem Token.operands_cons (token : Token) (tokens : List Token) :
    operands (token :: tokens) = operands [token] ++ operands tokens :=
  operands_append [token] tokens

theorem Token.operands_of_not_isOperand {token : Token} (h : token.isOperand = false) :
    operands [token] = [] := by
  simp [operands, h]

/-- Functions and operators are neither operands nor delimiters. -/
theorem Token.operands_of_operations {tokens : List Token}
    (h : ∀ token ∈ tokens, token.kind = .function ∨ token.kind = .operator) :
    operands tokens = [] ∧ ∀ token ∈ tokens, token.isDelimiter = false := by
  refine ⟨List.filter_eq_nil_iff.2 fun token hmem => ?_, fun token hmem => ?_⟩
  · rcases h token hmem with hkind | hkind <;> simp [isOperand, hkind]
  · rcases h token hmem with hkind | hkind <;> rw [isDelimiter, hkind]

/-! ### The preparation -/

namespace Infix

theorem operands_markNegations (previous : Option Token) (tokens : List Token) :
    Token.operands (markNegations previous tokens) = Token.operands tokens := by
  induction tokens generalizing previous with
  | nil => rfl
  | cons token rest ih =>
      rw [markNegations, Token.operands_cons, Token.operands_cons token, ih]
      split
      · next h =>
          -- neither a minus nor a sign is an operand
          rw [Bool.and_eq_true, Bool.and_eq_true] at h
          have hkind := of_decide_eq_true h.1.1
          have hminus : token.isOperand = false := by simp [Token.isOperand, hkind]
          rw [Token.operands_of_not_isOperand hminus]
          rfl
      · rfl

theorem operands_replaceBars (inside : Bool) (tokens : List Token) :
    Token.operands (replaceBars inside tokens) = Token.operands tokens := by
  induction tokens generalizing inside with
  | nil => rfl
  | cons token rest ih =>
      rw [replaceBars, Token.operands_cons token]
      split
      · next hbar =>
          rw [Token.operands_of_not_isOperand (by simp [Token.isOperand, hbar])]
          cases inside with
          | true => exact ih false
          | false => exact ih true
      · rw [Token.operands_cons, ih]

theorem operands_settled (tokens : List Token) :
    Token.operands (settled tokens) = Token.operands tokens := by
  rw [settled, operands_replaceBars, operands_markNegations]

end Infix

/-! ### The ordering -/

namespace Postfix

open Infix

variable {table : OperatorTable} {token : Token}
  {tokens stack stack' sent ordered : List Token}

/-- What waits is a function or an operator, unless it is a left parenthesis. -/
theorem CanWait.operation (h : CanWait token) (hkind : token.kind ≠ .leftParen) :
    token.kind = .function ∨ token.kind = .operator := by
  rcases h with hfunction | hoperator | hleft
  · exact Or.inl hfunction
  · exact Or.inr hoperator
  · exact absurd hleft hkind

/-- **One token** sends the operand that it is, if it is one, and never a delimiter. -/
theorem Moves.sends (h : Moves table token stack sent stack')
    (hstack : ∀ waiting ∈ stack, CanWait waiting) :
    Token.operands sent = Token.operands [token] ∧
      ∀ waiting ∈ sent, waiting.isDelimiter = false := by
  cases h with
  | operand hkind =>
      refine ⟨rfl, List.forall_mem_singleton.2 ?_⟩
      rcases hkind with h | h <;> rw [Token.isDelimiter, h]
  | wait hkind =>
      have hnone : token.isOperand = false := by
        rcases hkind with h | h <;> simp [Token.isOperand, h]
      exact ⟨(Token.operands_of_not_isOperand hnone).symm, List.forall_mem_nil _⟩
  | operator hkind hcoming hsent hblocks =>
      have hnone : token.isOperand = false := by simp [Token.isOperand, hkind]
      rw [Token.operands_of_not_isOperand hnone]
      exact Token.operands_of_operations fun waiting hmem => Or.inr (hsent waiting hmem).1
  | @close partner pending below hkind hpending hpartner =>
      have hnone : token.isOperand = false := by simp [Token.isOperand, hkind]
      rw [Token.operands_of_not_isOperand hnone]
      refine Token.operands_of_operations fun waiting hmem => ?_
      rcases List.mem_append.1 hmem with hmem | hmem
      · exact (hstack waiting (List.mem_append_left _ hmem)).operation (hpending waiting hmem)
      · exact Or.inl ((popFunction_cut below).2 waiting hmem)
  | bar hkind =>
      have hnone : token.isOperand = false := by simp [Token.isOperand, hkind]
      exact ⟨(Token.operands_of_not_isOperand hnone).symm, List.forall_mem_nil _⟩

/-- **All tokens** in turn: their operands are sent in their order, and no delimiter
is. -/
theorem operands_of_run (h : run table stack tokens = .ok (sent, stack'))
    (hstack : ∀ waiting ∈ stack, CanWait waiting) :
    Token.operands sent = Token.operands tokens ∧
      ∀ waiting ∈ sent, waiting.isDelimiter = false := by
  induction tokens generalizing stack sent with
  | nil =>
      obtain ⟨rfl, rfl⟩ := run_nil_eq_ok_iff.1 h
      exact ⟨rfl, List.forall_mem_nil _⟩
  | cons token rest ih =>
      obtain ⟨first, middle, more, hmoves, hrun, rfl⟩ := run_cons_eq_ok_iff.1 h
      obtain ⟨hfirst, hplain⟩ := hmoves.sends hstack
      obtain ⟨hmore, hplain'⟩ := ih hrun (canWait_of_moves hmoves hstack)
      rw [Token.operands_append, Token.operands_cons, hfirst, hmore]
      exact ⟨rfl, List.forall_mem_append.2 ⟨hplain, hplain'⟩⟩

/-- The order of a prepared row: what is left at the end are functions and
operators. -/
theorem operands_of_ofPrepared (h : ofPrepared table tokens = .ok ordered) :
    Token.operands ordered = Token.operands tokens ∧
      ∀ token ∈ ordered, token.isDelimiter = false := by
  obtain ⟨sent, stack, hrun, rfl, hstack⟩ := ofPrepared_eq_ok_iff.1 h
  have hwaits := canWait_of_run hrun (List.forall_mem_nil _)
  obtain ⟨hsent, hplain⟩ := operands_of_run hrun (List.forall_mem_nil _)
  obtain ⟨hnone, hplain'⟩ := Token.operands_of_operations fun waiting hmem =>
    (hwaits waiting hmem).operation (hstack waiting hmem).1
  rw [Token.operands_append, hsent, hnone, List.append_nil]
  exact ⟨rfl, List.forall_mem_append.2 ⟨hplain, hplain'⟩⟩

theorem kept_of_not_isDelimiter (h : ∀ token ∈ tokens, token.isDelimiter = false) :
    kept tokens = tokens :=
  List.filter_eq_self.2 fun token hmem => by rw [h token hmem]; rfl

/-- The order of a prepared row is the row without its delimiters, in some order. -/
theorem perm_of_ofPrepared (h : ofPrepared table tokens = .ok ordered) :
    ordered ~ kept tokens := by
  obtain ⟨-, hplain⟩ := operands_of_ofPrepared h
  obtain ⟨sent, stack, hrun, rfl, -⟩ := ofPrepared_eq_ok_iff.1 h
  have hperm := run_perm hrun
  rwa [kept_of_not_isDelimiter hplain] at hperm

/-- Where there is no bar, parentheses are all that is not kept. -/
theorem kept_of_no_bar (h : ∀ token ∈ tokens, token.kind ≠ .bar) :
    kept tokens =
      tokens.filter fun token => token.kind ≠ .leftParen ∧ token.kind ≠ .rightParen := by
  refine List.filter_congr fun token hmem => ?_
  have hbar := h token hmem
  obtain ⟨kind, text⟩ := token
  cases kind with
  | bar => exact absurd rfl hbar
  | number | constant | operator | function | leftParen | rightParen => rfl

theorem kind_of_not_isDelimiter (h : token.isDelimiter = false) :
    token.kind ≠ .leftParen ∧ token.kind ≠ .rightParen ∧ token.kind ≠ .bar := by
  obtain ⟨kind, text⟩ := token
  cases kind with
  | leftParen | rightParen | bar => cases h
  | number | constant | operator | function => simp

/-- **The order keeps all tokens of a row.**  It has the prepared row without its
parentheses, each token as often, no parenthesis and no bar, and the operands as
they stand in the row. -/
theorem ofInfix_conserves (h : ofInfix table tokens = .ok ordered) :
    ∃ rewritten, expandBars false (markNegations none tokens) = .ok rewritten ∧
      ordered ~ rewritten.filter
        (fun token => token.kind ≠ .leftParen ∧ token.kind ≠ .rightParen) ∧
      (∀ token ∈ ordered,
        token.kind ≠ .leftParen ∧ token.kind ≠ .rightParen ∧ token.kind ≠ .bar) ∧
      ordered.filter Token.isOperand = tokens.filter Token.isOperand := by
  obtain ⟨rewritten, hprepare, hordered⟩ := bind_eq_ok_iff.1 h
  obtain ⟨-, -, hexpand⟩ := bind_eq_ok_iff.1 hprepare
  obtain ⟨-, -, hsettled⟩ := prepare_eq_ok_iff.1 hprepare
  obtain ⟨hoperands, hplain⟩ := operands_of_ofPrepared hordered
  refine ⟨rewritten, hexpand, ?_, fun token hmem => kind_of_not_isDelimiter (hplain token hmem), ?_⟩
  · rw [← kept_of_no_bar (not_bar_of_prepare hprepare)]
    exact perm_of_ofPrepared hordered
  · calc Token.operands ordered
        = Token.operands rewritten := hoperands
      _ = Token.operands tokens := by rw [hsettled, operands_settled]

/-- A bar and a parenthesis that cross. -/
theorem ofInfix_conserves_crossing :
    ofInfix .standard [⟨.number, "2"⟩, ⟨.operator, "^"⟩, .leftParen, .bar, ⟨.constant, "e"⟩,
        .rightParen, .bar] =
      .ok [⟨.number, "2"⟩, ⟨.constant, "e"⟩, .magnitude, ⟨.operator, "^"⟩] ∧
    ∃ rewritten,
      expandBars false (markNegations none [⟨.number, "2"⟩, ⟨.operator, "^"⟩, .leftParen, .bar,
        ⟨.constant, "e"⟩, .rightParen, .bar]) = .ok rewritten ∧
      [⟨.number, "2"⟩, ⟨.constant, "e"⟩, .magnitude, ⟨.operator, "^"⟩] ~ rewritten.filter
        (fun token => token.kind ≠ .leftParen ∧ token.kind ≠ .rightParen) ∧
      (∀ token ∈ [⟨.number, "2"⟩, ⟨.constant, "e"⟩, .magnitude, ⟨.operator, "^"⟩],
        Token.kind token ≠ .leftParen ∧ token.kind ≠ .rightParen ∧ token.kind ≠ .bar) ∧
      [⟨.number, "2"⟩, ⟨.constant, "e"⟩, .magnitude, ⟨.operator, "^"⟩].filter Token.isOperand =
        [⟨.number, "2"⟩, ⟨.operator, "^"⟩, .leftParen, .bar, ⟨.constant, "e"⟩, .rightParen,
          .bar].filter Token.isOperand := by
  have hordered : ofInfix .standard [⟨.number, "2"⟩, ⟨.operator, "^"⟩, .leftParen, .bar,
      ⟨.constant, "e"⟩, .rightParen, .bar] =
      .ok [⟨.number, "2"⟩, ⟨.constant, "e"⟩, .magnitude, ⟨.operator, "^"⟩] := rfl
  exact ⟨hordered, ofInfix_conserves hordered⟩

end Postfix

end Calculator
