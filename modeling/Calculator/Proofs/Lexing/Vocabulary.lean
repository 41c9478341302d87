import Calculator.Evaluation
import Calculator.Operator
import Calculator.Proofs.Lexing.Decimal

/-!
# The words of expressions

Three classes of tokens, each smaller than the one before.

* `Token.isKnown`: the evaluation can look its text up, and the standard table
  has it if it is an operator.  Delimiters have nothing to look up.
* `Token.isOperation`: known, and no delimiter.  These are the tokens that a
  postfix order is made of.
* `Token.isLexeme`: it can stand in the text of an expression.  The sign is
  known but is no lexeme, since it is written as a minus.

A text that a table has is the text of exactly one entry, which the three
`_eq_some_iff` lemmas say; everything about tokens of one kind goes through
them.
-/

namespace Calculator

/-! ### Looking up a text -/

theorem NamedFunction.ofName?_eq_some_iff {name : String} {f : NamedFunction} :
    ofName? name = some f ↔ name = f.name := by
  constructor
  · intro h
    unfold ofName? at h
    have hfound := List.find?_some h
    exact (of_decide_eq_true hfound).symm
  · rintro rfl
    exact ofName?_name f

theorem Constant.ofSymbol?_eq_some_iff {symbol : String} {constant : Constant} :
    ofSymbol? symbol = some constant ↔ symbol = constant.symbol := by
  constructor
  · intro h
    unfold ofSymbol? at h
    have hfound := List.find?_some h
    exact (of_decide_eq_true hfound).symm
  · rintro rfl
    exact ofSymbol?_symbol constant

theorem BinaryOperation.ofSymbol?_eq_some_iff {symbol : String} {operation : BinaryOperation} :
    ofSymbol? symbol = some operation ↔ symbol = operation.symbol := by
  constructor
  · intro h
    unfold ofSymbol? at h
    have hfound := List.find?_some h
    exact (of_decide_eq_true hfound).symm
  · rintro rfl
    exact ofSymbol?_symbol operation

namespace Token

/-- Whether everything that the evaluation looks up for a token is there. -/
def isKnown (token : Token) : Bool :=
  match token.kind with
  | .number => (Number.ofText? token.text).isSome
  | .constant => (Constant.ofSymbol? token.text).isSome
  | .function => (NamedFunction.ofName? token.text).isSome
  | .operator => token.isNegation || (BinaryOperation.ofSymbol? token.text).isSome
  | .leftParen | .rightParen | .bar => true

def isDelimiter (token : Token) : Bool :=
  match token.kind with
  | .leftParen | .rightParen | .bar => true
  | .number | .constant | .operator | .function => false

/-- Whether a token is an operand, a function or an operator that the
evaluation knows. -/
def isOperation (token : Token) : Bool :=
  token.isKnown && !token.isDelimiter

/-- Whether a token can stand in the text of an expression. -/
def isLexeme (token : Token) : Bool :=
  match token.kind with
  | .number => Number.isPlainDecimal token.text.toList
  | .constant => (Constant.ofSymbol? token.text).isSome
  | .function => (NamedFunction.ofName? token.text).isSome
  | .operator => (BinaryOperation.ofSymbol? token.text).isSome
  | .leftParen => token = .leftParen
  | .rightParen => token = .rightParen
  | .bar => token = .bar

/-! ### The tokens of each class -/

/-- The lexemes, kind by kind. -/
theorem isLexeme_cases {token : Token} (h : token.isLexeme = true) :
    (∃ text, token = ⟨.number, text⟩ ∧ Number.isPlainDecimal text.toList = true) ∨
      (∃ constant : Constant, token = ⟨.constant, constant.symbol⟩) ∨
      (∃ f : NamedFunction, token = ⟨.function, f.name⟩) ∨
      (∃ operation : BinaryOperation, token = ⟨.operator, operation.symbol⟩) ∨
      token = .leftParen ∨ token = .rightParen ∨ token = .bar := by
  obtain ⟨kind, text⟩ := token
  cases kind with
  | number => exact Or.inl ⟨text, rfl, h⟩
  | constant =>
      obtain ⟨constant, hconstant⟩ := Option.isSome_iff_exists.1 h
      obtain rfl : text = constant.symbol := Constant.ofSymbol?_eq_some_iff.1 hconstant
      exact Or.inr (Or.inl ⟨constant, rfl⟩)
  | function =>
      obtain ⟨f, hf⟩ := Option.isSome_iff_exists.1 h
      obtain rfl : text = f.name := NamedFunction.ofName?_eq_some_iff.1 hf
      exact Or.inr (Or.inr (Or.inl ⟨f, rfl⟩))
  | operator =>
      obtain ⟨operation, hoperation⟩ := Option.isSome_iff_exists.1 h
      obtain rfl : text = operation.symbol := BinaryOperation.ofSymbol?_eq_some_iff.1 hoperation
      exact Or.inr (Or.inr (Or.inr (Or.inl ⟨operation, rfl⟩)))
  | leftParen => simp [of_decide_eq_true h]
  | rightParen => simp [of_decide_eq_true h]
  | bar => simp [of_decide_eq_true h]

theorem isKnown_of_isLexeme {token : Token} (h : token.isLexeme = true) :
    token.isKnown = true := by
  rcases isLexeme_cases h with ⟨text, rfl, htext⟩ | ⟨constant, rfl⟩ | ⟨f, rfl⟩ | ⟨operation, rfl⟩ |
    rfl | rfl | rfl
  · exact Number.ofText?_isSome htext
  all_goals simp [isKnown, leftParen, rightParen, bar]

theorem isKnown_of_isOperation {token : Token} (h : token.isOperation = true) :
    token.isKnown = true :=
  (Bool.and_eq_true_iff.1 h).1

/-- A known token that is no delimiter is an operation. -/
theorem isOperation_of_isKnown {token : Token} (h : token.isKnown = true)
    (hdelimiter : token.isDelimiter = false) : token.isOperation = true := by
  rw [isOperation, h, hdelimiter]
  rfl

/-- An operator other than the sign is an operation on two operands. -/
theorem isSome_ofSymbol? {symbol : String} (hsymbol : symbol ≠ negation.text)
    (h : isKnown ⟨.operator, symbol⟩ = true) :
    (BinaryOperation.ofSymbol? symbol).isSome = true := by
  rcases Bool.or_eq_true_iff.1 h with hsign | hbinary
  · obtain ⟨-, htext⟩ := Bool.and_eq_true_iff.1 hsign
    exact absurd (of_decide_eq_true htext) hsymbol
  · exact hbinary

/-- An operator that is known is the sign or an operation on two operands. -/
theorem operator_cases {token : Token} (hkind : token.kind = .operator)
    (h : token.isKnown = true) :
    token = negation ∨ ∃ operation : BinaryOperation, token = ⟨.operator, operation.symbol⟩ := by
  obtain ⟨kind, text⟩ := token
  obtain rfl : kind = .operator := hkind
  by_cases hsymbol : text = negation.text
  · obtain rfl := hsymbol
    exact Or.inl rfl
  · obtain ⟨operation, hoperation⟩ := Option.isSome_iff_exists.1 (isSome_ofSymbol? hsymbol h)
    obtain rfl : text = operation.symbol := BinaryOperation.ofSymbol?_eq_some_iff.1 hoperation
    exact Or.inr ⟨operation, rfl⟩

/-- The standard table has every operator that the evaluation knows. -/
theorem exists_standard {token : Token} (hkind : token.kind = .operator)
    (h : token.isKnown = true) : ∃ found, OperatorTable.standard token.text = some found := by
  rcases operator_cases hkind h with rfl | ⟨operation, rfl⟩
  · exact ⟨⟨3, .right⟩, by decide⟩
  · cases operation <;> exact ⟨_, rfl⟩

end Token

end Calculator
