import Calculator.Evaluation

/-!
# Expression trees

What an expression means apart from the order of its tokens: a tree of
operations over numbers and constants.  Operands are computed from left to
right, and the first failure among them is the failure of the whole.

The listing of a tree writes every operation after its operands.  Evaluating a
listing comes to the value of the tree, whatever stands on the stack and
whatever follows: the value is pushed, and the rest is evaluated from there.
-/

namespace Calculator

inductive Tree where
  | number (text : String)
  | constant (symbol : String)
  | call (name : String) (operand : Tree)
  | negation (operand : Tree)
  | binary (symbol : String) (left right : Tree)
  deriving DecidableEq, Repr

namespace Tree

/-- The tokens of a tree, every operation after its operands. -/
def listing : Tree → List Token
  | number text => [⟨.number, text⟩]
  | constant symbol => [⟨.constant, symbol⟩]
  | call name operand => operand.listing ++ [⟨.function, name⟩]
  | negation operand => operand.listing ++ [Token.negation]
  | binary symbol left right => left.listing ++ right.listing ++ [⟨.operator, symbol⟩]

/-- The value of a tree under a unit of angles. -/
def value (unit : AngleUnit) : Tree → Except Failure Float
  | number text => Postfix.literal text
  | constant symbol => Constant.valueOf symbol
  | call name operand => do
    let x ← operand.value unit
    NamedFunction.applyNamed name unit x
  | negation operand => do
    let x ← operand.value unit
    return -x
  | binary symbol left right => do
    let x ← left.value unit
    let y ← right.value unit
    BinaryOperation.applySymbol symbol x y

/-- Whether no operation on two operands has the symbol of the sign, so that
the listing tells the two apart. -/
def Unambiguous : Tree → Prop
  | number _ | constant _ => True
  | call _ operand | negation operand => operand.Unambiguous
  | binary symbol left right =>
    symbol ≠ Token.negation.text ∧ left.Unambiguous ∧ right.Unambiguous

end Tree

namespace Postfix

theorem evaluateStep_binary {symbol : String} (h : symbol ≠ Token.negation.text)
    (unit : AngleUnit) (x y : Float) (stack : List Float) :
    evaluateStep unit (y :: x :: stack) ⟨.operator, symbol⟩ =
      (BinaryOperation.applySymbol symbol x y).map (· :: stack) := by
  simp only [evaluateStep, Token.isNegation_of_ne h, Bool.false_eq_true, if_false]
  cases BinaryOperation.applySymbol symbol x y <;> rfl

/-- Evaluating a listing pushes the value of the tree and goes on. -/
theorem evaluateFrom_listing_append (unit : AngleUnit) {tree : Tree} (h : tree.Unambiguous)
    (stack : List Float) (rest : List Token) :
    evaluateFrom unit stack (tree.listing ++ rest) =
      (tree.value unit).bind fun x => evaluateFrom unit (x :: stack) rest := by
  induction tree generalizing stack rest with
  | number text =>
      simp only [Tree.listing, Tree.value, List.cons_append, List.nil_append, evaluateFrom,
        evaluateStep]
      cases literal text <;> rfl
  | constant symbol =>
      simp only [Tree.listing, Tree.value, List.cons_append, List.nil_append, evaluateFrom,
        evaluateStep]
      cases Constant.valueOf symbol <;> rfl
  | call name operand ih =>
      simp only [Tree.listing, Tree.value, List.append_assoc, List.cons_append, List.nil_append]
      rw [ih h]
      cases operand.value unit with
      | error failure => rfl
      | ok x =>
          simp only [bind, Except.bind, evaluateFrom, evaluateStep]
          cases NamedFunction.applyNamed name unit x <;> rfl
  | negation operand ih =>
      simp only [Tree.listing, Tree.value, List.append_assoc, List.cons_append, List.nil_append]
      rw [ih h]
      cases operand.value unit <;> rfl
  | binary symbol left right ihl ihr =>
      simp only [Tree.listing, Tree.value, List.append_assoc, List.cons_append, List.nil_append]
      rw [ihl h.2.1]
      cases left.value unit with
      | error failure => rfl
      | ok x =>
          simp only [Except.bind]
          rw [ihr h.2.2]
          cases right.value unit with
          | error failure => rfl
          | ok y =>
              simp only [bind, Except.bind, evaluateFrom, evaluateStep_binary h.1]
              cases BinaryOperation.applySymbol symbol x y <;> rfl

theorem evaluate_listing (unit : AngleUnit) {tree : Tree} (h : tree.Unambiguous) :
    evaluate unit tree.listing = tree.value unit := by
  have key := evaluateFrom_listing_append unit h [] []
  rw [List.append_nil] at key
  simp only [evaluate, key, bind]
  cases tree.value unit <;> rfl

end Postfix

end Calculator
