import Calculator.Proofs.Evaluating.Faults
import Mathlib.Data.List.Forall2

/-!
# The postfix orders that have a value

A list of tokens has a value only if it is the listing of a tree, and then the
value is that of the tree.  One direction follows the evaluation: at every
moment the stack holds the values of trees, and their listings, from the bottom
of the stack up, are the tokens read so far (`Stands`).  Since every step keeps
this, a single value at the end stands for a single tree that lists all tokens.

No other tree does.  The last token of a listing is the root of the tree, and
the listings of its operands end in front of it; so a tree is read off from the
right, whatever stands to its left (`eq_of_append_listing`).

Values have no part in how high the stack is: operands raise it by one and
operations on two operands lower it by one.
-/

namespace Calculator

/-- Whether a token is an operator on two operands. -/
def Token.isBinary (token : Token) : Bool :=
  token.kind = .operator && !token.isNegation

namespace Tree

/-! ### A listing has one tree -/

/-- The tokens are the listing of a tree, in which the sign has one operand. -/
structure Lists (tree : Tree) (tokens : List Token) : Prop where
  unambiguous : tree.Unambiguous
  listing_eq : tree.listing = tokens

/-- The token that a listing ends with. -/
def root : Tree → Token
  | number text => ⟨.number, text⟩
  | constant symbol => ⟨.constant, symbol⟩
  | call name _ => ⟨.function, name⟩
  | negation _ => Token.negation
  | binary symbol _ _ => ⟨.operator, symbol⟩

theorem exists_listing_eq (tree : Tree) : ∃ operands, tree.listing = operands ++ [tree.root] := by
  cases tree with
  | number text => exact ⟨[], rfl⟩
  | constant symbol => exact ⟨[], rfl⟩
  | call name operand => exact ⟨_, rfl⟩
  | negation operand => exact ⟨_, rfl⟩
  | binary symbol left right => exact ⟨_, rfl⟩

theorem root_eq_of_append_listing {tree tree' : Tree} {front front' : List Token}
    (h : front ++ tree.listing = front' ++ tree'.listing) : tree.root = tree'.root := by
  obtain ⟨operands, hoperands⟩ := exists_listing_eq tree
  obtain ⟨operands', hoperands'⟩ := exists_listing_eq tree'
  rw [hoperands, hoperands', ← List.append_assoc, ← List.append_assoc] at h
  exact (List.append_singleton_inj.1 h).2

/-- A listing can be read off from the right. -/
theorem eq_of_append_listing {tree tree' : Tree} (htree : tree.Unambiguous)
    (htree' : tree'.Unambiguous) {front front' : List Token}
    (h : front ++ tree.listing = front' ++ tree'.listing) : front = front' ∧ tree = tree' := by
  have hroot := root_eq_of_append_listing h
  induction tree generalizing tree' front front' with
  | number text =>
      cases tree' with
      | number text' =>
          cases hroot
          exact ⟨List.append_cancel_right h, rfl⟩
      | constant | call | negation | binary => cases hroot
  | constant symbol =>
      cases tree' with
      | constant symbol' =>
          cases hroot
          exact ⟨List.append_cancel_right h, rfl⟩
      | number | call | negation | binary => cases hroot
  | call name operand ih =>
      cases tree' with
      | call name' operand' =>
          cases hroot
          simp only [listing, ← List.append_assoc, List.append_cancel_right_eq] at h
          have hoperand' : operand'.Unambiguous := htree'
          obtain ⟨hfront, rfl⟩ := ih htree hoperand' h (root_eq_of_append_listing h)
          exact ⟨hfront, rfl⟩
      | number | constant | negation | binary => cases hroot
  | negation operand ih =>
      cases tree' with
      | negation operand' =>
          simp only [listing, ← List.append_assoc, List.append_cancel_right_eq] at h
          have hoperand' : operand'.Unambiguous := htree'
          obtain ⟨hfront, rfl⟩ := ih htree hoperand' h (root_eq_of_append_listing h)
          exact ⟨hfront, rfl⟩
      | binary symbol left right => exact absurd (congrArg Token.text hroot).symm htree'.1
      | number | constant | call => cases hroot
  | binary symbol left right ihl ihr =>
      cases tree' with
      | binary symbol' left' right' =>
          cases hroot
          simp only [listing, ← List.append_assoc, List.append_cancel_right_eq] at h
          -- the right operand ends where its own root stands, and the left one before it
          obtain ⟨hleft, rfl⟩ := ihr htree.2.2 htree'.2.2 h (root_eq_of_append_listing h)
          obtain ⟨hfront, rfl⟩ := ihl htree.2.1 htree'.2.1 hleft (root_eq_of_append_listing hleft)
          exact ⟨hfront, rfl⟩
      | negation operand => exact absurd (congrArg Token.text hroot) htree.1
      | number | constant | call => cases hroot

theorem Lists.unique {tree tree' : Tree} {tokens : List Token} (h : tree.Lists tokens)
    (h' : tree'.Lists tokens) : tree' = tree := by
  have hlisting : [] ++ tree'.listing = [] ++ tree.listing := by
    rw [h.listing_eq, h'.listing_eq]
  exact (eq_of_append_listing h'.unambiguous h.unambiguous hlisting).2

/-- The listings of the trees on a stack, from the bottom up. -/
def listings : List Tree → List Token
  | [] => []
  | tree :: below => listings below ++ tree.listing

end Tree

namespace Postfix

variable {unit : AngleUnit} {token : Token} {tokens : List Token} {stack stack' : List Float}

/-! ### What one token does -/

/-- How a token changes the stack if nothing goes wrong. -/
inductive Steps (unit : AngleUnit) : Token → List Float → List Float → Prop
  | number {text : String} {x : Float} {stack : List Float} (h : literal text = .ok x) :
      Steps unit ⟨.number, text⟩ stack (x :: stack)
  | constant {symbol : String} {x : Float} {stack : List Float}
      (h : Constant.valueOf symbol = .ok x) : Steps unit ⟨.constant, symbol⟩ stack (x :: stack)
  | call {name : String} {x y : Float} {below : List Float}
      (h : NamedFunction.applyNamed name unit x = .ok y) :
      Steps unit ⟨.function, name⟩ (x :: below) (y :: below)
  | negation {x : Float} {below : List Float} : Steps unit .negation (x :: below) (-x :: below)
  | binary {symbol : String} {x y z : Float} {below : List Float}
      (hsymbol : symbol ≠ Token.negation.text)
      (h : BinaryOperation.applySymbol symbol x y = .ok z) :
      Steps unit ⟨.operator, symbol⟩ (y :: x :: below) (z :: below)

theorem steps_of_evaluateStep (h : evaluateStep unit stack token = .ok stack') :
    Steps unit token stack stack' := by
  obtain ⟨kind, text⟩ := token
  cases kind with
  | number =>
      obtain ⟨x, hx, hok⟩ := bind_eq_ok_iff.1 h
      cases hok
      exact .number hx
  | constant =>
      obtain ⟨x, hx, hok⟩ := bind_eq_ok_iff.1 h
      cases hok
      exact .constant hx
  | function =>
      cases stack with
      | nil => cases h
      | cons x below =>
          obtain ⟨y, hy, hok⟩ := bind_eq_ok_iff.1 h
          cases hok
          exact .call hy
  | operator =>
      by_cases hsymbol : text = Token.negation.text
      · obtain rfl := hsymbol
        cases stack with
        | nil => cases h
        | cons x below =>
            cases h
            exact .negation
      · simp only [evaluateStep, Token.isNegation_of_ne hsymbol, Bool.false_eq_true, if_false] at h
        rcases stack with _ | ⟨y, _ | ⟨x, below⟩⟩
        · cases h
        · cases h
        · obtain ⟨z, hz, hok⟩ := bind_eq_ok_iff.1 h
          cases hok
          exact .binary hsymbol hz
  | leftParen | rightParen | bar => cases h

/-! ### The stack holds the values of trees -/

/-- Trees without ambiguous signs, and their values. -/
def Stands (unit : AngleUnit) : List Tree → List Float → Prop :=
  List.Forall₂ fun tree x => tree.Unambiguous ∧ tree.value unit = .ok x

/-- **One token** puts its own tree on top, and its operands off the stack. -/
theorem stands_of_steps {trees : List Tree} (h : Steps unit token stack stack')
    (hstands : Stands unit trees stack) :
    ∃ trees', Stands unit trees' stack' ∧
      Tree.listings trees' = Tree.listings trees ++ [token] := by
  cases h with
  | @number text x _ h => exact ⟨.number text :: trees, .cons ⟨trivial, h⟩ hstands, rfl⟩
  | @constant symbol x _ h => exact ⟨.constant symbol :: trees, .cons ⟨trivial, h⟩ hstands, rfl⟩
  | @call name x y below h =>
      cases hstands with
      | @cons operand _ trees _ htop hbelow =>
          refine ⟨.call name operand :: trees, .cons ⟨htop.1, ?_⟩ hbelow, ?_⟩
          · rw [Tree.value, htop.2]
            exact h
          · simp [Tree.listings, Tree.listing]
  | @negation x below =>
      cases hstands with
      | @cons operand _ trees _ htop hbelow =>
          refine ⟨.negation operand :: trees, .cons ⟨htop.1, ?_⟩ hbelow, ?_⟩
          · rw [Tree.value, htop.2]
            rfl
          · simp [Tree.listings, Tree.listing]
  | @binary symbol x y z below hsymbol h =>
      cases hstands with
      | @cons right _ _ _ hright hrest =>
          cases hrest with
          | @cons left _ trees _ hleft hbelow =>
              refine ⟨.binary symbol left right :: trees,
                .cons ⟨⟨hsymbol, hleft.1, hright.1⟩, ?_⟩ hbelow, ?_⟩
              · rw [Tree.value, hleft.2, hright.2]
                exact h
              · simp [Tree.listings, Tree.listing]

/-- **All tokens** are listed by the trees whose values are left. -/
theorem stands_of_evaluateFrom {trees : List Tree} (hstands : Stands unit trees stack)
    (h : evaluateFrom unit stack tokens = .ok stack') :
    ∃ trees', Stands unit trees' stack' ∧
      Tree.listings trees' = Tree.listings trees ++ tokens := by
  induction tokens generalizing trees stack with
  | nil =>
      cases h
      exact ⟨trees, hstands, (List.append_nil _).symm⟩
  | cons token rest ih =>
      obtain ⟨middle, hstep, hrest⟩ := bind_eq_ok_iff.1 h
      obtain ⟨trees', hstands', htoken⟩ := stands_of_steps (steps_of_evaluateStep hstep) hstands
      obtain ⟨trees'', hstands'', hlistings⟩ := ih hstands' hrest
      refine ⟨trees'', hstands'', ?_⟩
      rw [hlistings, htoken, List.append_assoc]
      rfl

theorem evaluate_eq_ok {x : Float} (h : evaluate unit tokens = .ok x) :
    evaluateFrom unit [] tokens = .ok [x] := by
  obtain ⟨stack, hstack, hok⟩ := bind_eq_ok_iff.1 h
  rcases stack with _ | ⟨y, _ | ⟨z, below⟩⟩
  · cases hok
  · cases hok
    exact hstack
  · cases hok

/-- Tokens that have a value are the listing of a tree with that value. -/
theorem exists_lists_of_evaluate {x : Float} (h : evaluate unit tokens = .ok x) :
    ∃ tree : Tree, tree.Lists tokens ∧ tree.value unit = .ok x := by
  have hempty : Stands unit [] [] := .nil
  obtain ⟨trees, hstands, hlistings⟩ := stands_of_evaluateFrom hempty (evaluate_eq_ok h)
  cases hstands with
  | @cons tree _ _ _ htop hbelow =>
      cases hbelow
      exact ⟨tree, ⟨htop.1, by simpa [Tree.listings] using hlistings⟩, htop.2⟩

/-! ### How high the stack is -/

theorem length_of_steps (h : Steps unit token stack stack') :
    stack'.length + [token].countP Token.isBinary =
      stack.length + [token].countP Token.isOperand := by
  cases h with
  | number | constant | call | negation =>
      simp [Token.isBinary, Token.isOperand, Token.isNegation, Token.negation]
  | binary hsymbol h => simp [Token.isBinary, Token.isOperand, Token.isNegation_of_ne hsymbol]

/-- **The height of the stack** depends on the tokens alone. -/
theorem length_of_evaluateFrom (h : evaluateFrom unit stack tokens = .ok stack') :
    stack'.length + tokens.countP Token.isBinary =
      stack.length + tokens.countP Token.isOperand := by
  induction tokens generalizing stack with
  | nil =>
      cases h
      simp
  | cons token rest ih =>
      obtain ⟨middle, hstep, hrest⟩ := bind_eq_ok_iff.1 h
      have htoken := length_of_steps (steps_of_evaluateStep hstep)
      have hafter := ih hrest
      rw [← List.singleton_append, List.countP_append, List.countP_append]
      omega

/-! ### Exactly the listings -/

theorem evaluate_of_lists {tree : Tree} (h : tree.Lists tokens) :
    evaluate unit tokens = tree.value unit := by
  rw [← h.listing_eq, evaluate_listing unit h.unambiguous]

/-- An order that lists a tree has nothing wrong with its form. -/
theorem failsOnly_of_lists {tree : Tree} (h : tree.Lists tokens)
    (hknown : ∀ token ∈ tokens, token.isKnown = true) :
    FailsOnly (fun fault => fault.kind ≠ .form) (evaluate unit tokens) := by
  rw [evaluate_of_lists h]
  refine Tree.failsOnly_value h.unambiguous fun token hmem => ?_
  rw [h.listing_eq] at hmem
  exact hknown token hmem

theorem evaluate_eq_ok_iff {x : Float} :
    evaluate unit tokens = .ok x ↔
      ∃ tree : Tree, tree.Lists tokens ∧ (∀ tree' : Tree, tree'.Lists tokens → tree' = tree) ∧
        tree.value unit = .ok x := by
  constructor
  · intro hx
    obtain ⟨tree, htree, hvalue⟩ := exists_lists_of_evaluate hx
    exact ⟨tree, htree, fun tree' htree' => htree.unique htree', hvalue⟩
  · rintro ⟨tree, htree, -, hvalue⟩
    rw [evaluate_of_lists htree, hvalue]

/-- A list of the wrong height is told by the numbers of its operands and its
operators. -/
theorem stack_size_of_malformed {fault : Fault} (h : ∀ token ∈ tokens, token.isOperation = true)
    (hfault : evaluate unit tokens = .error (.fault fault))
    (hreason : fault.reason = .malformedExpression) :
    fault.details.get? "stack_size" =
      some (.whole (tokens.countP Token.isOperand - tokens.countP Token.isBinary : Int)) := by
  obtain ⟨cause, hcause, ⟨token, -, hstep⟩ | ⟨stack, hstack, rfl⟩⟩ := failsOnly_evaluate h _ hfault
  · cases hcause
    exact absurd hreason hstep.reason_ne
  cases hcause
  have hlength := length_of_evaluateFrom hstack
  have hsize : (stack.length : Int) =
      tokens.countP Token.isOperand - tokens.countP Token.isBinary := by
    simp only [List.length_nil] at hlength
    omega
  rw [← hsize]
  rfl

/-- **The postfix orders that have a value** are the listings of trees, for
tokens that the evaluation knows.

* Values agree with those of the tree, of which there is only one.
* Where the tree has no value, the failure is the same one, and never a fault of
  form.
* Tokens that list no tree have no value; if they are found to be malformed, it
  is told how high the stack is by what the tokens are. -/
theorem evaluate_of_isOperation (unit : AngleUnit)
    (h : ∀ token ∈ tokens, token.isOperation = true) :
    (∀ x, evaluate unit tokens = .ok x ↔
      ∃ tree : Tree, tree.Lists tokens ∧ (∀ tree' : Tree, tree'.Lists tokens → tree' = tree) ∧
        tree.value unit = .ok x) ∧
    (∀ tree : Tree, tree.Lists tokens → ∀ failure, tree.value unit = .error failure →
      evaluate unit tokens = .error failure ∧
        ∃ fault, failure = .fault fault ∧ fault.kind ≠ .form) ∧
    ((∀ tree : Tree, ¬ tree.Lists tokens) → ∀ x, evaluate unit tokens ≠ .ok x) ∧
    (∀ fault, evaluate unit tokens = .error (.fault fault) →
      fault.reason = .malformedExpression →
        fault.details.get? "stack_size" =
          some (.whole (tokens.countP Token.isOperand - tokens.countP Token.isBinary : Int))) := by
  refine ⟨fun x => evaluate_eq_ok_iff, fun tree htree failure hfailure => ⟨?_, ?_⟩,
    fun hnone x hx => ?_, fun fault => stack_size_of_malformed h⟩
  · rw [evaluate_of_lists htree, hfailure]
  · refine Tree.failsOnly_value htree.unambiguous (fun token htoken => ?_) failure hfailure
    rw [htree.listing_eq] at htoken
    exact Token.isKnown_of_isOperation (h token htoken)
  · obtain ⟨tree, htree, -⟩ := exists_lists_of_evaluate hx
    exact hnone tree htree

/-- The symbols of two constants and of their sum: with the last, the value of the tree;
without it, two values that are left. -/
theorem evaluate_sum_of_constants :
    (∀ token ∈ [⟨.constant, "π"⟩, ⟨.constant, "e"⟩, ⟨.operator, "+"⟩],
      Token.isOperation token = true) ∧
      evaluate .degrees [⟨.constant, "π"⟩, ⟨.constant, "e"⟩, ⟨.operator, "+"⟩] =
        .ok (Constant.pi.value + Constant.e.value) ∧
      evaluate .degrees [⟨.constant, "π"⟩, ⟨.constant, "e"⟩] = .error (.fault (.leftover 2)) ∧
      (Fault.leftover 2).details.get? "stack_size" = some (.whole 2) := by
  have hknown : ∀ token ∈ [⟨.constant, "π"⟩, ⟨.constant, "e"⟩, ⟨.operator, "+"⟩],
      Token.isOperation token = true := by
    decide
  have hlists : (Tree.binary "+" (.constant "π") (.constant "e")).Lists
      [⟨.constant, "π"⟩, ⟨.constant, "e"⟩, ⟨.operator, "+"⟩] :=
    ⟨⟨by decide, trivial, trivial⟩, rfl⟩
  obtain ⟨hvalue, -⟩ := evaluate_of_isOperation .degrees hknown
  have hsummands : ∀ token ∈ [⟨.constant, "π"⟩, ⟨.constant, "e"⟩],
      Token.isOperation token = true := by
    decide
  obtain ⟨-, -, -, hsize⟩ := evaluate_of_isOperation .degrees hsummands
  refine ⟨hknown, (hvalue _).2 ⟨_, hlists, fun _ h => hlists.unique h, rfl⟩, rfl, ?_⟩
  exact hsize (.leftover 2) rfl rfl

end Postfix

end Calculator
