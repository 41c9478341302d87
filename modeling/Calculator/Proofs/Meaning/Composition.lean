import Calculator.Proofs.Evaluating.Listing
import Calculator.Proofs.Lexing.Groups
import Calculator.Proofs.Meaning.Grammar
import Calculator.Proofs.Meaning.Stages
import Calculator.Proofs.Ordering.Groups

/-!
# Texts put together from texts

A text that has a value keeps it within any text that puts it in parentheses,
whatever stands in it: bars that cross its parentheses, functions without them, or
operands and operators in an order of their own.

What a text contributes is a tree, the one that its order is the listing of
(`Denotes`); a text has a value just if it denotes a tree that has one.  No stage
lets a group meddle with what stands around it: its tokens are those of its text
between two parentheses (`tokenize_group_append`), and they are ordered as they are
on their own (`run_group`).  So the order of the whole is the listing of a tree that
has the trees of the parts as operands.
-/

namespace Calculator

open Infix Lexeme Postfix

variable {text left right : String} {tokens : List Token} {unit : AngleUnit}
  {tree treeLeft treeRight : Tree}

/-! ### What a text contributes -/

/-- The order of the text is the listing of the tree. -/
structure Denotes (text : String) (tree : Tree) : Prop where
  unambiguous : tree.Unambiguous
  exists_tokens : ∃ tokens, tokenize (some text) = .ok tokens ∧
    ofInfix .standard tokens = .ok tree.listing

/-- A text that denotes a tree has its value, and fails as it does. -/
theorem Denotes.evaluate_eq (h : Denotes text tree) (unit : AngleUnit) :
    evaluate (some text) unit = tree.value unit := by
  obtain ⟨tokens, htokens, hordered⟩ := h.exists_tokens
  calc evaluate (some text) unit
      = Postfix.evaluate unit tree.listing := evaluate_of_ordered htokens hordered unit
    _ = tree.value unit := evaluate_listing unit h.unambiguous

/-- A text that has a value denotes a tree. -/
theorem exists_denotes_of_evaluate {x : Float} (h : evaluate (some text) unit = .ok x) :
    ∃ tree, Denotes text tree ∧ tree.value unit = .ok x := by
  obtain ⟨tokens, ordered, htokens, hordered, hvalue⟩ := exists_ordered_of_evaluate h
  obtain ⟨tree, hlists, hx⟩ := exists_lists_of_evaluate hvalue
  refine ⟨tree, ⟨hlists.unambiguous, tokens, htokens, ?_⟩, hx⟩
  rw [hlists.listing_eq]
  exact hordered

/-- Phrases of the grammar denote their trees. -/
theorem denotes_of_derives {full written : List Token} (h : Derives .sum full tree)
    (helided : Elided full written) (hspelled : Spelled written text.toList) :
    Denotes text tree := by
  have hreads := reads_of_derives h
  exact ⟨hreads.unambiguous, full, tokenize_of_reads hreads helided hspelled,
    ofInfix_of_reads hreads⟩

/-! ### Texts of trees -/

namespace Denotes

theorem group (h : Denotes text tree) : Denotes ("(" ++ text ++ ")") tree := by
  obtain ⟨tokens, htokens, hordered⟩ := h.exists_tokens
  exact ⟨h.unambiguous, _, tokenize_group htokens, ofInfix_group hordered⟩

theorem negation (h : Denotes text tree) : Denotes ("-(" ++ text ++ ")") (.negation tree) := by
  obtain ⟨tokens, htokens, hordered⟩ := h.exists_tokens
  have hsign : OperatorTable.standard Token.negation.text = some ⟨3, .right⟩ := rfl
  have hminus : Token.isLexeme ⟨.operator, "-"⟩ = true := by decide
  have hrow := tokenize_front_group hminus rfl htokens
  have htext : "-" ++ ("(" ++ text ++ ")") = "-(" ++ text ++ ")" := by
    rw [← String.append_assoc, ← String.append_assoc]
    rfl
  rw [htext] at hrow
  exact ⟨h.unambiguous, _, hrow, ofInfix_negation_group hsign hordered⟩

theorem call (f : NamedFunction) (h : Denotes text tree) :
    Denotes (f.name ++ "(" ++ text ++ ")") (.call f.name tree) := by
  obtain ⟨tokens, htokens, hordered⟩ := h.exists_tokens
  have hname : Token.isLexeme ⟨.function, f.name⟩ = true := by cases f <;> decide
  have hrow := tokenize_front_group hname rfl htokens
  rw [← String.append_assoc, ← String.append_assoc] at hrow
  exact ⟨h.unambiguous, _, hrow, ofInfix_call_group f.name hordered⟩

theorem operation (o : BinaryOperation) (hl : Denotes left treeLeft)
    (hr : Denotes right treeRight) :
    Denotes ("(" ++ left ++ ")" ++ o.symbol ++ "(" ++ right ++ ")")
      (.binary o.symbol treeLeft treeRight) := by
  obtain ⟨tokensLeft, htokensLeft, horderedLeft⟩ := hl.exists_tokens
  obtain ⟨tokensRight, htokensRight, horderedRight⟩ := hr.exists_tokens
  have hsymbol : o.symbol ≠ Token.negation.text := by cases o <;> decide
  have htable : ∃ op, OperatorTable.standard o.symbol = some op := by cases o <;> exact ⟨_, rfl⟩
  obtain ⟨op, hop⟩ := htable
  have hrow := tokenize_operator_groups o htokensLeft htokensRight
  simp only [← String.append_assoc] at hrow ⊢
  exact ⟨⟨hsymbol, hl.unambiguous, hr.unambiguous⟩, _, hrow,
    ofInfix_operator_groups hop horderedLeft horderedRight⟩

/-- A product that is not written. -/
theorem product (hl : Denotes left treeLeft) (hr : Denotes right treeRight) :
    Denotes ("(" ++ left ++ ")(" ++ right ++ ")")
      (.binary BinaryOperation.multiply.symbol treeLeft treeRight) := by
  obtain ⟨tokensLeft, htokensLeft, horderedLeft⟩ := hl.exists_tokens
  obtain ⟨tokensRight, htokensRight, horderedRight⟩ := hr.exists_tokens
  have htext : "(" ++ left ++ ")" ++ ("(" ++ right ++ ")") =
      "(" ++ left ++ ")(" ++ right ++ ")" := by
    have hseam : ")(" = ")" ++ "(" := rfl
    simp only [hseam, String.append_assoc]
  have hrow := tokenize_groups htokensLeft htokensRight
  have htable : OperatorTable.standard BinaryOperation.multiply.symbol = some ⟨2, .left⟩ := rfl
  rw [htext] at hrow
  exact ⟨⟨by decide, hl.unambiguous, hr.unambiguous⟩, _, hrow,
    ofInfix_operator_groups htable horderedLeft horderedRight⟩

end Denotes

/-- **Values of texts are put together** from the values of their parts: within
parentheses, behind a sign or a function, on both sides of an operator, and side by
side. -/
theorem evaluate_composed {x y z : Float} (h : evaluate (some text) unit = .ok x)
    (hl : evaluate (some left) unit = .ok y) (hr : evaluate (some right) unit = .ok z) :
    evaluate (some ("(" ++ text ++ ")")) unit = .ok x ∧
    evaluate (some ("-(" ++ text ++ ")")) unit = .ok (-x) ∧
    (∀ f : NamedFunction, evaluate (some (f.name ++ "(" ++ text ++ ")")) unit =
      NamedFunction.applyNamed f.name unit x) ∧
    (∀ o : BinaryOperation,
      evaluate (some ("(" ++ left ++ ")" ++ o.symbol ++ "(" ++ right ++ ")")) unit =
        BinaryOperation.applySymbol o.symbol y z) ∧
    evaluate (some ("(" ++ left ++ ")(" ++ right ++ ")")) unit = .ok (y * z) := by
  obtain ⟨tree, hdenotes, hx⟩ := exists_denotes_of_evaluate h
  obtain ⟨treeLeft, hdenotesLeft, hy⟩ := exists_denotes_of_evaluate hl
  obtain ⟨treeRight, hdenotesRight, hz⟩ := exists_denotes_of_evaluate hr
  have hbinary : ∀ symbol, (Tree.binary symbol treeLeft treeRight).value unit =
      BinaryOperation.applySymbol symbol y z := by
    intro symbol
    rw [Tree.value, hy, hz]
    rfl
  refine ⟨?_, ?_, fun f => ?_, fun o => ?_, ?_⟩
  · rw [hdenotes.group.evaluate_eq, hx]
  · rw [hdenotes.negation.evaluate_eq, Tree.value, hx]
    rfl
  · rw [(hdenotes.call f).evaluate_eq, Tree.value, hx]
    rfl
  · rw [(hdenotesLeft.operation o hdenotesRight).evaluate_eq, hbinary]
  · rw [(hdenotesLeft.product hdenotesRight).evaluate_eq, hbinary]
    rfl

/-- Two constants, in the places that a function, a power and a product leave for
them. -/
theorem evaluate_composed_of_constants :
    evaluate (some "π") .radians = .ok Constant.pi.value ∧
    evaluate (some "e") .radians = .ok Constant.e.value ∧
    evaluate (some "-(π)") .radians = .ok (-Constant.pi.value) ∧
    evaluate (some "ln(π)") .radians =
      NamedFunction.applyNamed "ln" .radians Constant.pi.value ∧
    evaluate (some "(e)^(π)") .radians =
      BinaryOperation.applySymbol "^" Constant.e.value Constant.pi.value ∧
    evaluate (some "(e)(π)") .radians = .ok (Constant.e.value * Constant.pi.value) := by
  have hconstant : ∀ constant : Constant,
      evaluate (some constant.symbol) .radians = .ok constant.value := by
    intro constant
    have hderives : Derives .sum [⟨.constant, constant.symbol⟩] (.constant constant.symbol) :=
      .sumOfProduct (.productOfSigned (.signedOfPower (.powerOfAtom (.constant constant))))
    have hspelled : Spelled [⟨.constant, constant.symbol⟩] constant.symbol.toList := by
      have hnone : ∀ c ∈ [], Text.isBlank c = true := List.forall_mem_nil _
      have hrow := @Spelled.cons [] [] ⟨.constant, constant.symbol⟩ [] hnone (.nil hnone)
      rwa [List.append_nil] at hrow
    rw [(denotes_of_derives hderives (.keep .nil) hspelled).evaluate_eq, Tree.value,
      Constant.valueOf, Constant.ofSymbol?_symbol]
  obtain ⟨-, hnegation, hcall, hoperation, hproduct⟩ :=
    evaluate_composed (hconstant .pi) (hconstant .e) (hconstant .pi)
  exact ⟨hconstant .pi, hconstant .e, hnegation, hcall .ln, hoperation .power, hproduct⟩

end Calculator
