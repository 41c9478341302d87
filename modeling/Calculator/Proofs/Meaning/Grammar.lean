import Calculator.Proofs.Lexing.Products
import Calculator.Proofs.Meaning.Classified
import Calculator.Proofs.Ordering.Precedence

/-!
# What an expression means

The grammar of expressions, with the tree that every derivation has:

* a sum is a row of products with `+` or `-` between them, grouped to the left;
* a product is a row of signed powers with `*`, `/` or `%` between them, grouped
  to the left;
* signs stand in front of a power, which is an atom, or an atom to a power;
* an atom is a number, a constant, a sum in parentheses, with or without a
  function in front, or a sum between bars.  Between bars there is no bar, and a
  minus does not come first.

A text that writes the lexemes of a derivation down, with blanks as it likes and
without any of the products that their neighbours imply, has the value of the
tree (`evaluate_of_derives`).

## What a phrase brings to the stages

Each stage asks something of the lexemes, and all of it can be said phrase by
phrase (`Reads`): that no neighbours imply a product or run together, that
parentheses and bars are closed and that an operand comes last, and that after
the preparation the phrase is a tree written down.  The last is where ranks come
in.  The operator that stands open in a phrase has at least the rank of the
phrase, and this is what the operators next to it need to leave it in one piece.
-/

namespace Calculator

open Infix

/-! ### The grammar -/

/-- The phrases of the grammar, from the loosest to the tightest. -/
inductive Phrase where
  | sum
  | product
  | signed
  | power
  | atom
  deriving DecidableEq, Repr

/-- The rank that the operator of a phrase has at least. -/
def Phrase.rank : Phrase → Int
  | sum => 1
  | product => 2
  | signed => 3
  | power => 4
  | atom => 5

/-- The lexemes of a phrase, and its tree. -/
inductive Derives : Phrase → List Token → Tree → Prop
  | sum {operation : BinaryOperation} {left right : List Token} {leftTree rightTree : Tree}
      (hoperation : operation = .add ∨ operation = .subtract)
      (hleft : Derives .sum left leftTree) (hright : Derives .product right rightTree) :
      Derives .sum (left ++ ⟨.operator, operation.symbol⟩ :: right)
        (.binary operation.symbol leftTree rightTree)
  | sumOfProduct {tokens : List Token} {tree : Tree} (h : Derives .product tokens tree) :
      Derives .sum tokens tree
  | product {operation : BinaryOperation} {left right : List Token} {leftTree rightTree : Tree}
      (hoperation : operation = .multiply ∨ operation = .divide ∨ operation = .modulo)
      (hleft : Derives .product left leftTree) (hright : Derives .signed right rightTree) :
      Derives .product (left ++ ⟨.operator, operation.symbol⟩ :: right)
        (.binary operation.symbol leftTree rightTree)
  | productOfSigned {tokens : List Token} {tree : Tree} (h : Derives .signed tokens tree) :
      Derives .product tokens tree
  | negation {tokens : List Token} {tree : Tree} (h : Derives .signed tokens tree) :
      Derives .signed (⟨.operator, "-"⟩ :: tokens) (.negation tree)
  | signedOfPower {tokens : List Token} {tree : Tree} (h : Derives .power tokens tree) :
      Derives .signed tokens tree
  | power {left right : List Token} {leftTree rightTree : Tree}
      (hleft : Derives .atom left leftTree) (hright : Derives .power right rightTree) :
      Derives .power (left ++ ⟨.operator, BinaryOperation.power.symbol⟩ :: right)
        (.binary BinaryOperation.power.symbol leftTree rightTree)
  | powerOfAtom {tokens : List Token} {tree : Tree} (h : Derives .atom tokens tree) :
      Derives .power tokens tree
  | number {text : String} (h : Number.isPlainDecimal text.toList = true) :
      Derives .atom [⟨.number, text⟩] (.number text)
  | constant (constant : Constant) :
      Derives .atom [⟨.constant, constant.symbol⟩] (.constant constant.symbol)
  | group {tokens : List Token} {tree : Tree} (h : Derives .sum tokens tree) :
      Derives .atom (.leftParen :: (tokens ++ [.rightParen])) tree
  | call (f : NamedFunction) {tokens : List Token} {tree : Tree} (h : Derives .sum tokens tree) :
      Derives .atom (⟨.function, f.name⟩ :: .leftParen :: (tokens ++ [.rightParen]))
        (.call f.name tree)
  | magnitude {tokens : List Token} {tree : Tree}
      (hbar : ∀ token ∈ tokens, token.kind ≠ .bar)
      (hminus : ∀ first ∈ tokens.head?, first ≠ ⟨.operator, "-"⟩) (h : Derives .sum tokens tree) :
      Derives .atom (.bar :: (tokens ++ [.bar])) (.call NamedFunction.abs.name tree)

/-! ### Neighbours -/

/-- Two neighbours that neither imply a product nor run together. -/
def Beside (left right : Token) : Prop :=
  impliesProduct (some left) right = false ∧ Lexeme.Apart left right

/-- Operators and what opens a group keep apart from what follows. -/
theorem beside_of_left {left : Token}
    (h : left.kind = .operator ∨ left.kind = .leftParen ∨ left.kind = .bar) (right : Token) :
    Beside left right := by
  refine ⟨?_, fun hnumbers => ?_⟩
  · rcases h with hkind | hkind | hkind <;>
      simp only [impliesProduct, Token.isOperand, hkind] <;> cases right.kind <;> rfl
  · rw [hnumbers.1] at h
    simp at h

/-- Operators and what closes a group keep apart from what comes before. -/
theorem beside_of_right {right : Token}
    (h : right.kind = .operator ∨ right.kind = .rightParen ∨ right.kind = .bar) (left : Token) :
    Beside left right := by
  refine ⟨?_, fun hnumbers => ?_⟩
  · rcases h with hkind | hkind | hkind <;> simp only [impliesProduct, hkind]
  · rw [hnumbers.2] at h
    simp at h

theorem isChain_beside_cons {token : Token} {tokens : List Token}
    (h : token.kind = .operator ∨ token.kind = .leftParen ∨ token.kind = .bar)
    (hchain : tokens.IsChain Beside) : (token :: tokens).IsChain Beside :=
  List.isChain_cons.2 ⟨fun next _ => beside_of_left h next, hchain⟩

theorem isChain_beside_append {token : Token} {left right : List Token}
    (h : token.kind = .operator ∨ token.kind = .rightParen ∨ token.kind = .bar)
    (hleft : left.IsChain Beside) (hright : (token :: right).IsChain Beside) :
    (left ++ token :: right).IsChain Beside := by
  refine List.isChain_append.2 ⟨hleft, hright, fun last _ next hnext => ?_⟩
  obtain rfl : token = next := Option.some.inj hnext
  exact beside_of_right h last

/-! ### Phrases in all stages -/

/-- What the stages need of the lexemes of a tree whose open operator has at
least the given rank. -/
structure Reads (rank : Int) (tokens : List Token) (tree : Tree) : Prop where
  isLexeme : ∀ token ∈ tokens, token.isLexeme = true
  beside : tokens.IsChain Beside
  balanced : Balanced tokens
  closed : barOpen false tokens = false
  endsOperand : EndsOperand tokens
  written : ∃ outer, Written .standard outer tree (settled tokens) ∧
    ∀ op ∈ outer, rank ≤ op.precedence
  unambiguous : tree.Unambiguous

namespace Reads

variable {rank : Int} {tokens : List Token} {tree : Tree}

/-- A tighter phrase will do for a looser one. -/
theorem mono {rank' : Int} (h : Reads rank tokens tree) (hle : rank' ≤ rank) :
    Reads rank' tokens tree := by
  obtain ⟨outer, hwritten, hrank⟩ := h.written
  exact { h with written := ⟨outer, hwritten, fun op hop => Int.le_trans hle (hrank op hop)⟩ }

theorem number {text : String} (h : Number.isPlainDecimal text.toList = true) :
    Reads rank [⟨.number, text⟩] (.number text) where
  isLexeme := List.forall_mem_singleton.2 h
  beside := List.isChain_singleton _
  balanced := balanced_singleton _ (by simp) (by simp)
  closed := rfl
  endsOperand := rfl
  written := ⟨none, .number text, by simp⟩
  unambiguous := trivial

theorem constant (constant : Constant) :
    Reads rank [⟨.constant, constant.symbol⟩] (.constant constant.symbol) where
  isLexeme := List.forall_mem_singleton.2 (by cases constant <;> decide)
  beside := List.isChain_singleton _
  balanced := balanced_singleton _ (by simp) (by simp)
  closed := rfl
  endsOperand := rfl
  written := ⟨none, .constant _, by simp⟩
  unambiguous := trivial

theorem group {rank' : Int} (h : Reads rank' tokens tree) :
    Reads rank (.leftParen :: (tokens ++ [.rightParen])) tree where
  isLexeme := by
    refine List.forall_mem_cons.2 ⟨by decide, List.forall_mem_append.2 ⟨h.isLexeme, ?_⟩⟩
    exact List.forall_mem_singleton.2 (by decide)
  beside := by
    refine isChain_beside_cons (Or.inr (Or.inl rfl)) ?_
    exact isChain_beside_append (Or.inr (Or.inl rfl)) h.beside (List.isChain_singleton _)
  balanced := h.balanced.group
  closed := by
    show barOpen false (tokens ++ [.rightParen]) = false
    rw [barOpen_append, h.closed]
    rfl
  endsOperand := by
    have hclose : EndsOperand [.rightParen] := rfl
    exact (hclose.append _).cons _
  written := by
    obtain ⟨outer, hwritten, -⟩ := h.written
    rw [settled_group h.closed]
    exact ⟨none, hwritten.group, by simp⟩
  unambiguous := h.unambiguous

theorem call {rank' : Int} (f : NamedFunction) (h : Reads rank' tokens tree) :
    Reads rank (⟨.function, f.name⟩ :: .leftParen :: (tokens ++ [.rightParen]))
      (.call f.name tree) := by
  have hgroup : Reads rank (.leftParen :: (tokens ++ [.rightParen])) tree := h.group
  have hbeside : Beside ⟨.function, f.name⟩ .leftParen := ⟨rfl, by simp [Lexeme.Apart]⟩
  obtain ⟨outer, hwritten, -⟩ := h.written
  exact
    { isLexeme := List.forall_mem_cons.2 ⟨by cases f <;> decide, hgroup.isLexeme⟩
      beside := List.isChain_cons_cons.2 ⟨hbeside, hgroup.beside⟩
      balanced :=
        (balanced_singleton ⟨.function, f.name⟩ (by simp) (by simp)).append hgroup.balanced
      closed := hgroup.closed
      endsOperand := hgroup.endsOperand.cons _
      written := by
        rw [settled_call, settled_group h.closed]
        exact ⟨none, hwritten.call, by simp⟩
      unambiguous := h.unambiguous }

theorem magnitude {rank' : Int} (hbar : ∀ token ∈ tokens, token.kind ≠ .bar)
    (hminus : ∀ first ∈ tokens.head?, first ≠ ⟨.operator, "-"⟩) (h : Reads rank' tokens tree) :
    Reads rank (.bar :: (tokens ++ [.bar])) (.call NamedFunction.abs.name tree) where
  isLexeme := by
    refine List.forall_mem_cons.2 ⟨by decide, List.forall_mem_append.2 ⟨h.isLexeme, ?_⟩⟩
    exact List.forall_mem_singleton.2 (by decide)
  beside := by
    refine isChain_beside_cons (Or.inr (Or.inr rfl)) ?_
    exact isChain_beside_append (Or.inr (Or.inr rfl)) h.beside (List.isChain_singleton _)
  balanced := by
    have hone : Balanced [Token.bar] := balanced_singleton .bar (by decide) (by decide)
    exact hone.append (h.balanced.append hone)
  closed := by
    show barOpen true (tokens ++ [.bar]) = false
    rw [barOpen_append, barOpen_of_no_bar hbar]
    rfl
  endsOperand := by
    have hclose : EndsOperand [.bar] := rfl
    exact (hclose.append _).cons _
  written := by
    obtain ⟨outer, hwritten, -⟩ := h.written
    rw [settled_magnitude hbar hminus]
    exact ⟨none, hwritten.call, by simp⟩
  unambiguous := h.unambiguous

theorem negation (h : Reads Phrase.signed.rank tokens tree) :
    Reads Phrase.signed.rank (⟨.operator, "-"⟩ :: tokens) (.negation tree) where
  isLexeme := List.forall_mem_cons.2 ⟨by decide, h.isLexeme⟩
  beside := isChain_beside_cons (Or.inl rfl) h.beside
  balanced := (balanced_singleton ⟨.operator, "-"⟩ (by decide) (by decide)).append h.balanced
  closed := h.closed
  endsOperand := h.endsOperand.cons _
  written := by
    have hsign : OperatorTable.standard Token.negation.text = some ⟨3, .right⟩ := by decide
    obtain ⟨outer, hwritten, hrank⟩ := h.written
    rw [settled_minus]
    refine ⟨some ⟨3, .right⟩, .negation hsign hwritten fun op hop => ?_, fun op hop => ?_⟩
    · obtain ⟨symbol, hsymbol⟩ := exists_symbol_of_written hwritten op hop
      exact OperatorTable.uniform_standard.holdsRight_of_le hsymbol hsign rfl (hrank op hop)
    · cases hop
      exact Int.le_refl 3
  unambiguous := h.unambiguous

/-- An operation keeps its operands in one piece if they are tighter, or as tight
and on the side it groups to. -/
theorem binary {operation : BinaryOperation} {op : Operator} {rankLeft rankRight : Int}
    {left right : List Token} {leftTree rightTree : Tree}
    (hop : OperatorTable.standard operation.symbol = some op)
    (hl : Reads rankLeft left leftTree) (hr : Reads rankRight right rightTree)
    (hleft : op.precedence < rankLeft ∨ (op.precedence ≤ rankLeft ∧ op.associativity = .left))
    (hright : op.precedence < rankRight ∨ (op.precedence ≤ rankRight ∧ op.associativity = .right)) :
    Reads op.precedence (left ++ ⟨.operator, operation.symbol⟩ :: right)
      (.binary operation.symbol leftTree rightTree) where
  isLexeme := by
    refine List.forall_mem_append.2 ⟨hl.isLexeme, List.forall_mem_cons.2 ⟨?_, hr.isLexeme⟩⟩
    cases operation <;> decide
  beside :=
    isChain_beside_append (Or.inl rfl) hl.beside (isChain_beside_cons (Or.inl rfl) hr.beside)
  balanced := by
    have hone : Balanced [⟨.operator, operation.symbol⟩] := balanced_singleton _ (by simp) (by simp)
    exact hl.balanced.append (hone.append hr.balanced)
  closed := by
    rw [barOpen_append, hl.closed]
    exact hr.closed
  endsOperand := (hr.endsOperand.cons _).append _
  written := by
    obtain ⟨innerLeft, hwrittenLeft, hrankLeft⟩ := hl.written
    obtain ⟨innerRight, hwrittenRight, hrankRight⟩ := hr.written
    rw [settled_operator hl.endsOperand hl.closed]
    refine ⟨some op, .binary hop hwrittenLeft hwrittenRight (fun inner hinner => ?_)
      (fun inner hinner => ?_), fun outer houter => ?_⟩
    · have hrank := hrankLeft inner hinner
      rcases hleft with hlt | ⟨hle, hassociativity⟩
      · exact Or.inl (by omega)
      · obtain ⟨symbol, hsymbol⟩ := exists_symbol_of_written hwrittenLeft inner hinner
        exact OperatorTable.uniform_standard.holdsLeft_of_le hsymbol hop hassociativity (by omega)
    · have hrank := hrankRight inner hinner
      rcases hright with hlt | ⟨hle, hassociativity⟩
      · exact Or.inl (by omega)
      · obtain ⟨symbol, hsymbol⟩ := exists_symbol_of_written hwrittenRight inner hinner
        exact OperatorTable.uniform_standard.holdsRight_of_le hsymbol hop hassociativity (by omega)
    · obtain rfl : op = outer := Option.some.inj houter
      exact Int.le_refl _
  unambiguous := ⟨by cases operation <;> decide, hl.unambiguous, hr.unambiguous⟩

end Reads

/-- A phrase reads as a tree with an operator of its rank. -/
theorem reads_of_derives {phrase : Phrase} {tokens : List Token} {tree : Tree}
    (h : Derives phrase tokens tree) : Reads phrase.rank tokens tree := by
  induction h with
  | @sum operation left right leftTree rightTree hoperation hleft hright ihl ihr =>
      have hop : OperatorTable.standard operation.symbol = some ⟨1, .left⟩ := by
        rcases hoperation with rfl | rfl <;> rfl
      exact Reads.binary hop ihl ihr (Or.inr ⟨by decide, rfl⟩) (Or.inl (by decide))
  | @product operation left right leftTree rightTree hoperation hleft hright ihl ihr =>
      have hop : OperatorTable.standard operation.symbol = some ⟨2, .left⟩ := by
        rcases hoperation with rfl | rfl | rfl <;> rfl
      exact Reads.binary hop ihl ihr (Or.inr ⟨by decide, rfl⟩) (Or.inl (by decide))
  | negation h ih => exact ih.negation
  | power hleft hright ihl ihr =>
      have hop : OperatorTable.standard BinaryOperation.power.symbol = some ⟨4, .right⟩ := rfl
      exact Reads.binary hop ihl ihr (Or.inl (by decide)) (Or.inr ⟨by decide, rfl⟩)
  | sumOfProduct h ih | productOfSigned h ih | signedOfPower h ih | powerOfAtom h ih =>
      exact ih.mono (by decide)
  | number h => exact .number h
  | constant constant => exact .constant constant
  | group h ih => exact ih.group
  | call f h ih => exact ih.call f
  | magnitude hbar hminus h ih => exact ih.magnitude hbar hminus

/-! ### The value of a text -/

theorem tokenize_of_reads {rank : Int} {full written : List Token} {tree : Tree} {text : String}
    (h : Reads rank full tree) (helided : Elided full written)
    (hspelled : Lexeme.Spelled written text.toList) : tokenize (some text) = .ok full := by
  have hexplicit : full.IsChain fun left right => impliesProduct (some left) right = false :=
    h.beside.imp fun _ _ hbeside => hbeside.1
  have hapart : full.IsChain Lexeme.Apart := h.beside.imp fun _ _ hbeside => hbeside.2
  exact tokenize_of_spelled hexplicit hapart h.isLexeme helided hspelled

theorem ofInfix_of_reads {rank : Int} {tokens : List Token} {tree : Tree}
    (h : Reads rank tokens tree) : Postfix.ofInfix .standard tokens = .ok tree.listing := by
  obtain ⟨outer, hwritten, -⟩ := h.written
  rw [Postfix.ofInfix, prepare_eq_settled h.balanced h.closed]
  exact Postfix.ofPrepared_of_written OperatorTable.uniform_standard hwritten

/-- **The value of an expression** is that of its tree, whatever blanks its text
has and whichever products it leaves out; and if the tree has none, the failure
is that of the tree, which is no fault of form. -/
theorem evaluate_of_derives {full written : List Token} {tree : Tree} {text : String}
    (hderives : Derives .sum full tree) (helided : Elided full written)
    (hspelled : Lexeme.Spelled written text.toList) (unit : AngleUnit) :
    evaluate (some text) unit = tree.value unit ∧
      ∀ failure, tree.value unit = .error failure →
        ∃ fault, failure = .fault fault ∧ fault.kind ≠ .form := by
  have hreads := reads_of_derives hderives
  -- the text is cleaned once more after the first time, which changes nothing
  have hclean : Lexeme.Spelled written (sanitize (some text)).toList :=
    Lexeme.spelled_sanitize hspelled fun token htoken =>
      hreads.isLexeme token (mem_of_mem_elided helided token htoken)
  have htokens := tokenize_of_reads hreads helided hclean
  have hordered := ofInfix_of_reads hreads
  have hvalue := Postfix.evaluate_listing unit hreads.unambiguous
  refine ⟨?_, ?_⟩
  · simp only [evaluate, Trace.ofExpression, htokens, hordered, hvalue, bind, Except.bind]
    cases tree.value unit <;> rfl
  · have hknown := isKnown_of_tokenize htokens
    have hoperation := Postfix.isOperation_of_ofInfix hknown hordered
    exact Tree.failsOnly_value hreads.unambiguous fun token htoken =>
      Token.isKnown_of_isOperation (hoperation token htoken)

/-- A sign, a product that is left out and a blank in its place. -/
theorem evaluate_product_left_out :
    evaluate (some "-2 (π-3)") .radians =
      (Tree.binary "*" (.negation (.number "2"))
        (.binary "-" (.constant "π") (.number "3"))).value .radians := by
  have htwo : Derives .signed [⟨.number, "2"⟩] (.number "2") :=
    .signedOfPower (.powerOfAtom (.number (by decide)))
  have hpi : Derives .sum [⟨.constant, "π"⟩] (.constant "π") :=
    .sumOfProduct (.productOfSigned (.signedOfPower (.powerOfAtom (.constant .pi))))
  have hthree : Derives .product [⟨.number, "3"⟩] (.number "3") :=
    .productOfSigned (.signedOfPower (.powerOfAtom (.number (by decide))))
  have hdifference : Derives .sum [⟨.constant, "π"⟩, ⟨.operator, "-"⟩, ⟨.number, "3"⟩]
      (.binary "-" (.constant "π") (.number "3")) :=
    @Derives.sum .subtract _ _ _ _ (Or.inr rfl) hpi hthree
  have hproduct : Derives .sum [⟨.operator, "-"⟩, ⟨.number, "2"⟩, .times, .leftParen,
      ⟨.constant, "π"⟩, ⟨.operator, "-"⟩, ⟨.number, "3"⟩, .rightParen]
      (.binary "*" (.negation (.number "2")) (.binary "-" (.constant "π") (.number "3"))) :=
    .sumOfProduct (@Derives.product .multiply _ _ _ _ (Or.inl rfl)
      (.productOfSigned (.negation htwo)) (.signedOfPower (.powerOfAtom hdifference.group)))
  have helided : Elided [⟨.operator, "-"⟩, ⟨.number, "2"⟩, .times, .leftParen,
      ⟨.constant, "π"⟩, ⟨.operator, "-"⟩, ⟨.number, "3"⟩, .rightParen]
      [⟨.operator, "-"⟩, ⟨.number, "2"⟩, .leftParen, ⟨.constant, "π"⟩, ⟨.operator, "-"⟩,
        ⟨.number, "3"⟩, .rightParen] :=
    .keep (.leaveOut rfl (.keep (.keep (.keep (.keep (.keep .nil))))))
  have hnone : ∀ c ∈ [], Text.isBlank c = true := List.forall_mem_nil _
  have hblank : ∀ c ∈ [' '], Text.isBlank c = true := List.forall_mem_singleton.2 (by decide)
  have hspelled : Lexeme.Spelled [⟨.operator, "-"⟩, ⟨.number, "2"⟩, .leftParen, ⟨.constant, "π"⟩,
      ⟨.operator, "-"⟩, ⟨.number, "3"⟩, .rightParen] "-2 (π-3)".toList := by
    have htext : "-2 (π-3)".toList = [] ++ "-".toList ++ ([] ++ "2".toList ++
        ([' '] ++ "(".toList ++ ([] ++ "π".toList ++ ([] ++ "-".toList ++ ([] ++ "3".toList ++
          ([] ++ ")".toList ++ [])))))) := by decide
    rw [htext]
    exact .cons hnone (.cons hnone (.cons hblank (.cons hnone (.cons hnone (.cons hnone
      (.cons hnone (.nil hnone)))))))
  exact (evaluate_of_derives hproduct helided hspelled .radians).1

end Calculator
