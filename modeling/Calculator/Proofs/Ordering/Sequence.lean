import Calculator.Proofs.Evaluating.Listing
import Calculator.Proofs.Ordering.Moves
import Mathlib.Data.List.Chain

/-!
# Sequences of operands and operators

In infix order an operand and an operator are expected in turn.  A number or a
constant fills the place of an operand; functions, left parentheses and signs
stand in front of one and leave its place to be filled.  An operator on two
operands fills the place of an operator; a right parenthesis stands behind an
operand and leaves that place to be filled.

The ordering never asks for this.  What follows if a row is such a sequence, and
what can be said if it is not:

* A row may leave places empty.  How many places of operands it leaves empty and
  how many of operators is what the numbers of its operands and operators differ
  by (`countP_add_missing`), so these numbers alone do not tell a sequence.
* When a sequence is ordered, every operation that is sent to the output finds
  its operands there.  The output holds one complete tree for every operator on
  two operands that waits, and one more while an operator is expected
  (`Complete`).  So whatever is sent then is complete.  Only a sign is an
  operator that comes while an operand is expected, and it must not send
  anything: the token in front of it waits on top, still without its right
  operand (`Spares`).
-/

namespace Calculator

theorem Token.eq_negation_of_isNegation {token : Token} (h : token.isNegation = true) :
    token = negation := by
  obtain ⟨kind, text⟩ := token
  obtain ⟨hkind, htext⟩ := Bool.and_eq_true_iff.1 h
  obtain rfl : kind = .operator := of_decide_eq_true hkind
  obtain rfl : text = negation.text := of_decide_eq_true htext
  rfl

theorem Token.isOperand_of_isDelimiter (token : Token) (h : token.isDelimiter = true) :
    token.isOperand = false := by
  obtain ⟨kind, text⟩ := token
  cases kind with
  | leftParen | rightParen | bar => rfl
  | number | constant | operator | function => cases h

theorem Token.isBinary_of_isDelimiter (token : Token) (h : token.isDelimiter = true) :
    token.isBinary = false := by
  obtain ⟨kind, text⟩ := token
  cases kind with
  | leftParen | rightParen | bar => rfl
  | number | constant | operator | function => cases h

namespace Infix

/-! ### Places -/

/-- What is expected next in a row. -/
inductive Place where
  | operand
  | operator
  deriving DecidableEq, Repr

variable {token : Token} {tokens : List Token} {place : Place}

/-- Where a token may stand.  A bar stands nowhere, but if it is there, it counts
as a right parenthesis. -/
def Place.of (token : Token) : Place :=
  match token.kind with
  | .number | .constant | .function | .leftParen => .operand
  | .operator => if token.isNegation then .operand else .operator
  | .rightParen | .bar => .operator

theorem Place.of_isNegation (h : token.isNegation = true) : Place.of token = .operand := by
  rw [Token.eq_negation_of_isNegation h]
  rfl

/-- What is expected after a token. -/
def Place.after (token : Token) : Place :=
  match token.kind with
  | .number | .constant | .rightParen | .bar => .operator
  | .function | .leftParen | .operator => .operand

/-- Whether every token of a row stands where it may and no operand is expected at
the end, given what is expected first. -/
def isSequence (place : Place) : List Token → Bool
  | [] => place = .operator
  | token :: rest =>
    token.kind ≠ .bar && place = Place.of token && isSequence (Place.after token) rest

/-- The place of a kind is empty if it is expected and the other kind is found. -/
def Place.lack (kind expected found : Place) : Nat :=
  if expected = kind ∧ found ≠ kind then 1 else 0

/-- How many places of a kind a row leaves empty, given what is expected first.
The end is found where an operator may be. -/
def missing (kind expected : Place) : List Token → Nat
  | [] => kind.lack expected .operator
  | token :: rest => kind.lack expected (Place.of token) + missing kind (Place.after token) rest

/-- **A sequence leaves no place empty,** and no other row does so. -/
theorem isSequence_iff (hbar : ∀ token ∈ tokens, token.kind ≠ .bar) :
    isSequence place tokens = true ↔
      missing .operand place tokens = 0 ∧ missing .operator place tokens = 0 := by
  induction tokens generalizing place with
  | nil => cases place <;> simp [isSequence, missing, Place.lack]
  | cons token rest ih =>
      obtain ⟨htoken, hrest⟩ := List.forall_mem_cons.1 hbar
      have hsequence := @ih (Place.after token) hrest
      cases place <;> cases hplace : Place.of token <;>
        simp [isSequence, missing, Place.lack, hplace, htoken, hsequence]

/-- How many places of an operand are to be filled first. -/
def Place.wanted : Place → Nat
  | operand => 1
  | operator => 0

/-- One token changes the balance of operands and operators by what it leaves to be
filled and the place it leaves empty. -/
theorem countP_add_lack (token : Token) (place : Place) :
    [token].countP Token.isOperand + Place.operand.lack place (Place.of token) +
        (Place.after token).wanted =
      [token].countP Token.isBinary + Place.operator.lack place (Place.of token) +
        place.wanted := by
  obtain ⟨kind, text⟩ := token
  cases kind with
  | number | constant | function | leftParen | rightParen | bar =>
      cases place <;>
        simp [Token.isOperand, Token.isBinary, Place.of, Place.after, Place.lack, Place.wanted]
  | operator =>
      cases hsign : Token.isNegation ⟨.operator, text⟩ <;> cases place <;>
        simp [Token.isOperand, Token.isBinary, Place.of, Place.after, Place.lack, Place.wanted,
          hsign]

/-- **The balance**: operands outnumber operators on two operands by what is wanted
at first, if the empty places are counted as well. -/
theorem countP_add_missing (place : Place) (tokens : List Token) :
    tokens.countP Token.isOperand + missing .operand place tokens =
      tokens.countP Token.isBinary + missing .operator place tokens + place.wanted := by
  induction tokens generalizing place with
  | nil => cases place <;> simp [missing, Place.lack, Place.wanted]
  | cons token rest ih =>
      have htoken := countP_add_lack token place
      have hrest := ih (Place.after token)
      rw [missing, missing, ← List.singleton_append, List.countP_append, List.countP_append]
      omega

end Infix

namespace Postfix

open Infix

variable {table : OperatorTable} {token : Token} {place : Place}
  {tokens stack stack' sent ordered : List Token} {trees : List Tree}

/-! ### Empty places and the height of the stack -/

/-- **Empty places show in the height of the stack** that an evaluation ends with:
every operator that is missing leaves a value more, and every operand one less. -/
theorem length_add_missing {unit : AngleUnit} {values : List Float}
    (hordered : ofPrepared table tokens = .ok ordered)
    (h : evaluateFrom unit [] ordered = .ok values) :
    values.length + missing .operand .operand tokens =
      missing .operator .operand tokens + 1 := by
  have hheight := length_of_evaluateFrom h
  -- the ordering loses neither operands nor operators
  have hoperands : ordered.countP Token.isOperand = tokens.countP Token.isOperand :=
    countP_of_ofPrepared Token.isOperand_of_isDelimiter hordered
  have hoperators : ordered.countP Token.isBinary = tokens.countP Token.isBinary :=
    countP_of_ofPrepared Token.isBinary_of_isDelimiter hordered
  have hbalance := countP_add_missing .operand tokens
  rw [List.length_nil] at hheight
  rw [Place.wanted] at hbalance
  omega

/-! ### What is sent finds its operands -/

/-- An operation that is sent takes its operands off the trees and puts its own
tree there. -/
theorem exists_listings_concat (hkind : token.kind = .function ∨ token.kind = .operator)
    (htrees : ∀ tree ∈ trees, tree.Unambiguous)
    (hcount : [token].countP Token.isBinary + 1 ≤ trees.length) :
    ∃ trees' : List Tree, (∀ tree ∈ trees', tree.Unambiguous) ∧
      trees'.length + [token].countP Token.isBinary = trees.length ∧
        Tree.listings trees' = Tree.listings trees ++ [token] := by
  obtain ⟨kind, text⟩ := token
  cases trees with
  | nil => exact absurd hcount (by simp)
  | cons top below =>
      obtain ⟨htop, hbelow⟩ := List.forall_mem_cons.1 htrees
      rcases hkind with rfl | rfl
      · refine ⟨.call text top :: below, List.forall_mem_cons.2 ⟨htop, hbelow⟩, ?_, ?_⟩
        · simp [Token.isBinary]
        · simp [Tree.listings, Tree.listing]
      · by_cases hsymbol : text = Token.negation.text
        · obtain rfl := hsymbol
          refine ⟨.negation top :: below, List.forall_mem_cons.2 ⟨htop, hbelow⟩, ?_, ?_⟩
          · simp [Token.isBinary, Token.isNegation]
          · simp [Tree.listings, Tree.listing, Token.negation]
        · have hbinary : Token.isBinary ⟨.operator, text⟩ = true := by
            simp [Token.isBinary, Token.isNegation_of_ne hsymbol]
          cases below with
          | nil => exact absurd hcount (by simp [hbinary])
          | cons left below =>
              obtain ⟨hleft, hbelow⟩ := List.forall_mem_cons.1 hbelow
              refine ⟨.binary text left top :: below,
                List.forall_mem_cons.2 ⟨⟨hsymbol, hleft, htop⟩, hbelow⟩, ?_, ?_⟩
              · simp [hbinary]
              · simp [Tree.listings, Tree.listing]

/-- The same of any operations that are sent one after the other. -/
theorem exists_listings_append
    (hkind : ∀ token ∈ sent, token.kind = .function ∨ token.kind = .operator)
    (htrees : ∀ tree ∈ trees, tree.Unambiguous)
    (hcount : sent.countP Token.isBinary + 1 ≤ trees.length) :
    ∃ trees' : List Tree, (∀ tree ∈ trees', tree.Unambiguous) ∧
      trees'.length + sent.countP Token.isBinary = trees.length ∧
        Tree.listings trees' = Tree.listings trees ++ sent := by
  induction sent generalizing trees with
  | nil => exact ⟨trees, htrees, rfl, (List.append_nil _).symm⟩
  | cons token rest ih =>
      obtain ⟨htoken, hrest⟩ := List.forall_mem_cons.1 hkind
      rw [← List.singleton_append, List.countP_append] at hcount ⊢
      obtain ⟨middle, hmiddle, hlength, hlistings⟩ :=
        exists_listings_concat htoken htrees (by omega)
      obtain ⟨trees', htrees', hlength', hlistings'⟩ := ih hrest hmiddle (by omega)
      refine ⟨trees', htrees', by omega, ?_⟩
      rw [hlistings', hlistings, List.append_assoc]

/-! ### The trees in the output -/

/-- The trees in the output are as many as the stack and the place require. -/
structure Complete (place : Place) (stack : List Token) (trees : List Tree) : Prop where
  unambiguous : ∀ tree ∈ trees, tree.Unambiguous
  canWait : ∀ waiting ∈ stack, CanWait waiting
  length_eq : trees.length + place.wanted = stack.countP Token.isBinary + 1

/-- If the token on the right is a sign, it does not send the one on its left to the
output. -/
def Spares (table : OperatorTable) (left right : Token) : Prop :=
  right.isNegation = true → ∀ coming, table right.text = some coming → ¬ Pops table coming left

/-- A token that starts to wait takes the place of an operator just if it is one
on two operands. -/
theorem complete_cons_iff {place' : Place} {below : List Token} (hcan : CanWait token)
    (hwanted : place'.wanted = [token].countP Token.isBinary + place.wanted) :
    Complete place' (token :: below) trees ↔ Complete place below trees := by
  have hcount : (token :: below).countP Token.isBinary =
      [token].countP Token.isBinary + below.countP Token.isBinary := by
    rw [← List.singleton_append, List.countP_append]
  constructor
  · rintro ⟨hunambiguous, hwaits, hlength⟩
    exact ⟨hunambiguous, (List.forall_mem_cons.1 hwaits).2, by omega⟩
  · rintro ⟨hunambiguous, hwaits, hlength⟩
    exact ⟨hunambiguous, List.forall_mem_cons.2 ⟨hcan, hwaits⟩, by omega⟩

/-- An operand is complete on its own. -/
theorem Complete.leaf (h : Complete .operand stack trees)
    (hkind : token.kind = .number ∨ token.kind = .constant) :
    ∃ trees', Complete .operator stack trees' ∧
      Tree.listings trees' = Tree.listings trees ++ [token] := by
  have hleaf : ∃ tree : Tree, tree.Unambiguous ∧ tree.listing = [token] := by
    obtain ⟨kind, text⟩ := token
    rcases hkind with rfl | rfl
    · exact ⟨.number text, trivial, rfl⟩
    · exact ⟨.constant text, trivial, rfl⟩
  obtain ⟨tree, htree, hlisting⟩ := hleaf
  refine ⟨tree :: trees, ⟨List.forall_mem_cons.2 ⟨htree, h.unambiguous⟩, h.canWait, ?_⟩, ?_⟩
  · exact h.length_eq
  · rw [Tree.listings, hlisting]

/-- While an operator is expected, all that is sent finds its operands. -/
theorem Complete.send {above below : List Token} (h : Complete .operator (above ++ below) trees)
    (hkind : ∀ waiting ∈ above, waiting.kind ≠ .leftParen) :
    ∃ trees', Complete .operator below trees' ∧
      Tree.listings trees' = Tree.listings trees ++ above := by
  obtain ⟨habove, hbelow⟩ := List.forall_mem_append.1 h.canWait
  have hcount := h.length_eq
  rw [List.countP_append, Place.wanted] at hcount
  have hoperation : ∀ waiting ∈ above, waiting.kind = .function ∨ waiting.kind = .operator := by
    intro waiting hwaiting
    rcases habove waiting hwaiting with hfunction | hoperator | hleft
    · exact Or.inl hfunction
    · exact Or.inr hoperator
    · exact absurd hleft (hkind waiting hwaiting)
  obtain ⟨trees', hunambiguous, hlength, hlistings⟩ :=
    exists_listings_append hoperation h.unambiguous (by omega)
  refine ⟨trees', ⟨hunambiguous, hbelow, ?_⟩, hlistings⟩
  rw [Place.wanted]
  omega

/-- A sign sends nothing, if the token on top is spared. -/
theorem sent_eq_nil_of_spares {coming : Operator} {below : List Token}
    (hsign : token.isNegation = true) (hcoming : table token.text = some coming)
    (hsent : ∀ waiting ∈ sent, Pops table coming waiting)
    (hspares : ∀ top ∈ (sent ++ below).head?, Spares table top token) : sent = [] := by
  cases sent with
  | nil => rfl
  | cons top more =>
      have hpops := hsent top (List.mem_cons_self ..)
      exact absurd hpops (hspares top rfl hsign coming hcoming)

/-- **One token** that stands where it may keeps the output complete. -/
theorem complete_of_moves (h : Moves table token stack sent stack') (hbar : token.kind ≠ .bar)
    (hspares : ∀ top ∈ stack.head?, Spares table top token)
    (hcomplete : Complete (Place.of token) stack trees) :
    ∃ trees', Complete (Place.after token) stack' trees' ∧
      Tree.listings trees' = Tree.listings trees ++ sent := by
  cases h with
  | operand hkind =>
      have hof : Place.of token = .operand := by rcases hkind with h | h <;> simp [Place.of, h]
      have hafter : Place.after token = .operator := by
        rcases hkind with h | h <;> simp [Place.after, h]
      rw [hof] at hcomplete
      rw [hafter]
      exact hcomplete.leaf hkind
  | wait hkind =>
      have hcan : CanWait token := hkind.imp_right Or.inr
      have hwanted : (Place.after token).wanted =
          [token].countP Token.isBinary + (Place.of token).wanted := by
        rcases hkind with h | h <;> simp [Place.of, Place.after, Place.wanted, Token.isBinary, h]
      exact ⟨trees, (complete_cons_iff hcan hwanted).2 hcomplete, (List.append_nil _).symm⟩
  | @operator coming _ below hkind hcoming hsent hblocks =>
      have hcan : CanWait token := Or.inr (Or.inl hkind)
      cases hsign : token.isNegation with
      | true =>
          obtain rfl := sent_eq_nil_of_spares hsign hcoming hsent hspares
          have hwanted : (Place.after token).wanted =
              [token].countP Token.isBinary + (Place.of token).wanted := by
            simp [Place.of, Place.after, Token.isBinary, hkind, hsign]
          exact ⟨trees, (complete_cons_iff hcan hwanted).2 hcomplete, (List.append_nil _).symm⟩
      | false =>
          have hof : Place.of token = .operator := by simp [Place.of, hkind, hsign]
          have hwanted : (Place.after token).wanted =
              [token].countP Token.isBinary + Place.operator.wanted := by
            simp [Place.after, Place.wanted, Token.isBinary, hkind, hsign]
          rw [hof] at hcomplete
          obtain ⟨trees', hbelow, hlistings⟩ :=
            hcomplete.send fun waiting hmem => (hsent waiting hmem).not_leftParen
          exact ⟨trees', (complete_cons_iff hcan hwanted).2 hbelow, hlistings⟩
  | @close partner pending below hkind hpending hpartner =>
      have hof : Place.of token = .operator := by simp [Place.of, hkind]
      have hafter : Place.after token = .operator := by simp [Place.after, hkind]
      have hwanted : Place.operator.wanted =
          [partner].countP Token.isBinary + Place.operator.wanted := by
        simp [Token.isBinary, hpartner]
      rw [hof] at hcomplete
      rw [hafter]
      -- first what waits inside of the group, then the function in front of it
      obtain ⟨middle, hmiddle, hinner⟩ := hcomplete.send hpending
      have hbelow := (complete_cons_iff (Or.inr (Or.inr hpartner)) hwanted).1 hmiddle
      obtain ⟨hcut, -⟩ := popFunction_cut below
      rw [hcut] at hbelow
      obtain ⟨trees', hleft, houter⟩ := hbelow.send (not_leftParen_of_popFunction below)
      exact ⟨trees', hleft, by rw [houter, hinner, List.append_assoc]⟩
  | bar hkind => exact absurd hkind hbar

/-- What an operand is expected after waits on top. -/
theorem head_of_moves (h : Moves table token stack sent stack')
    (hafter : Place.after token = .operand) : stack'.head? = some token := by
  cases h with
  | wait | operator => rfl
  | operand hkind => rcases hkind with h | h <;> simp [Place.after, h] at hafter
  | close hkind => simp [Place.after, hkind] at hafter
  | bar hkind => simp [Place.after, hkind] at hafter

/-- **A sequence keeps the output complete,** if its signs spare the tokens in front
of them. -/
theorem complete_of_run (h : run table stack tokens = .ok (sent, stack'))
    (hsequence : isSequence place tokens = true) (hspares : tokens.IsChain (Spares table))
    (hhead : place = .operand → ∀ top ∈ stack.head?, ∀ first ∈ tokens.head?, Spares table top first)
    (hcomplete : Complete place stack trees) :
    ∃ trees', Complete .operator stack' trees' ∧
      Tree.listings trees' = Tree.listings trees ++ sent := by
  induction tokens generalizing place stack sent trees with
  | nil =>
      obtain ⟨rfl, rfl⟩ := run_nil_eq_ok_iff.1 h
      obtain rfl : place = .operator := of_decide_eq_true hsequence
      exact ⟨trees, hcomplete, (List.append_nil _).symm⟩
  | cons token rest ih =>
      obtain ⟨first, middle, more, hmoves, hrun, rfl⟩ := run_cons_eq_ok_iff.1 h
      simp only [isSequence, Bool.and_eq_true, decide_eq_true_eq] at hsequence
      obtain ⟨⟨hbar, rfl⟩, hrest⟩ := hsequence
      obtain ⟨hnext, hchain⟩ := List.isChain_cons.1 hspares
      have htop : ∀ top ∈ stack.head?, Spares table top token := fun top hmem hsign =>
        hhead (Place.of_isNegation hsign) top hmem token rfl hsign
      obtain ⟨trees₁, hmiddle, hfirst⟩ := complete_of_moves hmoves hbar htop hcomplete
      -- the token in front of an operand waits on top, and it spares what comes after it
      have hhead' : Place.after token = .operand →
          ∀ top ∈ middle.head?, ∀ next ∈ rest.head?, Spares table top next := by
        intro hafter top hmem next hmem'
        rw [head_of_moves hmoves hafter] at hmem
        obtain rfl : token = top := Option.some.inj hmem
        exact hnext next hmem'
      obtain ⟨trees₂, hfinal, hmore⟩ := ih hrun hrest hchain hhead' hmiddle
      exact ⟨trees₂, hfinal, by rw [hmore, hfirst, List.append_assoc]⟩

/-- **The order of a sequence lists a tree.** -/
theorem exists_lists_of_isSequence (hsequence : isSequence .operand tokens = true)
    (hspares : tokens.IsChain (Spares table)) (h : ofPrepared table tokens = .ok ordered) :
    ∃ tree : Tree, tree.Lists ordered := by
  obtain ⟨sent, stack, hrun, rfl, hstack⟩ := ofPrepared_eq_ok_iff.1 h
  have hempty : Complete .operand [] [] :=
    ⟨List.forall_mem_nil _, List.forall_mem_nil _, rfl⟩
  obtain ⟨trees, hcomplete, hsent⟩ :=
    complete_of_run hrun hsequence hspares (fun _ _ htop => nomatch htop) hempty
  -- at the end all that waits is sent, and then there is one tree for no operator
  rw [← List.append_nil stack] at hcomplete
  obtain ⟨trees', hfinal, hdrained⟩ := hcomplete.send fun waiting hmem => (hstack waiting hmem).1
  have hlength : trees'.length = 1 := hfinal.length_eq
  obtain ⟨tree, rfl⟩ := List.length_eq_one_iff.1 hlength
  refine ⟨tree, hfinal.unambiguous tree (List.mem_singleton_self tree), ?_⟩
  rw [hsent] at hdrained
  exact hdrained

end Postfix

end Calculator
