import Calculator.Proofs.Ordering.Moves
import Calculator.Tree

/-!
# Precedence and grouping under any operator table

`Written table outer tree tokens` says that tokens write a tree down in infix
order: functions with their operand in parentheses, and parentheses at least
around every operand that needs them.  `outer` is the operator that stands open
in the tokens, outside of all parentheses and last in the order of evaluation;
a leaf, a call or a group has none.  Whether an operand needs parentheses is
asked of it:

* a left operand goes without if it binds tighter than the operator, or equally
  tight and its equals group to the left;
* a right operand goes without if it binds tighter, or equally tight and its
  equals group to the right.

## The stack against the tree

While the tokens of a tree are read, the operators that wait above the old stack
are those on the right edge of the tree, the last one on top.  Every one of
them binds at least as tight as the one below it, which is what makes the next
operator send all of them to the output or, if it binds tighter than `outer`,
find the operand it takes to be the right one (`Pending`).  Going the other way,
what waits on the old stack must leave alone every operator on the left edge of
the tree (`Guarded`), and it does so if it leaves alone `outer`, since operators
only bind tighter towards the left.

`reaches_of_written` carries both through the tree.  At the end nothing but `Pending`
operators wait, and the output followed by them is the listing.
-/

namespace Calculator

/-! ### Comparing two operators -/

namespace Operator

/-- An operand on the left goes without parentheses. -/
def HoldsLeft (inner outer : Operator) : Prop :=
  inner.precedence > outer.precedence ∨
    (inner.precedence = outer.precedence ∧ inner.associativity = .left)

/-- An operand on the right goes without parentheses. -/
def HoldsRight (inner outer : Operator) : Prop :=
  inner.precedence > outer.precedence ∨
    (inner.precedence = outer.precedence ∧ inner.associativity = .right)

/-- An operator leaves alone just those that hold as its right operand. -/
theorem pops_eq_false_iff {waiting coming : Operator} :
    waiting.pops coming = false ↔ coming.HoldsRight waiting := by
  rw [← Bool.not_eq_true, pops_eq_true_iff, HoldsRight]
  cases coming.associativity <;> simp <;> omega

/-- Towards the left of a tree operators bind tighter. -/
theorem holdsRight_of_pops {waiting outer inner : Operator} (hwaiting : outer.HoldsRight waiting)
    (hinner : inner.pops outer = true) : inner.HoldsRight waiting := by
  rw [pops_eq_true_iff] at hinner
  unfold HoldsRight at hwaiting ⊢
  rcases hwaiting with hlt | ⟨heq, hright⟩
  · exact Or.inl (by omega)
  · refine Or.inl ?_
    rcases hinner with hlt | ⟨-, hleft⟩
    · omega
    · exact absurd (hright.symm.trans hleft) (by decide)

/-- Towards the right of a tree operators are sent earlier. -/
theorem pops_of_holdsRight {inner outer coming : Operator} (hinner : inner.HoldsRight outer)
    (houter : outer.pops coming = true) : inner.pops coming = true := by
  rw [pops_eq_true_iff] at houter ⊢
  rcases hinner with hlt | ⟨heq, -⟩
  · exact Or.inl (by omega)
  · rw [heq]
    exact houter

end Operator

/-- Operators of one rank group to one side. -/
def OperatorTable.Uniform (table : OperatorTable) : Prop :=
  ∀ {symbol symbol' : String} {op op' : Operator}, table symbol = some op →
    table symbol' = some op' → op.precedence = op'.precedence →
      op.associativity = op'.associativity

theorem OperatorTable.uniform_standard : OperatorTable.standard.Uniform := by
  have hentries : ∀ entry ∈ Operator.standard, ∀ entry' ∈ Operator.standard,
      entry.2.precedence = entry'.2.precedence →
        entry.2.associativity = entry'.2.associativity := by decide
  intro symbol symbol' op op' hop hop' hrank
  exact hentries _ (Fields.mem_of_get? hop) _ (Fields.mem_of_get? hop') hrank

theorem OperatorTable.Uniform.pops_of_holdsLeft {table : OperatorTable} (h : table.Uniform)
    {symbol symbol' : String} {inner outer : Operator} (hinner : table symbol = some inner)
    (houter : table symbol' = some outer) (hleft : inner.HoldsLeft outer) :
    inner.pops outer = true := by
  rw [Operator.pops_eq_true_iff]
  exact hleft.imp_right fun hequal =>
    ⟨hequal.1, (h hinner houter hequal.1).symm.trans hequal.2⟩

theorem OperatorTable.Uniform.holdsLeft_of_le {table : OperatorTable} (h : table.Uniform)
    {symbol symbol' : String} {inner outer : Operator} (hinner : table symbol = some inner)
    (houter : table symbol' = some outer) (hleft : outer.associativity = .left)
    (hle : outer.precedence ≤ inner.precedence) : inner.HoldsLeft outer := by
  by_cases heq : inner.precedence = outer.precedence
  · exact Or.inr ⟨heq, (h hinner houter heq).trans hleft⟩
  · exact Or.inl (by omega)

theorem OperatorTable.Uniform.holdsRight_of_le {table : OperatorTable} (h : table.Uniform)
    {symbol symbol' : String} {inner outer : Operator} (hinner : table symbol = some inner)
    (houter : table symbol' = some outer) (hright : outer.associativity = .right)
    (hle : outer.precedence ≤ inner.precedence) : inner.HoldsRight outer := by
  by_cases heq : inner.precedence = outer.precedence
  · exact Or.inr ⟨heq, (h hinner houter heq).trans hright⟩
  · exact Or.inl (by omega)

namespace Infix

/-! ### Trees written down -/

/-- Tokens write a tree down, with parentheses at least where they are needed;
an operator may stand open in them. -/
inductive Written (table : OperatorTable) : Option Operator → Tree → List Token → Prop
  | number (text : String) : Written table none (.number text) [⟨.number, text⟩]
  | constant (symbol : String) : Written table none (.constant symbol) [⟨.constant, symbol⟩]
  | call {name : String} {operand : Tree} {inner : Option Operator} {tokens : List Token}
      (h : Written table inner operand tokens) :
      Written table none (.call name operand)
        (⟨.function, name⟩ :: .leftParen :: (tokens ++ [.rightParen]))
  | group {tree : Tree} {inner : Option Operator} {tokens : List Token}
      (h : Written table inner tree tokens) :
      Written table none tree (.leftParen :: (tokens ++ [.rightParen]))
  | negation {operand : Tree} {inner : Option Operator} {outer : Operator} {tokens : List Token}
      (houter : table Token.negation.text = some outer) (h : Written table inner operand tokens)
      (hinner : ∀ op ∈ inner, op.HoldsRight outer) :
      Written table (some outer) (.negation operand) (.negation :: tokens)
  | binary {symbol : String} {left right : Tree} {innerLeft innerRight : Option Operator}
      {outer : Operator} {tokensLeft tokensRight : List Token} (houter : table symbol = some outer)
      (hl : Written table innerLeft left tokensLeft)
      (hr : Written table innerRight right tokensRight)
      (hleft : ∀ op ∈ innerLeft, op.HoldsLeft outer)
      (hright : ∀ op ∈ innerRight, op.HoldsRight outer) :
      Written table (some outer) (.binary symbol left right)
        (tokensLeft ++ ⟨.operator, symbol⟩ :: tokensRight)

variable {table : OperatorTable} {outer : Option Operator} {tree : Tree} {tokens : List Token}

/-- The operator that stands open is one of the table. -/
theorem exists_symbol_of_written (h : Written table outer tree tokens) :
    ∀ op ∈ outer, ∃ symbol, table symbol = some op := by
  intro op hop
  cases h with
  | number | constant | call | group => cases hop
  | negation houter => exact ⟨_, houter.trans (congrArg some (Option.some.inj hop))⟩
  | binary houter => exact ⟨_, houter.trans (congrArg some (Option.some.inj hop))⟩

/-! ### Written tokens are prepared already -/

theorem balanced_of_written (h : Written table outer tree tokens) : Balanced tokens := by
  induction h with
  | number | constant => exact balanced_singleton _ (by simp) (by simp)
  | call h ih => exact (balanced_singleton ⟨.function, _⟩ (by simp) (by simp)).append ih.group
  | group h ih => exact ih.group
  | negation houter h hinner ih =>
      exact (balanced_singleton .negation (by decide) (by decide)).append ih
  | binary houter hl hr hleft hright ihl ihr =>
      exact ihl.append ((balanced_singleton ⟨.operator, _⟩ (by simp) (by simp)).append ihr)

theorem not_bar_of_written (h : Written table outer tree tokens) :
    ∀ token ∈ tokens, token.kind ≠ .bar := by
  induction h with
  | number | constant => simp
  | call h ih =>
      intro token htoken
      simp only [List.mem_cons, List.mem_append, List.not_mem_nil, or_false] at htoken
      rcases htoken with rfl | rfl | htoken | rfl
      · simp
      · decide
      · exact ih token htoken
      · decide
  | group h ih =>
      intro token htoken
      simp only [List.mem_cons, List.mem_append, List.not_mem_nil, or_false] at htoken
      rcases htoken with rfl | htoken | rfl
      · decide
      · exact ih token htoken
      · decide
  | negation houter h hinner ih => exact List.forall_mem_cons.2 ⟨by decide, ih⟩
  | binary houter hl hr hleft hright ihl ihr =>
      exact List.forall_mem_append.2 ⟨ihl, List.forall_mem_cons.2 ⟨by simp, ihr⟩⟩

theorem endsOperand_of_written (h : Written table outer tree tokens) : EndsOperand tokens := by
  have hclose : EndsOperand [.rightParen] := rfl
  induction h with
  | number | constant => rfl
  | call => exact ((hclose.append _).cons _).cons _
  | group => exact (hclose.append _).cons _
  | negation houter h hinner ih => exact ih.cons _
  | binary houter hl hr hleft hright ihl ihr => exact (ihr.cons _).append _

/-- Every minus in written tokens comes after an operand, so none is marked. -/
theorem markNegations_of_written (h : Written table outer tree tokens) :
    ∀ previous, markNegations previous tokens = tokens := by
  have hgroup : ∀ {tokens : List Token}, (∀ previous, markNegations previous tokens = tokens) →
      ∀ previous, markNegations previous (.leftParen :: (tokens ++ [.rightParen])) =
        .leftParen :: (tokens ++ [.rightParen]) := fun ih previous => by
    show Token.leftParen :: markNegations (some .leftParen) _ = _
    rw [markNegations_append, ih]
    rfl
  induction h with
  | number | constant => simp [markNegations]
  | call h ih =>
      intro previous
      rw [markNegations, hgroup ih]
      simp
  | group h ih => exact hgroup ih
  | @negation operand inner outer tokens houter h hinner ih =>
      intro previous
      show Token.negation :: markNegations (some .negation) tokens = _
      rw [ih]
  | binary houter hl hr hleft hright ihl ihr =>
      intro previous
      rw [markNegations_append, ihl, markNegations, ihr, (endsOperand_of_written hl).or,
        Bool.and_false]
      rfl

theorem settled_of_written (h : Written table outer tree tokens) : settled tokens = tokens := by
  rw [settled, markNegations_of_written h, replaceBars_of_no_bar (not_bar_of_written h)]

theorem prepare_of_written (h : Written table outer tree tokens) : prepare tokens = .ok tokens := by
  rw [prepare_eq_settled (balanced_of_written h) (barOpen_of_no_bar (not_bar_of_written h) false),
    settled_of_written h]

end Infix

namespace Postfix

open Infix

variable {table : OperatorTable} {outer : Option Operator} {tree : Tree}
  {tokens stack pending : List Token}

/-! ### What waits, and below what -/

/-- What waits above the old stack once a tree is read: operators that every
operator sends to the output that sends the one standing open. -/
structure Pending (table : OperatorTable) (outer : Option Operator) (pending : List Token) :
    Prop where
  isOperator : ∀ token ∈ pending, token.kind = .operator
  pops : ∀ coming, (∀ op ∈ outer, op.pops coming = true) →
    ∀ token ∈ pending, Pops table coming token

/-- The old stack leaves a tree alone: no function waits on top for it, and no
operator that the one standing open would send to the output. -/
structure Guarded (table : OperatorTable) (outer : Option Operator) (stack : List Token) :
    Prop where
  not_function : ∀ top ∈ stack.head?, top.kind ≠ .function
  blocks : ∀ op ∈ outer, Blocks table op stack

theorem pending_nil : Pending table outer [] :=
  ⟨by simp, by simp⟩

/-- What stands above a parenthesis is read on its own. -/
theorem guarded_leftParen (stack : List Token) : Guarded table outer (.leftParen :: stack) := by
  refine ⟨fun top htop => ?_, fun op _ top htop hkind => ?_⟩
  · obtain rfl : Token.leftParen = top := Option.some.inj htop
    decide
  · obtain rfl : Token.leftParen = top := Option.some.inj htop
    exact absurd hkind (by decide)

/-- An operator leaves alone the operands that hold on its right. -/
theorem guarded_operator {symbol : String} {waiting : Operator}
    (hwaiting : table symbol = some waiting) (hright : ∀ op ∈ outer, op.HoldsRight waiting) :
    Guarded table outer (⟨.operator, symbol⟩ :: stack) := by
  refine ⟨fun top htop => ?_, fun op hop top htop _ => ?_⟩
  · obtain rfl : (⟨.operator, symbol⟩ : Token) = top := Option.some.inj htop
    simp
  · obtain rfl : (⟨.operator, symbol⟩ : Token) = top := Option.some.inj htop
    exact ⟨waiting, hwaiting, Operator.pops_eq_false_iff.2 (hright op hop)⟩

/-- A stack that leaves an operator alone leaves its left operand alone. -/
theorem Guarded.left {inner : Option Operator} {op : Operator} (h : Guarded table (some op) stack)
    (hinner : ∀ a ∈ inner, a.pops op = true) : Guarded table inner stack := by
  refine ⟨h.not_function, fun a ha top htop hkind => ?_⟩
  obtain ⟨waiting, hwaiting, hpops⟩ := h.blocks op rfl top htop hkind
  rw [Operator.pops_eq_false_iff] at hpops
  exact ⟨waiting, hwaiting,
    Operator.pops_eq_false_iff.2 (Operator.holdsRight_of_pops hpops (hinner a ha))⟩

/-- The operator below a right operand is sent last. -/
theorem Pending.concat {symbol : String} {op : Operator} (hsymbol : table symbol = some op)
    (hright : ∀ a ∈ outer, a.HoldsRight op) (h : Pending table outer pending) :
    Pending table (some op) (pending ++ [⟨.operator, symbol⟩]) := by
  refine ⟨List.forall_mem_append.2 ⟨h.isOperator, by simp⟩, fun coming hcoming => ?_⟩
  have hop : op.pops coming = true := hcoming op rfl
  refine List.forall_mem_append.2 ⟨h.pops coming fun a ha => ?_, ?_⟩
  · exact Operator.pops_of_holdsRight (hright a ha) hop
  · exact List.forall_mem_singleton.2 ⟨rfl, op, hsymbol, hop⟩

/-- A right parenthesis sends what waits for it, and drops its partner. -/
theorem run_rightParen_of_pending (h : Pending table outer pending) (below : List Token) :
    run table (pending ++ .leftParen :: below) [.rightParen] =
      .ok (pending ++ (popFunction below).1, (popFunction below).2) := by
  have hclose : step table (pending ++ .leftParen :: below) .rightParen =
      .ok (pending ++ (popFunction below).1, (popFunction below).2) := by
    refine closeGroup_append (fun token htoken => ?_) rfl
    rw [h.isOperator token htoken]
    decide
  have hrun := run_cons_ok hclose (show run table _ [] = .ok ([], _) from rfl)
  rwa [List.append_nil] at hrun

/-- An operator sends all that waits above the old stack, and waits there itself. -/
theorem step_operator_of_pending {symbol : String} {coming : Operator}
    (hsymbol : table symbol = some coming) (hpending : ∀ token ∈ pending, Pops table coming token)
    (hblocks : Blocks table coming stack) :
    step table (pending ++ stack) ⟨.operator, symbol⟩ =
      .ok (pending, ⟨.operator, symbol⟩ :: stack) := by
  simp only [step, hsymbol, popOperators_append hpending hblocks]
  rfl

/-! ### Reading a tree -/

/-- Reading tokens sends the listing of a tree to the output, but for the
operators on its right edge, which wait above the old stack. -/
def Reaches (table : OperatorTable) (outer : Option Operator) (stack tokens : List Token)
    (tree : Tree) : Prop :=
  ∃ sent pending, run table stack tokens = .ok (sent, pending ++ stack) ∧
    sent ++ pending = tree.listing ∧ Pending table outer pending

theorem Reaches.group {inner : Option Operator} (hguarded : Guarded table outer stack)
    (h : Reaches table inner (.leftParen :: stack) tokens tree) :
    Reaches table none stack (.leftParen :: (tokens ++ [.rightParen])) tree := by
  obtain ⟨sent, pending, hrun, hlisting, hpending⟩ := h
  have hopen : step table stack .leftParen = .ok ([], .leftParen :: stack) := rfl
  -- no function waits for the group
  have hclose : run table (pending ++ .leftParen :: stack) [.rightParen] =
      .ok (pending, stack) := by
    rw [run_rightParen_of_pending hpending, popFunction_of_not_function hguarded.not_function,
      List.append_nil]
  have hgroup := run_cons_ok hopen (run_append_ok hrun hclose)
  refine ⟨sent ++ pending, [], ?_, ?_, pending_nil⟩
  · rwa [List.nil_append] at hgroup
  · rw [List.append_nil, hlisting]

theorem Reaches.call {inner : Option Operator} {name : String}
    (h : Reaches table inner (.leftParen :: ⟨.function, name⟩ :: stack) tokens tree) :
    Reaches table none stack (⟨.function, name⟩ :: .leftParen :: (tokens ++ [.rightParen]))
      (.call name tree) := by
  obtain ⟨sent, pending, hrun, hlisting, hpending⟩ := h
  have hfunction : step table stack ⟨.function, name⟩ = .ok ([], ⟨.function, name⟩ :: stack) := rfl
  have hopen : step table (⟨.function, name⟩ :: stack) .leftParen =
      .ok ([], .leftParen :: ⟨.function, name⟩ :: stack) := rfl
  -- the right parenthesis sends the function after the operand
  have hclose : run table (pending ++ .leftParen :: ⟨.function, name⟩ :: stack) [.rightParen] =
      .ok (pending ++ [⟨.function, name⟩], stack) := run_rightParen_of_pending hpending _
  have hcall := run_cons_ok hfunction (run_cons_ok hopen (run_append_ok hrun hclose))
  refine ⟨sent ++ (pending ++ [⟨.function, name⟩]), [], ?_, ?_, pending_nil⟩
  · rwa [List.nil_append, List.nil_append] at hcall
  · rw [List.append_nil, ← List.append_assoc, hlisting, Tree.listing]

theorem Reaches.negation {inner : Option Operator} {op : Operator}
    (hop : table Token.negation.text = some op) (hguarded : Guarded table (some op) stack)
    (hinner : ∀ a ∈ inner, a.HoldsRight op)
    (h : Reaches table inner (.negation :: stack) tokens tree) :
    Reaches table (some op) stack (.negation :: tokens) (.negation tree) := by
  obtain ⟨sent, pending, hrun, hlisting, hpending⟩ := h
  -- a sign has no left operand, so there is nothing for it to send
  have hsign : step table stack .negation = .ok ([], .negation :: stack) :=
    step_operator_of_pending hop (List.forall_mem_nil _) (hguarded.blocks op rfl)
  refine ⟨sent, pending ++ [.negation], ?_, ?_, hpending.concat hop hinner⟩
  · rw [List.append_assoc]
    exact run_cons_ok hsign hrun
  · rw [← List.append_assoc, hlisting, Tree.listing]

theorem Reaches.binary {innerLeft innerRight : Option Operator} {symbol : String} {op : Operator}
    {left right : Tree} {tokensLeft tokensRight : List Token} (hop : table symbol = some op)
    (hguarded : Guarded table (some op) stack) (hpops : ∀ a ∈ innerLeft, a.pops op = true)
    (hright : ∀ a ∈ innerRight, a.HoldsRight op)
    (hl : Reaches table innerLeft stack tokensLeft left)
    (hr : Reaches table innerRight (⟨.operator, symbol⟩ :: stack) tokensRight right) :
    Reaches table (some op) stack (tokensLeft ++ ⟨.operator, symbol⟩ :: tokensRight)
      (.binary symbol left right) := by
  obtain ⟨sentLeft, pendingLeft, hrunLeft, hlistingLeft, hpendingLeft⟩ := hl
  obtain ⟨sentRight, pendingRight, hrunRight, hlistingRight, hpendingRight⟩ := hr
  -- the operator sends the rest of its left operand, and waits for its right one
  have hoperator : step table (pendingLeft ++ stack) ⟨.operator, symbol⟩ =
      .ok (pendingLeft, ⟨.operator, symbol⟩ :: stack) :=
    step_operator_of_pending hop (hpendingLeft.pops op hpops) (hguarded.blocks op rfl)
  refine ⟨sentLeft ++ (pendingLeft ++ sentRight), pendingRight ++ [⟨.operator, symbol⟩], ?_, ?_,
    hpendingRight.concat hop hright⟩
  · rw [List.append_assoc]
    exact run_append_ok hrunLeft (run_cons_ok hoperator hrunRight)
  · calc sentLeft ++ (pendingLeft ++ sentRight) ++ (pendingRight ++ [⟨.operator, symbol⟩])
        = (sentLeft ++ pendingLeft) ++ (sentRight ++ pendingRight) ++ [⟨.operator, symbol⟩] := by
          simp only [List.append_assoc]
      _ = left.listing ++ right.listing ++ [⟨.operator, symbol⟩] := by
          rw [hlistingLeft, hlistingRight]
      _ = (Tree.binary symbol left right).listing := by rw [Tree.listing]

/-- **A tree written down is read as that tree**, above any stack that leaves it
alone. -/
theorem reaches_of_written (huniform : table.Uniform) (h : Written table outer tree tokens)
    (hguarded : Guarded table outer stack) : Reaches table outer stack tokens tree := by
  induction h generalizing stack with
  | number text => exact ⟨[⟨.number, text⟩], [], rfl, rfl, pending_nil⟩
  | constant symbol => exact ⟨[⟨.constant, symbol⟩], [], rfl, rfl, pending_nil⟩
  | call h ih => exact (ih (guarded_leftParen _)).call
  | group h ih => exact (ih (guarded_leftParen _)).group hguarded
  | negation houter h hinner ih =>
      exact (ih (guarded_operator houter hinner)).negation houter hguarded hinner
  | @binary symbol left right innerLeft innerRight outer tokensLeft tokensRight houter hl hr hleft
      hright ihl ihr =>
      -- the operator pops the one that stands open in its left operand
      have hpops : ∀ op ∈ innerLeft, op.pops outer = true := by
        intro op hop
        obtain ⟨inner, hinner⟩ := exists_symbol_of_written hl op hop
        exact huniform.pops_of_holdsLeft hinner houter (hleft op hop)
      have hreadLeft : Reaches table innerLeft stack tokensLeft left := ihl (hguarded.left hpops)
      have hreadRight : Reaches table innerRight (⟨.operator, symbol⟩ :: stack) tokensRight right :=
        ihr (guarded_operator houter hright)
      exact hreadLeft.binary houter hguarded hpops hright hreadRight

/-- The postfix order of a tree written down is its listing. -/
theorem ofPrepared_of_written (huniform : table.Uniform) (h : Written table outer tree tokens) :
    ofPrepared table tokens = .ok tree.listing := by
  have hempty : Guarded table outer [] := by
    refine ⟨fun top htop => ?_, fun op hop top htop => ?_⟩ <;> cases htop
  obtain ⟨sent, pending, hrun, hlisting, hpending⟩ := reaches_of_written huniform h hempty
  rw [List.append_nil] at hrun
  rw [← hlisting]
  -- what waits at the end are operators, so no parenthesis is left open
  refine ofPrepared_of_run hrun fun token htoken => ?_
  rw [hpending.isOperator token htoken]
  decide

/-- **Precedence and associativity**: for every operator table in which one rank
groups to one side, the tokens that write a tree down are put into the listing
of the tree. -/
theorem ofInfix_of_written (huniform : table.Uniform) (h : Written table outer tree tokens) :
    ofInfix table tokens = .ok tree.listing := by
  rw [ofInfix, prepare_of_written h]
  exact ofPrepared_of_written huniform h

/-- Powers group to the right and differences to the left, here in parentheses. -/
theorem ofInfix_powers_of_difference :
    ofInfix .standard [⟨.number, "2"⟩, ⟨.operator, "^"⟩, ⟨.number, "3"⟩, ⟨.operator, "^"⟩,
        .leftParen, ⟨.constant, "e"⟩, ⟨.operator, "-"⟩, ⟨.constant, "π"⟩, ⟨.operator, "-"⟩,
        ⟨.number, "1"⟩, .rightParen] =
      .ok (Tree.binary "^" (.number "2") (.binary "^" (.number "3")
        (.binary "-" (.binary "-" (.constant "e") (.constant "π")) (.number "1")))).listing := by
  have hinner : Written .standard (some ⟨1, .left⟩) (.binary "-" (.constant "e") (.constant "π"))
      [⟨.constant, "e"⟩, ⟨.operator, "-"⟩, ⟨.constant, "π"⟩] :=
    .binary rfl (.constant "e") (.constant "π") (by simp) (by simp)
  have hdifference : Written .standard (some ⟨1, .left⟩)
      (.binary "-" (.binary "-" (.constant "e") (.constant "π")) (.number "1"))
      [⟨.constant, "e"⟩, ⟨.operator, "-"⟩, ⟨.constant, "π"⟩, ⟨.operator, "-"⟩, ⟨.number, "1"⟩] :=
    .binary rfl hinner (.number "1") (by simp [Operator.HoldsLeft]) (by simp)
  have hpower : Written .standard (some ⟨4, .right⟩) (.binary "^" (.number "3")
      (.binary "-" (.binary "-" (.constant "e") (.constant "π")) (.number "1")))
      [⟨.number, "3"⟩, ⟨.operator, "^"⟩, .leftParen, ⟨.constant, "e"⟩, ⟨.operator, "-"⟩,
        ⟨.constant, "π"⟩, ⟨.operator, "-"⟩, ⟨.number, "1"⟩, .rightParen] :=
    .binary rfl (.number "3") hdifference.group (by simp) (by simp)
  exact ofInfix_of_written OperatorTable.uniform_standard
    (.binary rfl (.number "2") hpower (by simp) (by simp [Operator.HoldsRight]))

end Postfix

end Calculator
