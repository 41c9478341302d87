import Calculator.Proofs.Ordering.Precedence
import Mathlib.Data.List.Chain
import Mathlib.Logic.Relation

/-!
# The stack at every moment

A step handles a whole token, and on the way the stack passes through states that are
not seen from outside: operators are sent one after the other before the coming one
waits, and a group is unwound token by token.  `Tick` goes through all of them, one change
of the stack at a time.

That the ticks are those of the run is said from both sides.  What the run comes to can be
told from any moment on the way (`outcome_of_tick`).  Whatever a run leaves is reached by
ticks (`ticks_of_run`), so also the moments between tokens of a row that is refused later,
and they do not stop before the run does (`exists_tick`).

At every moment the operators that stand on each other bind tighter towards the top
(`Ranked`).  Only an operator that comes to wait can break this, and what blocks it is just
what it has to bind tighter than.  All other ticks take from the top or put a token there
that is no operator, so that a left parenthesis or a function parts what is above it
from what is below.
-/

namespace Calculator.Postfix

open Relation (ReflTransGen)

variable {table : OperatorTable} {token top : Token}
  {tokens rest front back stack middle below sent first more popped : List Token}

/-! ### Moments -/

/-- Where the ordering stands: the tokens still to be handled, the one in hand first, what
has been sent, and what waits. -/
structure Moment where
  tokens : List Token
  sent : List Token
  stack : List Token
  /-- A group has just been closed, and the function in front of it, if there is one, is
  still to be sent. -/
  closed : Bool := false

/-- One change of the stack or of the output. -/
inductive Tick (table : OperatorTable) : Moment → Moment → Prop
  | operand {token : Token} {rest sent stack : List Token}
      (h : token.kind = .number ∨ token.kind = .constant) :
      Tick table { tokens := token :: rest, sent, stack }
        { tokens := rest, sent := sent ++ [token], stack }
  | wait {token : Token} {rest sent stack : List Token}
      (h : token.kind = .function ∨ token.kind = .leftParen) :
      Tick table { tokens := token :: rest, sent, stack }
        { tokens := rest, sent, stack := token :: stack }
  /-- An operator sends one that waits on top, and stays in hand. -/
  | pop {token top : Token} {coming : Operator} {rest sent below : List Token}
      (hkind : token.kind = .operator) (hcoming : table token.text = some coming)
      (hpops : Pops table coming top) :
      Tick table { tokens := token :: rest, sent, stack := top :: below }
        { tokens := token :: rest, sent := sent ++ [top], stack := below }
  | push {token : Token} {coming : Operator} {rest sent stack : List Token}
      (hkind : token.kind = .operator) (hcoming : table token.text = some coming)
      (hblocks : Blocks table coming stack) :
      Tick table { tokens := token :: rest, sent, stack }
        { tokens := rest, sent, stack := token :: stack }
  /-- A right parenthesis sends what stands above its partner, and stays in hand. -/
  | unwind {token top : Token} {rest sent below : List Token}
      (hkind : token.kind = .rightParen) (htop : top.kind ≠ .leftParen) :
      Tick table { tokens := token :: rest, sent, stack := top :: below }
        { tokens := token :: rest, sent := sent ++ [top], stack := below }
  | close {token partner : Token} {rest sent below : List Token}
      (hkind : token.kind = .rightParen) (hpartner : partner.kind = .leftParen) :
      Tick table { tokens := token :: rest, sent, stack := partner :: below }
        { tokens := rest, sent, stack := below, closed := true }
  | call {top : Token} {tokens sent below : List Token} (htop : top.kind = .function) :
      Tick table { tokens, sent, stack := top :: below, closed := true }
        { tokens, sent := sent ++ [top], stack := below }
  | group {tokens sent stack : List Token} (h : ∀ top ∈ stack.head?, top.kind ≠ .function) :
      Tick table { tokens, sent, stack, closed := true } { tokens, sent, stack }
  | bar {token : Token} {rest sent stack : List Token} (h : token.kind = .bar) :
      Tick table { tokens := token :: rest, sent, stack } { tokens := rest, sent, stack }

/-- The ordering of the tokens comes by the moment. -/
def Reached (table : OperatorTable) (tokens : List Token) (moment : Moment) : Prop :=
  ReflTransGen (Tick table) { tokens, sent := [], stack := [] } moment

/-! ### What the run comes to -/

/-- A result behind what was sent before. -/
def behind (sent : List Token) (result : Step) : Step :=
  (sent ++ result.1, result.2)

theorem map_behind_behind (sent more : List Token) (x : Except Failure Step) :
    (x.map (behind more)).map (behind sent) = x.map (behind (sent ++ more)) := by
  cases x with
  | error failure => rfl
  | ok result => simp [Except.map, behind]

/-- What the ordering comes to from a moment on. -/
def Moment.outcome (table : OperatorTable) : Moment → Except Failure Step
  | ⟨tokens, sent, stack, false⟩ => (run table stack tokens).map (behind sent)
  | ⟨tokens, sent, stack, true⟩ =>
    (run table (popFunction stack).2 tokens).map (behind (sent ++ (popFunction stack).1))

/-- A token that moves has sent what it sends, and the rest goes on from there. -/
theorem map_run_of_moves (h : Moves table token stack first middle) (sent rest : List Token) :
    (run table stack (token :: rest)).map (behind sent) =
      (run table middle rest).map (behind (sent ++ first)) := by
  have hrun : run table stack (token :: rest) = (run table middle rest).map (behind first) := by
    rw [run, step_eq_ok_iff.2 h]
    show (run table middle rest >>= _) = _
    cases run table middle rest <;> rfl
  rw [hrun, map_behind_behind]

/-- A token that stays in hand has sent what was on top. -/
theorem map_run_of_step
    (h : step table (top :: below) token = (step table below token).map (behind [top]))
    (sent rest : List Token) :
    (run table (top :: below) (token :: rest)).map (behind sent) =
      (run table below (token :: rest)).map (behind (sent ++ [top])) := by
  have hrun : run table (top :: below) (token :: rest) =
      (run table below (token :: rest)).map (behind [top]) := by
    rw [run, h, run]
    cases step table below token with
    | error failure => rfl
    | ok result =>
        show (run table result.2 rest >>= _) = (run table result.2 rest >>= _).map _
        cases run table result.2 rest <;> rfl
  rw [hrun, map_behind_behind]

theorem step_of_pops {coming : Operator} (hkind : token.kind = .operator)
    (hcoming : table token.text = some coming) (hpops : Pops table coming top) :
    step table (top :: below) token = (step table below token).map (behind [top]) := by
  simp only [step, hkind, hcoming, popOperators_of_pops hpops]
  cases popOperators table coming below <;> rfl

theorem step_of_unwind (hkind : token.kind = .rightParen) (htop : top.kind ≠ .leftParen) :
    step table (top :: below) token = (step table below token).map (behind [top]) := by
  simp only [step, hkind, closeGroup, if_neg htop]
  cases closeGroup below <;> rfl

/-- **One tick** changes nothing in what the run comes to. -/
theorem outcome_of_tick {moment next : Moment} (h : Tick table moment next) :
    moment.outcome table = next.outcome table := by
  cases h with
  | operand h => exact map_run_of_moves (.operand h) _ _
  | @wait token rest sent stack h =>
      have hmoves : Moves table token stack [] (token :: stack) := .wait h
      have hrun := map_run_of_moves hmoves sent rest
      rwa [List.append_nil] at hrun
  | @bar token rest sent stack h =>
      have hmoves : Moves table token stack [] stack := .bar h
      have hrun := map_run_of_moves hmoves sent rest
      rwa [List.append_nil] at hrun
  | @push token coming rest sent stack hkind hcoming hblocks =>
      have hmoves := Moves.operator hkind hcoming (List.forall_mem_nil _) hblocks
      have hrun := map_run_of_moves hmoves sent rest
      rwa [List.append_nil] at hrun
  | close hkind hpartner =>
      exact map_run_of_moves (.close hkind (List.forall_mem_nil _) hpartner) _ _
  | pop hkind hcoming hpops => exact map_run_of_step (step_of_pops hkind hcoming hpops) _ _
  | unwind hkind htop => exact map_run_of_step (step_of_unwind hkind htop) _ _
  | call htop => simp [Moment.outcome, popFunction, htop]
  | group h => simp [Moment.outcome, popFunction_of_not_function h]

theorem outcome_of_reached {moment : Moment} (h : Reached table tokens moment) :
    moment.outcome table = run table [] tokens := by
  induction h with
  | refl =>
      show (run table [] tokens).map (behind []) = _
      cases run table [] tokens <;> rfl
  | tail _ htick ih => exact (outcome_of_tick htick).symm.trans ih

/-! ### The ticks of a run -/

/-- Tokens on top that are sent one by one. -/
theorem ticks_of_popped
    (h : ∀ top ∈ popped, ∀ sent below, Tick table { tokens, sent, stack := top :: below }
      { tokens, sent := sent ++ [top], stack := below }) (sent below : List Token) :
    ReflTransGen (Tick table) { tokens, sent, stack := popped ++ below }
      { tokens, sent := sent ++ popped, stack := below } := by
  induction popped generalizing sent with
  | nil => rw [List.append_nil, List.nil_append]
  | cons top popped ih =>
      obtain ⟨htop, hpopped⟩ := List.forall_mem_cons.1 h
      have hothers := ih hpopped (sent ++ [top])
      rw [List.append_assoc] at hothers
      exact hothers.head (htop sent (popped ++ below))

/-- A group that has been closed sends its function. -/
theorem tick_of_closed (tokens sent stack : List Token) :
    Tick table { tokens, sent, stack, closed := true }
      { tokens, sent := sent ++ (popFunction stack).1, stack := (popFunction stack).2 } := by
  cases stack with
  | nil =>
      rw [popFunction, List.append_nil]
      exact .group (by simp)
  | cons top below =>
      by_cases htop : top.kind = .function
      · rw [popFunction, if_pos htop]
        exact .call htop
      · rw [popFunction, if_neg htop, List.append_nil]
        exact .group (by simpa using htop)

/-- **One token** is handled in ticks. -/
theorem ticks_of_moves (h : Moves table token stack first middle) (sent rest : List Token) :
    ReflTransGen (Tick table) { tokens := token :: rest, sent, stack }
      { tokens := rest, sent := sent ++ first, stack := middle } := by
  cases h with
  | operand h => exact .single (.operand h)
  | wait h =>
      rw [List.append_nil]
      exact .single (.wait h)
  | bar h =>
      rw [List.append_nil]
      exact .single (.bar h)
  | @operator coming popped below hkind hcoming hpopped hblocks =>
      have hsend : ReflTransGen (Tick table)
          { tokens := token :: rest, sent, stack := first ++ below }
          { tokens := token :: rest, sent := sent ++ first, stack := below } :=
        ticks_of_popped (fun top hmem _ _ => .pop hkind hcoming (hpopped top hmem)) sent below
      exact hsend.tail (.push hkind hcoming hblocks)
  | @close partner pending below hkind hpending hpartner =>
      have hsend : ReflTransGen (Tick table)
          { tokens := token :: rest, sent, stack := pending ++ partner :: below }
          { tokens := token :: rest, sent := sent ++ pending, stack := partner :: below } :=
        ticks_of_popped (fun top hmem _ _ => .unwind hkind (hpending top hmem)) sent _
      rw [← List.append_assoc]
      exact (hsend.tail (.close hkind hpartner)).tail (tick_of_closed rest _ below)

/-- **A run** is a row of ticks, whatever follows. -/
theorem ticks_of_run (h : run table stack front = .ok (more, middle)) (sent back : List Token) :
    ReflTransGen (Tick table) { tokens := front ++ back, sent, stack }
      { tokens := back, sent := sent ++ more, stack := middle } := by
  induction front generalizing stack sent more with
  | nil =>
      obtain ⟨rfl, rfl⟩ := run_nil_eq_ok_iff.1 h
      rw [List.append_nil, List.nil_append]
  | cons token front ih =>
      obtain ⟨first, between, later, hmoves, hrun, rfl⟩ := run_cons_eq_ok_iff.1 h
      rw [← List.append_assoc]
      exact (ticks_of_moves hmoves sent (front ++ back)).trans (ih hrun (sent ++ first))

/-- The ticks go as far as the run does. -/
theorem exists_tick (table : OperatorTable) (moment : Moment) :
    (∃ next, Tick table moment next) ∨
      moment.outcome table = .ok (moment.sent, moment.stack) ∨
        ∃ failure, moment.outcome table = .error failure := by
  obtain ⟨tokens, sent, stack, closed⟩ := moment
  cases closed with
  | true => exact Or.inl ⟨_, tick_of_closed tokens sent stack⟩
  | false =>
      cases tokens with
      | nil =>
          refine Or.inr (Or.inl ?_)
          show Except.ok (sent ++ [], stack) = _
          rw [List.append_nil]
      | cons token rest =>
          cases hstep : step table stack token with
          | ok result =>
              -- the token is handled in ticks, and there is a first one since it is in hand before
              have hticks := ticks_of_moves (step_eq_ok_iff.1 hstep) sent rest
              rcases hticks.cases_head with heq | ⟨next, htick, -⟩
              · exact absurd (congrArg Moment.tokens heq) (List.cons_ne_self token rest)
              · exact Or.inl ⟨next, htick⟩
          | error failure =>
              refine Or.inr (Or.inr ⟨failure, ?_⟩)
              show (run table stack (token :: rest)).map (behind sent) = _
              rw [run, hstep]
              rfl

/-! ### The order of operators that wait -/

/-- Of two operators, one directly on the other, the upper one binds tighter, or equally tight
and its equals group to the right. -/
def Outbinds (table : OperatorTable) (upper lower : Token) : Prop :=
  upper.kind = .operator → lower.kind = .operator →
    ∃ high low, table upper.text = some high ∧ table lower.text = some low ∧ high.HoldsRight low

/-- From the top down each operator outbinds the one below it, and the table has them all. -/
structure Ranked (table : OperatorTable) (stack : List Token) : Prop where
  chain : stack.IsChain (Outbinds table)
  listed : ∀ waiting ∈ stack, Listed table waiting

theorem ranked_nil : Ranked table [] :=
  ⟨.nil, List.forall_mem_nil _⟩

theorem Ranked.of_cons (h : Ranked table (top :: below)) : Ranked table below :=
  ⟨h.chain.tail, (List.forall_mem_cons.1 h.listed).2⟩

/-- What is no operator can wait on anything. -/
theorem Ranked.cons_of_ne (h : Ranked table stack) (hkind : token.kind ≠ .operator) :
    Ranked table (token :: stack) :=
  ⟨List.isChain_cons.2 ⟨fun _ _ hoperator => absurd hoperator hkind, h.chain⟩,
    List.forall_mem_cons.2 ⟨fun hoperator => absurd hoperator hkind, h.listed⟩⟩

/-- An operator can wait on what blocks it. -/
theorem Ranked.cons_of_blocks {coming : Operator} (h : Ranked table stack)
    (hcoming : table token.text = some coming) (hblocks : Blocks table coming stack) :
    Ranked table (token :: stack) := by
  refine ⟨List.isChain_cons.2 ⟨fun next hnext _ hoperator => ?_, h.chain⟩,
    List.forall_mem_cons.2 ⟨fun _ => ⟨coming, hcoming⟩, h.listed⟩⟩
  obtain ⟨waiting, hwaiting, hpops⟩ := hblocks next hnext hoperator
  exact ⟨coming, waiting, hcoming, hwaiting, Operator.pops_eq_false_iff.1 hpops⟩

/-- **One tick** keeps the order. -/
theorem ranked_of_tick {moment next : Moment} (h : Tick table moment next)
    (hranked : Ranked table moment.stack) : Ranked table next.stack := by
  cases h with
  | operand | group | bar => exact hranked
  | wait h =>
      refine hranked.cons_of_ne ?_
      rcases h with hkind | hkind <;> simp [hkind]
  | push hkind hcoming hblocks => exact hranked.cons_of_blocks hcoming hblocks
  | pop | unwind | close | call => exact hranked.of_cons

theorem ranked_of_reached {moment : Moment} (h : Reached table tokens moment) :
    Ranked table moment.stack := by
  induction h with
  | refl => exact ranked_nil
  | tail _ htick ih => exact ranked_of_tick htick ih

/-- **The stack at every moment**, under any table and for any tokens.  Of two operators of
which one stands directly on the other, the lower has the lower rank, or the ranks are
equal and the upper groups to the right, and the table has every operator that waits.  The
moments are those of the run: it comes to what can still be told from any of them, there is
a next one unless it ends here or is refused, and whatever it leaves behind the first
tokens is one of them. -/
theorem ranked_at_every_moment (table : OperatorTable) (tokens : List Token) :
    (∀ moment, Reached table tokens moment →
      (∀ above upper lower below, moment.stack = above ++ upper :: lower :: below →
        upper.kind = .operator → lower.kind = .operator →
          ∃ high low, table upper.text = some high ∧ table lower.text = some low ∧
            (low.precedence < high.precedence ∨
              low.precedence = high.precedence ∧ high.associativity = .right)) ∧
      (∀ waiting ∈ moment.stack, waiting.kind = .operator →
        ∃ op, table waiting.text = some op) ∧
      moment.outcome table = run table [] tokens ∧
      ((∃ next, Tick table moment next) ∨
        run table [] tokens = .ok (moment.sent, moment.stack) ∨
          ∃ failure, run table [] tokens = .error failure)) ∧
    ∀ front back sent stack, tokens = front ++ back → run table [] front = .ok (sent, stack) →
      Reached table tokens { tokens := back, sent, stack } := by
  refine ⟨fun moment hreached => ?_, ?_⟩
  · obtain ⟨hchain, hlisted⟩ := ranked_of_reached hreached
    have houtcome := outcome_of_reached hreached
    refine ⟨fun above upper lower below hstack hupper hlower => ?_, hlisted, houtcome,
      houtcome ▸ exists_tick table moment⟩
    have houtbinds := List.isChain_iff_forall_rel_of_append_cons_cons.1 hchain hstack
    obtain ⟨high, low, hhigh, hlow, hholds⟩ := houtbinds hupper hlower
    exact ⟨high, low, hhigh, hlow, hholds.imp_right fun hequal => ⟨hequal.1.symm, hequal.2⟩⟩
  · rintro front back sent stack rfl hrun
    exact ticks_of_run hrun [] back

/-- The minus after `1 + 2 * 3 ^ 4` has sent the power and looks at the product, which stands
on the sum. -/
theorem ranked_in_mid_pop :
    Reached .standard
      [⟨.number, "1"⟩, ⟨.operator, "+"⟩, ⟨.number, "2"⟩, ⟨.operator, "*"⟩, ⟨.number, "3"⟩,
        ⟨.operator, "^"⟩, ⟨.number, "4"⟩, ⟨.operator, "-"⟩, ⟨.number, "5"⟩]
      { tokens := [⟨.operator, "-"⟩, ⟨.number, "5"⟩]
        sent := [⟨.number, "1"⟩, ⟨.number, "2"⟩, ⟨.number, "3"⟩, ⟨.number, "4"⟩, ⟨.operator, "^"⟩]
        stack := [⟨.operator, "*"⟩, ⟨.operator, "+"⟩] } ∧
    ∃ high low, OperatorTable.standard "*" = some high ∧ OperatorTable.standard "+" = some low ∧
      (low.precedence < high.precedence ∨
        low.precedence = high.precedence ∧ high.associativity = .right) := by
  obtain ⟨hmoments, hruns⟩ := ranked_at_every_moment .standard
    [⟨.number, "1"⟩, ⟨.operator, "+"⟩, ⟨.number, "2"⟩, ⟨.operator, "*"⟩, ⟨.number, "3"⟩,
      ⟨.operator, "^"⟩, ⟨.number, "4"⟩, ⟨.operator, "-"⟩, ⟨.number, "5"⟩]
  have hbefore := hruns
    [⟨.number, "1"⟩, ⟨.operator, "+"⟩, ⟨.number, "2"⟩, ⟨.operator, "*"⟩, ⟨.number, "3"⟩,
      ⟨.operator, "^"⟩, ⟨.number, "4"⟩] _ _ _ rfl rfl
  have hreached := hbefore.tail (.pop rfl rfl ⟨rfl, ⟨4, .right⟩, rfl, rfl⟩)
  obtain ⟨hranked, -⟩ := hmoments _ hreached
  exact ⟨hreached, hranked [] _ _ [] rfl rfl rfl⟩

end Calculator.Postfix
