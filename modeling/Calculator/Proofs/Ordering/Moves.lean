import Calculator.Proofs.Lexing.Vocabulary
import Calculator.Proofs.Ordering.Preparation
import Calculator.Proofs.Ordering.Yard

/-!
# What a run keeps

`Moves` says everything that one token can do to the stack of the ordering, one
rule for each way to go on, and a step comes to a result just by such a move
(`step_eq_ok_iff`).  Whatever holds of a run is therefore read off five rules:

* no token is lost and none is made up.  The output and the stack hold what the
  old stack and the tokens hold, but for delimiters (`run_perm`);
* as many left parentheses wait as the check of parentheses counts open
  (`checkParentheses_of_moves`).  So a row that passes the check is ordered, if
  the table has its operators (`exists_ofPrepared`).
-/

namespace Calculator.Postfix

open Infix

open scoped List

variable {table : OperatorTable} {token : Token}
  {tokens stack stack' sent ordered : List Token}

/-! ### The moves -/

/-- How a token changes the stack, and what it sends to the output. -/
inductive Moves (table : OperatorTable) : Token → List Token → List Token → List Token → Prop
  | operand {token : Token} {stack : List Token}
      (h : token.kind = .number ∨ token.kind = .constant) :
      Moves table token stack [token] stack
  | wait {token : Token} {stack : List Token}
      (h : token.kind = .function ∨ token.kind = .leftParen) :
      Moves table token stack [] (token :: stack)
  | operator {token : Token} {coming : Operator} {sent below : List Token}
      (hkind : token.kind = .operator) (hcoming : table token.text = some coming)
      (hsent : ∀ waiting ∈ sent, Pops table coming waiting) (hblocks : Blocks table coming below) :
      Moves table token (sent ++ below) sent (token :: below)
  | close {token partner : Token} {pending below : List Token} (hkind : token.kind = .rightParen)
      (hpending : ∀ waiting ∈ pending, waiting.kind ≠ .leftParen)
      (hpartner : partner.kind = .leftParen) :
      Moves table token (pending ++ partner :: below) (pending ++ (popFunction below).1)
        (popFunction below).2
  | bar {token : Token} {stack : List Token} (h : token.kind = .bar) :
      Moves table token stack [] stack

/-- **A step comes to a result just by a move.** -/
theorem step_eq_ok_iff :
    step table stack token = .ok (sent, stack') ↔ Moves table token stack sent stack' := by
  constructor
  · intro h
    cases hkind : token.kind with
    | number | constant =>
        simp only [step, hkind] at h
        cases h
        exact .operand (by simp [hkind])
    | function | leftParen =>
        simp only [step, hkind] at h
        cases h
        exact .wait (by simp [hkind])
    | bar =>
        simp only [step, hkind] at h
        cases h
        exact .bar hkind
    | rightParen =>
        simp only [step, hkind] at h
        obtain ⟨pending, partner, below, rfl, hpending, hpartner, rfl, rfl⟩ := closeGroup_cut h
        exact .close hkind hpending hpartner
    | operator =>
        cases hcoming : table token.text with
        | none =>
            simp only [step, hkind, hcoming] at h
            cases h
        | some coming =>
            simp only [step, hkind, hcoming] at h
            obtain ⟨⟨popped, below⟩, hpop, hok⟩ := bind_eq_ok_iff.1 h
            cases hok
            obtain ⟨rfl, hsent, hblocks⟩ := popOperators_cut hpop
            exact .operator hkind hcoming hsent hblocks
  · intro h
    cases h with
    | operand h => rcases h with hkind | hkind <;> simp only [step, hkind]
    | wait h => rcases h with hkind | hkind <;> simp only [step, hkind]
    | bar hkind => simp only [step, hkind]
    | close hkind hpending hpartner =>
        simp only [step, hkind]
        exact closeGroup_append hpending hpartner
    | operator hkind hcoming hsent hblocks =>
        simp only [step, hkind, hcoming, popOperators_append hsent hblocks]
        rfl

theorem run_nil_eq_ok_iff :
    run table stack [] = .ok (sent, stack') ↔ sent = [] ∧ stack' = stack := by
  constructor
  · intro h
    cases h
    exact ⟨rfl, rfl⟩
  · rintro ⟨rfl, rfl⟩
    rfl

/-- A run is a move and a run. -/
theorem run_cons_eq_ok_iff :
    run table stack (token :: tokens) = .ok (sent, stack') ↔
      ∃ first middle more, Moves table token stack first middle ∧
        run table middle tokens = .ok (more, stack') ∧ sent = first ++ more := by
  constructor
  · intro h
    obtain ⟨⟨first, middle⟩, hstep, hrest⟩ := bind_eq_ok_iff.1 h
    obtain ⟨⟨more, final⟩, hrun, hok⟩ := bind_eq_ok_iff.1 hrest
    cases hok
    exact ⟨first, middle, more, step_eq_ok_iff.1 hstep, hrun, rfl⟩
  · rintro ⟨first, middle, more, hmoves, hrun, rfl⟩
    exact run_cons_ok (step_eq_ok_iff.2 hmoves) hrun

theorem ofPrepared_eq_ok_iff :
    ofPrepared table tokens = .ok ordered ↔
      ∃ sent stack, run table [] tokens = .ok (sent, stack) ∧ ordered = sent ++ stack ∧
        ∀ waiting ∈ stack, waiting.kind ≠ .leftParen ∧ waiting.kind ≠ .rightParen := by
  constructor
  · intro h
    obtain ⟨⟨sent, stack⟩, hrun, hrest⟩ := bind_eq_ok_iff.1 h
    obtain ⟨rest, hdrain, hok⟩ := bind_eq_ok_iff.1 hrest
    cases hok
    obtain ⟨rfl, hstack⟩ := drain_eq_ok_iff.1 hdrain
    exact ⟨sent, rest, hrun, rfl, hstack⟩
  · rintro ⟨sent, stack, hrun, rfl, hstack⟩
    have hdrain : drain stack = .ok stack := drain_eq_ok_iff.2 ⟨rfl, hstack⟩
    refine bind_eq_ok_iff.2 ⟨(sent, stack), hrun, ?_⟩
    exact bind_eq_ok_iff.2 ⟨stack, hdrain, rfl⟩

theorem ofPrepared_of_run (h : run table [] tokens = .ok (sent, stack))
    (hstack : ∀ waiting ∈ stack, waiting.kind ≠ .leftParen ∧ waiting.kind ≠ .rightParen) :
    ofPrepared table tokens = .ok (sent ++ stack) :=
  ofPrepared_eq_ok_iff.2 ⟨sent, stack, h, rfl, hstack⟩

/-! ### No token is lost -/

/-- The tokens of a row that are no delimiters. -/
def kept (tokens : List Token) : List Token :=
  tokens.filter fun token => !token.isDelimiter

@[simp] theorem kept_append (left right : List Token) :
    kept (left ++ right) = kept left ++ kept right :=
  List.filter_append ..

theorem kept_cons (token : Token) (tokens : List Token) :
    kept (token :: tokens) = kept [token] ++ kept tokens :=
  kept_append [token] tokens

theorem kept_of_isDelimiter (h : token.isDelimiter = true) : kept [token] = [] := by
  simp [kept, h]

theorem perm_of_moves (h : Moves table token stack sent stack') :
    kept (sent ++ stack') ~ kept (token :: stack) := by
  cases h with
  | operand | wait => exact .refl _
  | operator => exact List.perm_middle.filter _
  | @close partner pending below hkind hpending hpartner =>
      obtain ⟨hcut, -⟩ := popFunction_cut below
      have hright : token.isDelimiter = true := by rw [Token.isDelimiter, hkind]
      have hleft : partner.isDelimiter = true := by rw [Token.isDelimiter, hpartner]
      -- the two parentheses are all that is dropped
      rw [kept_cons, kept_append pending, kept_cons partner, kept_of_isDelimiter hright,
        kept_of_isDelimiter hleft, List.nil_append, List.nil_append, List.append_assoc,
        kept_append, ← hcut]
  | bar hkind =>
      have hbar : token.isDelimiter = true := by rw [Token.isDelimiter, hkind]
      rw [kept_cons, kept_of_isDelimiter hbar]
      exact .refl _

/-- **No token is lost** in a run, and none is made up. -/
theorem run_perm (h : run table stack tokens = .ok (sent, stack')) :
    kept (sent ++ stack') ~ kept (stack ++ tokens) := by
  induction tokens generalizing stack sent with
  | nil =>
      obtain ⟨rfl, rfl⟩ := run_nil_eq_ok_iff.1 h
      simp
  | cons token rest ih =>
      obtain ⟨first, middle, more, hmoves, hrun, rfl⟩ := run_cons_eq_ok_iff.1 h
      calc kept (first ++ more ++ stack')
          = kept first ++ kept (more ++ stack') := by rw [List.append_assoc, kept_append]
        _ ~ kept first ++ kept (middle ++ rest) := (ih hrun).append_left _
        _ = kept (first ++ middle) ++ kept rest := by simp
        _ ~ kept (token :: stack) ++ kept rest := (perm_of_moves hmoves).append_right _
        _ = kept (token :: (stack ++ rest)) := by rw [← kept_append, List.cons_append]
        _ ~ kept (stack ++ token :: rest) := List.perm_middle.symm.filter _

theorem countP_kept {p : Token → Bool} (hp : ∀ token, token.isDelimiter = true → p token = false)
    (tokens : List Token) : (kept tokens).countP p = tokens.countP p := by
  rw [kept, List.countP_filter]
  refine List.countP_congr fun token _ => ?_
  cases hdelimiter : token.isDelimiter with
  | true => simp [hp token hdelimiter]
  | false => simp

/-- Tokens are as many in the order as they were before, if they are no
delimiters. -/
theorem countP_of_ofPrepared {p : Token → Bool}
    (hp : ∀ token, token.isDelimiter = true → p token = false)
    (h : ofPrepared table tokens = .ok ordered) : ordered.countP p = tokens.countP p := by
  obtain ⟨sent, stack, hrun, rfl, -⟩ := ofPrepared_eq_ok_iff.1 h
  have hperm := (run_perm hrun).countP_eq p
  rwa [countP_kept hp, countP_kept hp] at hperm

/-! ### As many parentheses wait as are open -/

/-- How many left parentheses wait. -/
def depth (stack : List Token) : Nat :=
  stack.countP fun token => token.kind = .leftParen

theorem depth_append (above below : List Token) :
    depth (above ++ below) = depth above + depth below :=
  List.countP_append ..

theorem depth_cons_of_kind (hkind : token.kind = .leftParen) (below : List Token) :
    depth (token :: below) = depth below + 1 :=
  List.countP_cons_of_pos (decide_eq_true hkind)

theorem depth_cons_of_ne (hkind : token.kind ≠ .leftParen) (below : List Token) :
    depth (token :: below) = depth below :=
  List.countP_cons_of_neg (by simpa using hkind)

theorem depth_eq_zero_iff : depth stack = 0 ↔ ∀ waiting ∈ stack, waiting.kind ≠ .leftParen := by
  simp [depth, List.countP_eq_zero]

/-- Functions and operators above others leave the depth as it is. -/
theorem depth_append_of_forall {above : List Token}
    (h : ∀ waiting ∈ above, waiting.kind ≠ .leftParen) (below : List Token) :
    depth (above ++ below) = depth below := by
  rw [depth_append, depth_eq_zero_iff.2 h, Nat.zero_add]

theorem depth_popFunction (stack : List Token) : depth (popFunction stack).2 = depth stack := by
  obtain ⟨hcut, -⟩ := popFunction_cut stack
  rw [← depth_append_of_forall (not_leftParen_of_popFunction stack), ← hcut]

/-- **The check of parentheses counts those that wait.** -/
theorem checkParentheses_of_moves (h : Moves table token stack sent stack') (rest : List Token) :
    checkParentheses (depth stack) (token :: rest) = checkParentheses (depth stack') rest := by
  cases h with
  | operand h =>
      rcases h with hkind | hkind <;>
        exact checkParentheses_of_plain (by simp [hkind]) (by simp [hkind]) _ rest
  | bar hkind => exact checkParentheses_of_plain (by simp [hkind]) (by simp [hkind]) _ rest
  | wait h =>
      rcases h with hkind | hkind
      · rw [checkParentheses_of_plain (by simp [hkind]) (by simp [hkind]),
          depth_cons_of_ne (by simp [hkind])]
      · rw [checkParentheses_of_left hkind, depth_cons_of_kind hkind]
  | @operator coming _ below hkind hcoming hsent hblocks =>
      have hpopped : ∀ waiting ∈ sent, waiting.kind ≠ .leftParen :=
        fun waiting hwaiting => (hsent waiting hwaiting).not_leftParen
      rw [checkParentheses_of_plain (by simp [hkind]) (by simp [hkind]),
        depth_append_of_forall hpopped, depth_cons_of_ne (by simp [hkind])]
  | close hkind hpending hpartner =>
      rw [depth_append_of_forall hpending, depth_cons_of_kind hpartner, depth_popFunction,
        checkParentheses_of_right hkind]

/-! ### A row that passes the check is ordered -/

/-- What can stand on the stack: neither operands nor what closes a group. -/
def CanWait (token : Token) : Prop :=
  token.kind = .function ∨ token.kind = .operator ∨ token.kind = .leftParen

theorem mem_of_moves {waiting : Token} (h : Moves table token stack sent stack')
    (hmem : waiting ∈ stack') : waiting ∈ stack ∨ waiting = token ∧ CanWait token := by
  cases h with
  | operand | bar => exact Or.inl hmem
  | wait h =>
      rcases List.mem_cons.1 hmem with rfl | hmem
      · exact Or.inr ⟨rfl, h.imp_right Or.inr⟩
      · exact Or.inl hmem
  | operator hkind =>
      rcases List.mem_cons.1 hmem with rfl | hmem
      · exact Or.inr ⟨rfl, Or.inr (Or.inl hkind)⟩
      · exact Or.inl (List.mem_append_right _ hmem)
  | @close partner pending below =>
      obtain ⟨hcut, -⟩ := popFunction_cut below
      have hbelow : waiting ∈ below := hcut ▸ List.mem_append_right _ hmem
      exact Or.inl (List.mem_append_right _ (List.mem_cons_of_mem _ hbelow))

theorem canWait_of_moves (h : Moves table token stack sent stack')
    (hstack : ∀ waiting ∈ stack, CanWait waiting) : ∀ waiting ∈ stack', CanWait waiting := by
  intro waiting hmem
  rcases mem_of_moves h hmem with hmem | ⟨rfl, hcan⟩
  · exact hstack waiting hmem
  · exact hcan

theorem exists_closeGroup (h : depth stack ≠ 0) : ∃ result, closeGroup stack = .ok result := by
  induction stack with
  | nil => exact absurd rfl h
  | cons top below ih =>
      rw [closeGroup]
      split
      · exact ⟨_, rfl⟩
      · next hkind =>
          rw [depth_cons_of_ne hkind] at h
          obtain ⟨result, hresult⟩ := ih h
          rw [hresult]
          exact ⟨_, rfl⟩

/-- A token has a move, unless it is an operator that the table does not have or
closes nothing. -/
theorem exists_moves (htoken : Listed table token)
    (hstack : ∀ waiting ∈ stack, Listed table waiting)
    (hopen : token.kind = .rightParen → depth stack ≠ 0) :
    ∃ sent stack', Moves table token stack sent stack' := by
  have hstep : ∃ result, step table stack token = .ok result := by
    cases hkind : token.kind with
    | number | constant | function | leftParen | bar =>
        simp only [step, hkind]
        exact ⟨_, rfl⟩
    | rightParen =>
        simp only [step, hkind]
        exact exists_closeGroup (hopen hkind)
    | operator =>
        obtain ⟨coming, hcoming⟩ := htoken hkind
        obtain ⟨result, hresult⟩ := exists_popOperators coming hstack
        simp only [step, hkind, hcoming, hresult]
        exact ⟨_, rfl⟩
  obtain ⟨⟨sent, stack'⟩, hok⟩ := hstep
  exact ⟨sent, stack', step_eq_ok_iff.1 hok⟩

/-- A token that may come next has a move, and what follows may come after it. -/
theorem exists_moves_of_check (htoken : Listed table token)
    (hstack : ∀ waiting ∈ stack, Listed table waiting)
    (hcheck : checkParentheses (depth stack) (token :: tokens) = .ok ()) :
    ∃ sent stack', Moves table token stack sent stack' ∧
      (∀ waiting ∈ stack', Listed table waiting) ∧
        checkParentheses (depth stack') tokens = .ok () := by
  have hopen : token.kind = .rightParen → depth stack ≠ 0 := by
    intro hkind
    obtain ⟨outer, houter, -⟩ := exists_succ_of_checkParentheses hkind hcheck
    rw [houter]
    exact Nat.succ_ne_zero outer
  obtain ⟨sent, stack', hmoves⟩ := exists_moves htoken hstack hopen
  refine ⟨sent, stack', hmoves, fun waiting hmem => ?_, ?_⟩
  · rcases mem_of_moves hmoves hmem with hmem | ⟨rfl, -⟩
    · exact hstack waiting hmem
    · exact htoken
  · rwa [checkParentheses_of_moves hmoves] at hcheck

/-- **A run comes to its end,** and no parenthesis waits there, if the parentheses
that wait before are those that the rest closes. -/
theorem exists_run (htokens : ∀ token ∈ tokens, Listed table token)
    (hstack : ∀ waiting ∈ stack, Listed table waiting)
    (hcheck : checkParentheses (depth stack) tokens = .ok ()) :
    ∃ sent stack', run table stack tokens = .ok (sent, stack') ∧ depth stack' = 0 := by
  induction tokens generalizing stack with
  | nil =>
      rw [checkParentheses] at hcheck
      split at hcheck
      · next hdepth => exact ⟨[], stack, rfl, hdepth⟩
      · cases hcheck
  | cons token rest ih =>
      obtain ⟨htoken, hrest⟩ := List.forall_mem_cons.1 htokens
      obtain ⟨first, middle, hmoves, hmiddle, hnext⟩ := exists_moves_of_check htoken hstack hcheck
      obtain ⟨more, final, hrun, hdepth⟩ := ih hrest hmiddle hnext
      exact ⟨first ++ more, final, run_cons_eq_ok_iff.2 ⟨first, middle, more, hmoves, hrun, rfl⟩,
        hdepth⟩

theorem canWait_of_run (h : run table stack tokens = .ok (sent, stack'))
    (hstack : ∀ waiting ∈ stack, CanWait waiting) : ∀ waiting ∈ stack', CanWait waiting := by
  induction tokens generalizing stack sent with
  | nil =>
      obtain ⟨-, rfl⟩ := run_nil_eq_ok_iff.1 h
      exact hstack
  | cons token rest ih =>
      obtain ⟨first, middle, more, hmoves, hrun, -⟩ := run_cons_eq_ok_iff.1 h
      exact ih hrun (canWait_of_moves hmoves hstack)

/-- **A row that passes the check of parentheses is ordered,** if the table has its
operators. -/
theorem exists_ofPrepared (htokens : ∀ token ∈ tokens, Listed table token)
    (hcheck : checkParentheses 0 tokens = .ok ()) :
    ∃ ordered, ofPrepared table tokens = .ok ordered := by
  obtain ⟨sent, stack, hrun, hdepth⟩ := exists_run htokens (List.forall_mem_nil _) hcheck
  refine ⟨sent ++ stack, ofPrepared_eq_ok_iff.2 ⟨sent, stack, hrun, rfl, fun waiting hmem => ?_⟩⟩
  refine ⟨depth_eq_zero_iff.1 hdepth waiting hmem, ?_⟩
  rcases canWait_of_run hrun (List.forall_mem_nil _) waiting hmem with hkind | hkind | hkind <;>
    simp [hkind]

end Calculator.Postfix
