import Calculator.Proofs.Ordering.Moves

/-!
# Which rows are refused

A row of tokens is put in order or refused for one of three causes, and they are
looked at in turn: parentheses without a partner, a bar without a partner, and an
operator that the table does not have.

* Parentheses are refused by the numbers of them: a part at the front closes more
  of them than it opens, or the row does not close what it opens
  (`checkParentheses_cases`).
* What the preparation lets through has an open parenthesis for every one that
  closes, also where parentheses and bars cross.  So the only thing that can stop
  the ordering is an operator, and the first that the table does not have does
  (`run_of_firstUnlisted`).  A right parenthesis always finds its partner, and no
  left one is there at the end.
-/

namespace Calculator

/-- How many tokens of a kind a row has. -/
def Token.count (kind : Kind) (tokens : List Token) : Nat :=
  tokens.countP fun token => token.kind = kind

theorem Token.count_cons_of_kind {kind : Kind} {token : Token} (h : token.kind = kind)
    (tokens : List Token) : count kind (token :: tokens) = count kind tokens + 1 :=
  List.countP_cons_of_pos (decide_eq_true h)

theorem Token.count_cons_of_ne {kind : Kind} {token : Token} (h : token.kind ≠ kind)
    (tokens : List Token) : count kind (token :: tokens) = count kind tokens :=
  List.countP_cons_of_neg (by simpa using h)

/-- The outcome is a fault of an expression, and it has the given reason. -/
def Refused {α : Type} (reason : FaultReason) (x : Except Failure α) : Prop :=
  ∃ fault : Fault, x = .error (.fault fault) ∧ fault.reason = reason

theorem Refused.unique {α : Type} {reason reason' : FaultReason} {x : Except Failure α}
    (h : Refused reason x) (h' : Refused reason' x) : reason = reason' := by
  obtain ⟨fault, rfl, rfl⟩ := h
  obtain ⟨fault', hfault, rfl⟩ := h'
  cases hfault
  rfl

namespace Infix

variable {token : Token} {tokens : List Token} {depth : Nat}

/-! ### Parentheses by their numbers -/

/-- Some part at the front closes more parentheses than it opens, although some
are open before it. -/
def Overcloses (depth : Nat) (tokens : List Token) : Prop :=
  ∃ front, front <+: tokens ∧
    depth + Token.count .leftParen front < Token.count .rightParen front

theorem not_overcloses_nil (depth : Nat) : ¬ Overcloses depth [] := by
  rintro ⟨front, hfront, hcount⟩
  rw [List.prefix_nil.1 hfront] at hcount
  exact Nat.not_lt_zero _ hcount

/-- The part that closes too many is not empty. -/
theorem overcloses_cons_iff :
    Overcloses depth (token :: tokens) ↔ ∃ front, front <+: tokens ∧
      depth + Token.count .leftParen (token :: front) <
        Token.count .rightParen (token :: front) := by
  constructor
  · rintro ⟨front, hfront, hcount⟩
    rcases List.prefix_cons_iff.1 hfront with rfl | ⟨rest, rfl, hrest⟩
    · exact absurd hcount (Nat.not_lt_zero _)
    · exact ⟨rest, hrest, hcount⟩
  · rintro ⟨front, hfront, hcount⟩
    exact ⟨token :: front, List.cons_prefix_cons.2 ⟨rfl, hfront⟩, hcount⟩

theorem overcloses_cons_of_left (hkind : token.kind = .leftParen) :
    Overcloses depth (token :: tokens) ↔ Overcloses (depth + 1) tokens := by
  rw [overcloses_cons_iff]
  refine exists_congr fun front => and_congr_right fun _ => ?_
  rw [Token.count_cons_of_kind hkind, Token.count_cons_of_ne (by simp [hkind])]
  omega

theorem overcloses_cons_of_right (hkind : token.kind = .rightParen) :
    Overcloses (depth + 1) (token :: tokens) ↔ Overcloses depth tokens := by
  rw [overcloses_cons_iff]
  refine exists_congr fun front => and_congr_right fun _ => ?_
  rw [Token.count_cons_of_kind hkind, Token.count_cons_of_ne (by simp [hkind])]
  omega

theorem overcloses_zero_of_right (hkind : token.kind = .rightParen) (tokens : List Token) :
    Overcloses 0 (token :: tokens) := by
  refine overcloses_cons_iff.2 ⟨[], List.nil_prefix, ?_⟩
  rw [Token.count_cons_of_kind hkind, Token.count_cons_of_ne (by simp [hkind])]
  exact Nat.lt_succ_self _

theorem overcloses_cons_of_plain (hleft : token.kind ≠ .leftParen)
    (hright : token.kind ≠ .rightParen) :
    Overcloses depth (token :: tokens) ↔ Overcloses depth tokens := by
  rw [overcloses_cons_iff]
  refine exists_congr fun front => and_congr_right fun _ => ?_
  rw [Token.count_cons_of_ne hleft, Token.count_cons_of_ne hright]

/-- **What the check of parentheses comes to.**  A part at the front closes too
many, or what is left open at the end is counted. -/
theorem checkParentheses_cases (depth : Nat) (tokens : List Token) :
    (Overcloses depth tokens ∧ checkParentheses depth tokens = .error (.fault .unopened)) ∨
      (¬ Overcloses depth tokens ∧ ∃ remaining,
        remaining + Token.count .rightParen tokens = depth + Token.count .leftParen tokens ∧
          checkParentheses depth tokens =
            if remaining = 0 then .ok () else .error (.fault (.unclosed remaining))) := by
  induction tokens generalizing depth with
  | nil => exact Or.inr ⟨not_overcloses_nil depth, depth, rfl, rfl⟩
  | cons token rest ih =>
      by_cases hleft : token.kind = .leftParen
      · rw [overcloses_cons_of_left hleft, checkParentheses_of_left hleft,
          Token.count_cons_of_kind hleft, Token.count_cons_of_ne (by simp [hleft])]
        refine (ih (depth + 1)).imp_right fun h => ?_
        obtain ⟨hnot, remaining, hcount, hcheck⟩ := h
        exact ⟨hnot, remaining, by omega, hcheck⟩
      · by_cases hright : token.kind = .rightParen
        · cases depth with
          | zero =>
              refine Or.inl ⟨overcloses_zero_of_right hright rest, ?_⟩
              rw [checkParentheses, hright]
          | succ outer =>
              rw [overcloses_cons_of_right hright, checkParentheses_of_right hright,
                Token.count_cons_of_kind hright, Token.count_cons_of_ne hleft]
              refine (ih outer).imp_right fun h => ?_
              obtain ⟨hnot, remaining, hcount, hcheck⟩ := h
              exact ⟨hnot, remaining, by omega, hcheck⟩
        · rw [overcloses_cons_of_plain hleft hright, checkParentheses_of_plain hleft hright,
            Token.count_cons_of_ne hleft, Token.count_cons_of_ne hright]
          exact ih depth

/-- Some part at the front closes more parentheses than it opens, or the row does
not close what it opens. -/
def Mismatched (tokens : List Token) : Prop :=
  (∃ front, front <+: tokens ∧ Token.count .leftParen front < Token.count .rightParen front) ∨
    Token.count .leftParen tokens ≠ Token.count .rightParen tokens

theorem overcloses_zero_iff : Overcloses 0 tokens ↔ ∃ front, front <+: tokens ∧
    Token.count .leftParen front < Token.count .rightParen front := by
  simp only [Overcloses, Nat.zero_add]

theorem refused_of_mismatched (h : Mismatched tokens) :
    Refused .mismatchedParentheses (checkParentheses 0 tokens) := by
  rcases checkParentheses_cases 0 tokens with ⟨-, hcheck⟩ | ⟨hnot, remaining, hcount, hcheck⟩
  · exact ⟨.unopened, hcheck, rfl⟩
  · have hne := h.resolve_left fun hover => hnot (overcloses_zero_iff.2 hover)
    rw [if_neg (by omega)] at hcheck
    exact ⟨.unclosed remaining, hcheck, rfl⟩

theorem checkParentheses_of_not_mismatched (h : ¬ Mismatched tokens) :
    checkParentheses 0 tokens = .ok () := by
  obtain ⟨hover, hcount⟩ := not_or.1 h
  rcases checkParentheses_cases 0 tokens with ⟨hfront, -⟩ | ⟨-, remaining, hremaining, hcheck⟩
  · exact absurd (overcloses_zero_iff.1 hfront) hover
  · rwa [if_pos (by omega)] at hcheck

theorem barOpen_eq_decide (tokens : List Token) :
    barOpen false tokens = decide (Token.count .bar tokens % 2 = 1) := by
  rw [barOpen_eq_xor, Bool.false_xor]
  rfl

end Infix

namespace Postfix

open Infix

variable {table : OperatorTable} {token : Token} {tokens stack : List Token}

/-! ### The first operator that is not in the table -/

/-- The token is the first operator of a row that the table does not have. -/
def FirstUnlisted (table : OperatorTable) (token : Token) (tokens : List Token) : Prop :=
  ∃ front back, tokens = front ++ token :: back ∧ (∀ earlier ∈ front, Listed table earlier) ∧
    token.kind = .operator ∧ table token.text = none

theorem FirstUnlisted.cons {first : Token} (hfirst : Listed table first)
    (h : FirstUnlisted table token tokens) : FirstUnlisted table token (first :: tokens) := by
  obtain ⟨front, back, rfl, hfront, hunlisted⟩ := h
  exact ⟨first :: front, back, rfl, List.forall_mem_cons.2 ⟨hfirst, hfront⟩, hunlisted⟩

/-- The table has all operators of a row, or there is a first that it does not have. -/
theorem listed_or_firstUnlisted (table : OperatorTable) (tokens : List Token) :
    (∀ token ∈ tokens, Listed table token) ∨ ∃ token, FirstUnlisted table token tokens := by
  induction tokens with
  | nil => exact Or.inl (List.forall_mem_nil _)
  | cons first rest ih =>
      by_cases hfirst : Listed table first
      · exact ih.imp (fun hrest => List.forall_mem_cons.2 ⟨hfirst, hrest⟩)
          fun ⟨token, htoken⟩ => ⟨token, htoken.cons hfirst⟩
      · obtain ⟨hkind, hnone⟩ := Classical.not_imp.1 hfirst
        refine Or.inr ⟨first, [], rest, rfl, List.forall_mem_nil _, hkind, ?_⟩
        exact Option.eq_none_iff_forall_ne_some.2 fun found hfound => hnone ⟨found, hfound⟩

/-- **The first operator that the table does not have stops the run,** and nothing
stops it before. -/
theorem run_of_firstUnlisted (h : FirstUnlisted table token tokens)
    (hstack : ∀ waiting ∈ stack, Listed table waiting)
    (hcheck : checkParentheses (depth stack) tokens = .ok ()) :
    run table stack tokens = .error (.missingKey token.text) := by
  obtain ⟨front, back, rfl, hfront, hkind, hnone⟩ := h
  induction front generalizing stack with
  | nil =>
      have hstep : step table stack token = .error (.missingKey token.text) := by
        simp only [step, hkind, hnone]
      rw [List.nil_append, run, hstep]
      rfl
  | cons first front ih =>
      obtain ⟨hfirst, hrest⟩ := List.forall_mem_cons.1 hfront
      obtain ⟨sent, middle, hmoves, hmiddle, hnext⟩ := exists_moves_of_check hfirst hstack hcheck
      exact run_cons_error (step_eq_ok_iff.2 hmoves) (ih hmiddle hnext hrest)

theorem ofPrepared_of_firstUnlisted (h : FirstUnlisted table token tokens)
    (hcheck : checkParentheses 0 tokens = .ok ()) :
    ofPrepared table tokens = .error (.missingKey token.text) :=
  bind_eq_error_iff.2 (Or.inl (run_of_firstUnlisted h (List.forall_mem_nil _) hcheck))

/-- **What the ordering of a prepared row comes to.**  All operators are in the table,
and then nothing is left open at the end, or the first that is not there stops the
run. -/
theorem ofPrepared_cases (table : OperatorTable) (hcheck : checkParentheses 0 tokens = .ok ()) :
    ((∀ token ∈ tokens, Listed table token) ∧ ∃ sent stack,
        run table [] tokens = .ok (sent, stack) ∧ drain stack = .ok stack ∧
          ofPrepared table tokens = .ok (sent ++ stack)) ∨
      ∃ token, FirstUnlisted table token tokens ∧
        run table [] tokens = .error (.missingKey token.text) ∧
          ofPrepared table tokens = .error (.missingKey token.text) := by
  rcases listed_or_firstUnlisted table tokens with hlisted | ⟨token, htoken⟩
  · obtain ⟨ordered, hordered⟩ := exists_ofPrepared hlisted hcheck
    obtain ⟨sent, stack, hrun, rfl, hstack⟩ := ofPrepared_eq_ok_iff.1 hordered
    exact Or.inl ⟨hlisted, sent, stack, hrun, drain_eq_ok_iff.2 ⟨rfl, hstack⟩, hordered⟩
  · have hrun := run_of_firstUnlisted htoken (List.forall_mem_nil _) hcheck
    exact Or.inr ⟨token, htoken, hrun, ofPrepared_of_firstUnlisted htoken hcheck⟩

/-- No prepared row is refused. -/
theorem not_refused_ofPrepared (reason : FaultReason)
    (hcheck : checkParentheses 0 tokens = .ok ()) :
    ¬ Refused reason (ofPrepared table tokens) := by
  rintro ⟨fault, hfault, -⟩
  rcases ofPrepared_cases table hcheck with ⟨-, sent, stack, -, -, hordered⟩ | ⟨token, -, -, hkey⟩
  · rw [hordered] at hfault
    cases hfault
  · rw [hkey] at hfault
    cases hfault

theorem ofPrepared_eq_missingKey_iff {key : String} (hcheck : checkParentheses 0 tokens = .ok ()) :
    ofPrepared table tokens = .error (.missingKey key) ↔
      ∃ token, FirstUnlisted table token tokens ∧ key = token.text := by
  constructor
  · intro hkey
    rcases ofPrepared_cases table hcheck with ⟨-, _, _, -, -, hordered⟩ |
      ⟨token, hfirst, -, hmissing⟩
    · cases hordered.symm.trans hkey
    · cases hmissing.symm.trans hkey
      exact ⟨token, hfirst, rfl⟩
  · rintro ⟨token, hfirst, rfl⟩
    exact ofPrepared_of_firstUnlisted hfirst hcheck

theorem exists_ofPrepared_iff (hcheck : checkParentheses 0 tokens = .ok ()) :
    (∃ ordered, ofPrepared table tokens = .ok ordered) ↔
      ∀ token ∈ tokens, Listed table token := by
  constructor
  · rintro ⟨ordered, hordered⟩
    rcases ofPrepared_cases table hcheck with ⟨hlisted, -⟩ | ⟨token, -, -, hmissing⟩
    · exact hlisted
    · cases hmissing.symm.trans hordered
  · intro hlisted
    exact exists_ofPrepared hlisted hcheck

/-- A right parenthesis finds its partner. -/
theorem run_ne_fault (hcheck : checkParentheses 0 tokens = .ok ()) (fault : Fault) :
    run table [] tokens ≠ .error (.fault fault) := by
  intro hfault
  rcases ofPrepared_cases table hcheck with ⟨-, sent, stack, hrun, -⟩ | ⟨token, -, hrun, -⟩
  · cases hrun.symm.trans hfault
  · cases hrun.symm.trans hfault

/-- No parenthesis is left at the end. -/
theorem drain_of_run {sent : List Token} (hcheck : checkParentheses 0 tokens = .ok ())
    (h : run table [] tokens = .ok (sent, stack)) : drain stack = .ok stack := by
  rcases ofPrepared_cases table hcheck with ⟨-, _, _, hrun, hdrain, -⟩ | ⟨token, -, hrun, -⟩
  · cases hrun.symm.trans h
    exact hdrain
  · cases hrun.symm.trans h

/-! ### Which rows are refused -/

/-- The three causes in turn, the last two of them on the row that the ones before
let through. -/
theorem ofInfix_cases (table : OperatorTable) (tokens : List Token) :
    (Mismatched tokens ∧ Refused .mismatchedParentheses (ofInfix table tokens)) ∨
      (¬ Mismatched tokens ∧ Token.count .bar tokens % 2 = 1 ∧
        Refused .unbalancedBars (ofInfix table tokens)) ∨
      (¬ Mismatched tokens ∧ Token.count .bar tokens % 2 ≠ 1 ∧
        expandBars false (markNegations none tokens) = .ok (settled tokens) ∧
          checkParentheses 0 (settled tokens) = .ok () ∧
            ofInfix table tokens = ofPrepared table (settled tokens)) := by
  by_cases hmismatched : Mismatched tokens
  · obtain ⟨fault, hfault, hreason⟩ := refused_of_mismatched hmismatched
    have hprepare : prepare tokens = .error (.fault fault) :=
      bind_eq_error_iff.2 (Or.inl hfault)
    exact Or.inl ⟨hmismatched, fault, bind_eq_error_iff.2 (Or.inl hprepare), hreason⟩
  · have hcheck := checkParentheses_of_not_mismatched hmismatched
    have hexpand := expandBars_markNegations tokens
    rw [barOpen_eq_decide] at hexpand
    by_cases hodd : Token.count .bar tokens % 2 = 1
    · rw [if_pos (decide_eq_true hodd)] at hexpand
      have hprepare : prepare tokens = .error (.fault .unbalancedBars) :=
        bind_eq_error_iff.2 (Or.inr ⟨(), hcheck, hexpand⟩)
      exact Or.inr (Or.inl ⟨hmismatched, hodd, .unbalancedBars,
        bind_eq_error_iff.2 (Or.inl hprepare), rfl⟩)
    · have hclosed : barOpen false tokens = false := by
        rw [barOpen_eq_decide, decide_eq_false hodd]
      rw [decide_eq_false hodd] at hexpand
      have hrow : ofInfix table tokens = ofPrepared table (settled tokens) := by
        rw [ofInfix, prepare_eq_settled (balanced_of_checkParentheses hcheck) hclosed]
        rfl
      exact Or.inr (Or.inr ⟨hmismatched, hodd, hexpand, checkParentheses_settled hcheck hclosed,
        hrow⟩)

/-- **Which rows are refused, and why.**  Parentheses are looked at first, then bars,
then operators, and a row that passes is put in order.  Once a row is prepared, no
parenthesis is found without its partner, neither by the run nor at the end. -/
theorem ofInfix_outcomes (table : OperatorTable) (tokens : List Token) :
    (Refused .mismatchedParentheses (ofInfix table tokens) ↔ Mismatched tokens) ∧
    (¬ Mismatched tokens →
      (Refused .unbalancedBars (ofInfix table tokens) ↔ Token.count .bar tokens % 2 = 1)) ∧
    (¬ Mismatched tokens → Token.count .bar tokens % 2 ≠ 1 →
      ∃ rewritten, expandBars false (markNegations none tokens) = .ok rewritten ∧
        (∀ key, ofInfix table tokens = .error (.missingKey key) ↔
          ∃ token, FirstUnlisted table token rewritten ∧ key = token.text) ∧
        ((∃ ordered, ofInfix table tokens = .ok ordered) ↔
          ∀ token ∈ rewritten, token.kind = .operator → ∃ op, table token.text = some op) ∧
        (∀ fault, run table [] rewritten ≠ .error (.fault fault)) ∧
        ∀ sent stack, run table [] rewritten = .ok (sent, stack) → drain stack = .ok stack) := by
  rcases ofInfix_cases table tokens with ⟨hmismatched, hrefused⟩ |
    ⟨hmatched, hodd, hrefused⟩ | ⟨hmatched, heven, hexpand, hcheck, hrow⟩
  · exact ⟨iff_of_true hrefused hmismatched, fun hmatched => absurd hmismatched hmatched,
      fun hmatched => absurd hmismatched hmatched⟩
  · refine ⟨iff_of_false (fun h => ?_) hmatched, fun _ => iff_of_true hrefused hodd,
      fun _ heven => absurd hodd heven⟩
    exact absurd (h.unique hrefused) (by decide)
  · rw [hrow]
    refine ⟨iff_of_false (not_refused_ofPrepared _ hcheck) hmatched,
      fun _ => iff_of_false (not_refused_ofPrepared _ hcheck) heven, fun _ _ => ?_⟩
    exact ⟨settled tokens, hexpand, fun key => ofPrepared_eq_missingKey_iff hcheck,
      exists_ofPrepared_iff hcheck, run_ne_fault hcheck, fun _ _ => drain_of_run hcheck⟩

example : ofInfix .standard [.leftParen, .bar, .rightParen, .bar] = .ok [.magnitude] := rfl

end Postfix

end Calculator
