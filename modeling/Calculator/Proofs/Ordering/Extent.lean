import Calculator.Proofs.Ordering.Groups
import Calculator.Proofs.Ordering.Sequence

/-!
# How far a function reaches

A function without parentheses takes all that is left of its group for its operand,
whatever the ranks of the operators in it: `sin 30 + 1` is ordered as `sin (30 + 1)`
(`ofInfix_function`).

The operators are not what could end the operand sooner.  Each of them stops at the
function, since it sends operators only.  But a right parenthesis sends the function
that it uncovers, also one that stands further in front: in `sin 2 (3) + 1` the function
is sent after the `3`.  So two things are needed.

* The partner of a right parenthesis never stands directly above the function.  It
  would have to be at the bottom of what waits there, and that is kept free of left
  parentheses (`Grounded`).
* In a sequence a left parenthesis takes the place of an operand.  Behind the first
  token such a place is opened by a token that still waits on top (`head_of_moves`), so
  only a left parenthesis that comes first would get to the bottom.
-/

namespace Calculator

namespace Infix

variable {token : Token} {tokens : List Token}

theorem settled_cons_of_function (hkind : token.kind = .function)
    (hminus : ∀ first ∈ tokens.head?, first ≠ ⟨.operator, "-"⟩) :
    settled (token :: tokens) = token :: settled tokens := by
  have hplain : markNegations none (token :: tokens) =
      token :: markNegations (some token) tokens := by
    simp [markNegations, hkind]
  rw [settled, hplain, markNegations_of_head hminus (some token) none, replaceBars,
    if_neg (by simp [hkind])]
  rfl

/-- No left parenthesis is put in front of a row. -/
theorem head_settled (hleft : ∀ first ∈ tokens.head?, first.kind ≠ .leftParen) :
    ∀ first ∈ (settled tokens).head?, first.kind ≠ .leftParen := by
  intro first hfirst
  cases tokens with
  | nil => cases hfirst
  | cons token rest =>
      rw [settled, markNegations] at hfirst
      generalize hmarked : (if token.kind = .operator && token.text = "-" && opensOperand none
        then Token.negation else token) = marked at hfirst
      have hkind : marked.kind ≠ .leftParen := by
        rw [← hmarked]
        split
        · decide
        · exact hleft token rfl
      rw [replaceBars] at hfirst
      split at hfirst
      · obtain rfl : Token.magnitude = first := Option.some.inj hfirst
        decide
      · obtain rfl : marked = first := Option.some.inj hfirst
        exact hkind

end Infix

namespace Postfix

open Infix

variable {table : OperatorTable} {token function : Token} {place : Place}
  {tokens prepared stack stack' sent ordered : List Token}

/-! ### What waits above the function -/

/-- **One token** puts no left parenthesis at the bottom, unless it is one and nothing
waits. -/
theorem Grounded.moves (h : Moves table token stack sent stack') (hgrounded : Grounded stack)
    (hopen : stack = [] → token.kind ≠ .leftParen) : Grounded stack' := by
  cases h with
  | operand | bar => exact hgrounded
  | wait => exact hgrounded.cons hopen
  | operator hkind => exact hgrounded.of_append.cons fun _ => by simp [hkind]
  | @close partner pending below =>
      rw [← List.singleton_append, ← List.append_assoc] at hgrounded
      have hbelow : Grounded below := hgrounded.of_append
      obtain ⟨hcut, -⟩ := popFunction_cut below
      rw [hcut] at hbelow
      exact hbelow.of_append

/-- **A sequence** runs above a function as if it were not there. -/
theorem run_above_function (h : run table stack tokens = .ok (sent, stack'))
    (hsequence : isSequence place tokens = true) (hgrounded : Grounded stack)
    (hopen : place = .operand → stack = [] → ∀ first ∈ tokens.head?, first.kind ≠ .leftParen)
    (hfunction : function.kind = .function) (below : List Token) :
    run table (stack ++ function :: below) tokens = .ok (sent, stack' ++ function :: below) := by
  induction tokens generalizing place stack sent with
  | nil =>
      obtain ⟨rfl, rfl⟩ := run_nil_eq_ok_iff.1 h
      rfl
  | cons token rest ih =>
      obtain ⟨first, middle, more, hmoves, hrun, rfl⟩ := run_cons_eq_ok_iff.1 h
      simp only [isSequence, Bool.and_eq_true, decide_eq_true_eq] at hsequence
      obtain ⟨⟨-, rfl⟩, hrest⟩ := hsequence
      have hleft : stack = [] → token.kind ≠ .leftParen := fun hempty hkind =>
        hopen (by simp [Place.of, hkind]) hempty token rfl hkind
      -- where an operand is expected next, the token waits
      have hopen' : Place.after token = .operand → middle = [] →
          ∀ next ∈ rest.head?, next.kind ≠ .leftParen := by
        rintro hafter rfl
        cases head_of_moves hmoves hafter
      have hmoves' : Moves table token (stack ++ function :: below) first
          (middle ++ function :: below) :=
        hmoves.above (by simp [hfunction]) (fun _ => hgrounded) below
      exact run_cons_eq_ok_iff.2 ⟨first, _, more, hmoves',
        ih hrun hrest (hgrounded.moves hmoves hleft) hopen', rfl⟩

/-! ### The order -/

theorem ofPrepared_function (h : ofPrepared table tokens = .ok ordered)
    (hsequence : isSequence .operand tokens = true)
    (hfirst : ∀ first ∈ tokens.head?, first.kind ≠ .leftParen)
    (hfunction : function.kind = .function) :
    ofPrepared table (function :: tokens) = .ok (ordered ++ [function]) := by
  obtain ⟨sent, stack, hrun, rfl, hstack⟩ := ofPrepared_eq_ok_iff.1 h
  have hwait : step table [] function = .ok ([], [function]) :=
    step_eq_ok_iff.2 (.wait (Or.inl hfunction))
  have hrest : run table [function] tokens = .ok (sent, stack ++ [function]) :=
    run_above_function hrun hsequence grounded_nil (fun _ _ => hfirst) hfunction []
  have hfinal : ∀ waiting ∈ stack ++ [function],
      waiting.kind ≠ .leftParen ∧ waiting.kind ≠ .rightParen :=
    List.forall_mem_append.2 ⟨hstack, List.forall_mem_singleton.2 (by simp [hfunction])⟩
  have hordered := ofPrepared_of_run (run_cons_ok hwait hrest) hfinal
  rwa [List.nil_append, ← List.append_assoc] at hordered

/-- **A function without parentheses takes the whole sequence behind it**, up to its
end, under any table of operators: it is sent last, as if the sequence were its group.
The sequence must not start with a left parenthesis, which would end the operand, or
with a minus, which is no sign behind a function. -/
theorem ofInfix_function (hfunction : function.kind = .function)
    (h : ofInfix table tokens = .ok ordered) (hprepare : prepare tokens = .ok prepared)
    (hsequence : isSequence .operand prepared = true)
    (hfirst : ∀ first ∈ tokens.head?, first.kind ≠ .leftParen ∧ first ≠ ⟨.operator, "-"⟩) :
    ofInfix table (function :: tokens) = .ok (ordered ++ [function]) ∧
      ofInfix table (function :: .leftParen :: (tokens ++ [.rightParen])) =
        .ok (ordered ++ [function]) := by
  obtain ⟨-, -, rfl⟩ := prepare_eq_ok_iff.1 hprepare
  obtain ⟨hbalanced, hclosed, hordered⟩ := ofInfix_eq_ok_iff.1 h
  have hleft := head_settled fun first hmem => (hfirst first hmem).1
  have hminus : ∀ first ∈ tokens.head?, first ≠ ⟨.operator, "-"⟩ :=
    fun first hmem => (hfirst first hmem).2
  have hsingle : Balanced [function] :=
    balanced_singleton function (by simp [hfunction]) (by simp [hfunction])
  constructor
  · refine ofInfix_eq_ok_iff.2 ⟨hsingle.append hbalanced, ?_, ?_⟩
    · rwa [barOpen, if_neg (by simp [hfunction])]
    · rw [settled_cons_of_function hfunction hminus]
      exact ofPrepared_function hordered hsequence hleft hfunction
  · obtain ⟨kind, name⟩ := function
    obtain rfl : kind = .function := hfunction
    exact ofInfix_call_group name h

/-- A pair of bars and another function in the operand, and a sum after them. -/
theorem ofInfix_function_of_sum :
    ofInfix .standard [.bar, ⟨.function, "ln"⟩, ⟨.number, "30"⟩, .bar, ⟨.operator, "+"⟩,
        ⟨.number, "1"⟩] =
      .ok [⟨.number, "30"⟩, ⟨.function, "ln"⟩, .magnitude, ⟨.number, "1"⟩, ⟨.operator, "+"⟩] ∧
    ofInfix .standard [⟨.function, "sin"⟩, .bar, ⟨.function, "ln"⟩, ⟨.number, "30"⟩, .bar,
        ⟨.operator, "+"⟩, ⟨.number, "1"⟩] =
      .ok [⟨.number, "30"⟩, ⟨.function, "ln"⟩, .magnitude, ⟨.number, "1"⟩, ⟨.operator, "+"⟩,
        ⟨.function, "sin"⟩] := by
  have hordered : ofInfix .standard [.bar, ⟨.function, "ln"⟩, ⟨.number, "30"⟩, .bar,
      ⟨.operator, "+"⟩, ⟨.number, "1"⟩] =
      .ok [⟨.number, "30"⟩, ⟨.function, "ln"⟩, .magnitude, ⟨.number, "1"⟩, ⟨.operator, "+"⟩] := rfl
  have hprepare : prepare [.bar, ⟨.function, "ln"⟩, ⟨.number, "30"⟩, .bar, ⟨.operator, "+"⟩,
      ⟨.number, "1"⟩] =
      .ok [.magnitude, .leftParen, ⟨.function, "ln"⟩, ⟨.number, "30"⟩, .rightParen,
        ⟨.operator, "+"⟩, ⟨.number, "1"⟩] := rfl
  have hfirst : ∀ first ∈ [Token.bar, ⟨.function, "ln"⟩, ⟨.number, "30"⟩, .bar, ⟨.operator, "+"⟩,
      ⟨.number, "1"⟩].head?, first.kind ≠ .leftParen ∧ first ≠ ⟨.operator, "-"⟩ := by decide
  obtain ⟨hrow, -⟩ :=
    @ofInfix_function .standard ⟨.function, "sin"⟩ _ _ _ rfl hordered hprepare (by decide) hfirst
  exact ⟨hordered, hrow⟩

end Postfix

end Calculator
