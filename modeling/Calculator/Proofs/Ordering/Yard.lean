import Calculator.Postfix
import Calculator.Proofs.Outcome

/-!
# The moves of the operator stack

What each move sends to the output and what it leaves, said without following
the move itself.  A move cuts the stack in two: what it sends stands above the
cut, and the cut is where the move stops.

* A coming operator sends the operators that it pops, and stops above a token
  that `Blocks` it.
* A right parenthesis sends all above the last left parenthesis, and then the
  function below it.
* The end sends everything, if there is no parenthesis.
-/

namespace Calculator

/-- Whether an operator that waits is sent to the output by one that comes. -/
def Operator.pops (waiting coming : Operator) : Bool :=
  waiting.precedence > coming.precedence ||
    (waiting.precedence = coming.precedence && coming.associativity = .left)

theorem Operator.pops_eq_true_iff {waiting coming : Operator} :
    waiting.pops coming = true ↔ waiting.precedence > coming.precedence ∨
      (waiting.precedence = coming.precedence ∧ coming.associativity = .left) := by
  simp [pops]

namespace Postfix

variable {table : OperatorTable} {coming : Operator} {token : Token}
  {stack stack' sent pending below tokens : List Token}

/-! ### An operator that comes -/

/-- A token is an operator that the coming one sends to the output. -/
def Pops (table : OperatorTable) (coming : Operator) (token : Token) : Prop :=
  token.kind = .operator ∧ ∃ waiting, table token.text = some waiting ∧ waiting.pops coming = true

theorem Pops.not_leftParen (h : Pops table coming token) : token.kind ≠ .leftParen := by
  rw [h.1]
  decide

/-- The coming operator sends nothing of the stack to the output. -/
def Blocks (table : OperatorTable) (coming : Operator) (stack : List Token) : Prop :=
  ∀ top ∈ stack.head?, top.kind = .operator →
    ∃ waiting, table top.text = some waiting ∧ waiting.pops coming = false

theorem blocks_nil : Blocks table coming [] := by
  intro top htop
  cases htop

theorem popOperators_of_pops (h : Pops table coming token) :
    popOperators table coming (token :: below) =
      (popOperators table coming below).map fun (sent, stack) => (token :: sent, stack) := by
  obtain ⟨hkind, waiting, hwaiting, hpops⟩ := h
  rw [Operator.pops] at hpops
  simp only [popOperators, hkind, hwaiting, if_true, hpops]
  cases popOperators table coming below <;> rfl

theorem popOperators_of_blocks (h : Blocks table coming stack) :
    popOperators table coming stack = .ok ([], stack) := by
  cases stack with
  | nil => rfl
  | cons top below =>
      by_cases hkind : top.kind = .operator
      · obtain ⟨waiting, hwaiting, hpops⟩ := h top rfl hkind
        rw [Operator.pops] at hpops
        simp only [popOperators, hkind, hwaiting, if_true, hpops, Bool.false_eq_true, if_false]
      · simp only [popOperators, hkind, if_false]

/-- An operator sends what it pops and stops at what blocks it. -/
theorem popOperators_append (hpending : ∀ token ∈ pending, Pops table coming token)
    (hblocks : Blocks table coming below) :
    popOperators table coming (pending ++ below) = .ok (pending, below) := by
  induction pending with
  | nil => exact popOperators_of_blocks hblocks
  | cons token pending ih =>
      rw [List.cons_append, popOperators_of_pops (hpending token (List.mem_cons_self ..)),
        ih fun next hnext => hpending next (List.mem_cons_of_mem _ hnext)]
      rfl

/-- What an operator has sent is popped by it, and what it leaves blocks it. -/
theorem popOperators_cut (h : popOperators table coming stack = .ok (sent, stack')) :
    stack = sent ++ stack' ∧ (∀ token ∈ sent, Pops table coming token) ∧
      Blocks table coming stack' := by
  induction stack generalizing sent with
  | nil =>
      cases h
      exact ⟨rfl, by simp, blocks_nil⟩
  | cons top below ih =>
      by_cases hkind : top.kind = .operator
      · cases hwaiting : table top.text with
        | none => simp [popOperators, hkind, hwaiting] at h
        | some waiting =>
            cases hpops : waiting.pops coming with
            | true =>
                rw [popOperators_of_pops ⟨hkind, waiting, hwaiting, hpops⟩] at h
                cases hbelow : popOperators table coming below with
                | error failure => rw [hbelow] at h; cases h
                | ok result =>
                    rw [hbelow] at h
                    cases h
                    obtain ⟨hcut, hsent, hblocks⟩ := ih hbelow
                    refine ⟨congrArg _ hcut, fun token htoken => ?_, hblocks⟩
                    rcases List.mem_cons.1 htoken with rfl | htoken
                    · exact ⟨hkind, waiting, hwaiting, hpops⟩
                    · exact hsent token htoken
            | false =>
                have hblocks : Blocks table coming (top :: below) := fun _ htop _ => by
                  cases htop
                  exact ⟨waiting, hwaiting, hpops⟩
                rw [popOperators_of_blocks hblocks] at h
                cases h
                exact ⟨rfl, by simp, hblocks⟩
      · have hblocks : Blocks table coming (top :: below) := fun _ htop hoperator => by
          cases htop
          exact absurd hoperator hkind
        rw [popOperators_of_blocks hblocks] at h
        cases h
        exact ⟨rfl, by simp, hblocks⟩

/-- The table has the token, if it is an operator. -/
def Listed (table : OperatorTable) (token : Token) : Prop :=
  token.kind = .operator → ∃ found, table token.text = some found

/-- Operators that wait are in the table, so one that comes can be compared with
them. -/
theorem exists_popOperators (coming : Operator) (h : ∀ waiting ∈ stack, Listed table waiting) :
    ∃ result, popOperators table coming stack = .ok result := by
  induction stack with
  | nil => exact ⟨_, rfl⟩
  | cons top below ih =>
      obtain ⟨htop, hbelow⟩ := List.forall_mem_cons.1 h
      by_cases hkind : top.kind = .operator
      · obtain ⟨waiting, hwaiting⟩ := htop hkind
        cases hpops : waiting.pops coming with
        | true =>
            obtain ⟨result, hresult⟩ := ih hbelow
            rw [popOperators_of_pops ⟨hkind, waiting, hwaiting, hpops⟩, hresult]
            exact ⟨_, rfl⟩
        | false =>
            refine ⟨_, popOperators_of_blocks fun _ hhead _ => ?_⟩
            cases hhead
            exact ⟨waiting, hwaiting, hpops⟩
      · refine ⟨_, popOperators_of_blocks fun _ hhead hoperator => ?_⟩
        cases hhead
        exact absurd hoperator hkind

/-! ### A right parenthesis -/

theorem closeGroup_append (hpending : ∀ token ∈ pending, token.kind ≠ .leftParen)
    (htoken : token.kind = .leftParen) :
    closeGroup (pending ++ token :: below) =
      .ok (pending ++ (popFunction below).1, (popFunction below).2) := by
  induction pending with
  | nil => simp [closeGroup, htoken]
  | cons top pending ih =>
      simp only [List.cons_append, closeGroup]
      rw [if_neg (hpending top (List.mem_cons_self ..)),
        ih fun next hnext => hpending next (List.mem_cons_of_mem _ hnext)]
      rfl

/-- What a right parenthesis has sent stood above the last left one, but for the
function below that. -/
theorem closeGroup_cut (h : closeGroup stack = .ok (sent, stack')) :
    ∃ pending token below, stack = pending ++ token :: below ∧
      (∀ token ∈ pending, token.kind ≠ .leftParen) ∧ token.kind = .leftParen ∧
      sent = pending ++ (popFunction below).1 ∧ stack' = (popFunction below).2 := by
  induction stack generalizing sent with
  | nil => cases h
  | cons top rest ih =>
      rw [closeGroup] at h
      split at h
      · next hkind =>
          have hpair := Except.ok.inj h
          exact ⟨[], top, rest, rfl, by simp, hkind, (congrArg Prod.fst hpair).symm,
            (congrArg Prod.snd hpair).symm⟩
      · next hkind =>
          obtain ⟨⟨more, stack''⟩, hmore, hok⟩ := bind_eq_ok_iff.1 h
          cases hok
          obtain ⟨pending, token, below, hcut, hpending, htoken, hsent, hstack⟩ := ih hmore
          refine ⟨top :: pending, token, below, congrArg _ hcut, fun next hnext => ?_, htoken,
            congrArg _ hsent, hstack⟩
          rcases List.mem_cons.1 hnext with rfl | hnext
          · exact hkind
          · exact hpending next hnext

theorem popFunction_of_not_function (h : ∀ top ∈ stack.head?, top.kind ≠ .function) :
    popFunction stack = ([], stack) := by
  cases stack with
  | nil => rfl
  | cons top below => exact if_neg (h top rfl)

theorem popFunction_cut (stack : List Token) :
    stack = (popFunction stack).1 ++ (popFunction stack).2 ∧
      ∀ token ∈ (popFunction stack).1, token.kind = .function := by
  cases stack with
  | nil => exact ⟨rfl, by simp [popFunction]⟩
  | cons top below =>
      rw [popFunction]
      split
      · next hkind => exact ⟨rfl, by simpa using hkind⟩
      · exact ⟨rfl, by simp⟩

theorem not_leftParen_of_popFunction (stack : List Token) :
    ∀ token ∈ (popFunction stack).1, token.kind ≠ .leftParen := by
  intro token hmem
  rw [(popFunction_cut stack).2 token hmem]
  decide

/-! ### The end -/

theorem drain_eq_ok_iff :
    drain stack = .ok sent ↔
      sent = stack ∧ ∀ token ∈ stack, token.kind ≠ .leftParen ∧ token.kind ≠ .rightParen := by
  induction stack generalizing sent with
  | nil => simp [drain, eq_comm]
  | cons top below ih =>
      rw [drain]
      split
      · next hkind =>
          rw [Bool.or_eq_true, decide_eq_true_eq, decide_eq_true_eq] at hkind
          refine iff_of_false (fun h => nomatch h) fun h => ?_
          have htop := h.2 top (List.mem_cons_self ..)
          exact hkind.elim htop.1 htop.2
      · next hkind =>
          rw [Bool.or_eq_true, decide_eq_true_eq, decide_eq_true_eq, not_or] at hkind
          rw [bind_eq_ok_iff]
          constructor
          · rintro ⟨more, hmore, hok⟩
            cases hok
            obtain ⟨rfl, hbelow⟩ := ih.1 hmore
            exact ⟨rfl, List.forall_mem_cons.2 ⟨hkind, hbelow⟩⟩
          · rintro ⟨rfl, hall⟩
            exact ⟨below, ih.2 ⟨rfl, (List.forall_mem_cons.1 hall).2⟩, rfl⟩

/-! ### Runs -/

theorem run_append_ok {middle final more : List Token} {left right : List Token}
    (hleft : run table stack left = .ok (sent, middle))
    (hright : run table middle right = .ok (more, final)) :
    run table stack (left ++ right) = .ok (sent ++ more, final) := by
  rw [run_append, hleft]
  simp only [Except.bind, hright]
  rfl

theorem run_cons_ok {middle final more : List Token}
    (hstep : step table stack token = .ok (sent, middle))
    (hrest : run table middle tokens = .ok (more, final)) :
    run table stack (token :: tokens) = .ok (sent ++ more, final) := by
  rw [run, hstep]
  simp only [bind, Except.bind, hrest]
  rfl

theorem run_cons_error {middle : List Token} {failure : Failure}
    (hstep : step table stack token = .ok (sent, middle))
    (hrest : run table middle tokens = .error failure) :
    run table stack (token :: tokens) = .error failure := by
  rw [run, hstep]
  simp only [bind, Except.bind, hrest]

end Postfix

end Calculator
