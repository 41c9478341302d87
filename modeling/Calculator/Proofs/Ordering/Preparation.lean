import Calculator.Infix
import Calculator.Proofs.Outcome

/-!
# Preparing a row of tokens

The three passes before the ordering, each said so that it can be followed
through a row that is put together from parts.

* The check of parentheses passes over a `Balanced` part as if it were not
  there.
* A part is marked with signs on its own, given the kind of token in front of
  it; only whether that token opens an operand matters.
* Bars are replaced part by part, given whether one is open; `barOpen` says
  whether one is open afterwards, and a row is refused if one is at the end.

So a row is settled if its parentheses are matched and its bars are even, and no
other is (`prepare_eq_ok_iff`).  Bars become parentheses only after parentheses
have been matched, but a row that was matched before is so afterwards, even where
its parentheses and bars cross (`checkParentheses_settled`).
-/

namespace Calculator.Infix

/-! ### Parentheses -/

/-- A row whose parentheses are matched inside it. -/
def Balanced (tokens : List Token) : Prop :=
  ∀ depth rest, checkParentheses depth (tokens ++ rest) = checkParentheses depth rest

theorem Balanced.append {left right : List Token} (hleft : Balanced left)
    (hright : Balanced right) : Balanced (left ++ right) := by
  intro depth rest
  rw [List.append_assoc, hleft, hright]

theorem balanced_singleton (token : Token) (hleft : token.kind ≠ .leftParen)
    (hright : token.kind ≠ .rightParen) : Balanced [token] := by
  intro depth rest
  obtain ⟨kind, text⟩ := token
  cases kind with
  | leftParen => exact absurd rfl hleft
  | rightParen => exact absurd rfl hright
  | number | constant | operator | function | bar => cases depth <;> rfl

theorem Balanced.group {inner : List Token} (h : Balanced inner) :
    Balanced (.leftParen :: (inner ++ [.rightParen])) := by
  intro depth rest
  calc checkParentheses depth (.leftParen :: (inner ++ [.rightParen]) ++ rest)
      = checkParentheses (depth + 1) (inner ++ .rightParen :: rest) := by
        rw [List.cons_append, List.append_assoc]
        rfl
    _ = checkParentheses (depth + 1) (.rightParen :: rest) := h _ _
    _ = checkParentheses depth rest := rfl

theorem checkParentheses_of_left {token : Token} (hkind : token.kind = .leftParen) (depth : Nat)
    (rest : List Token) :
    checkParentheses depth (token :: rest) = checkParentheses (depth + 1) rest := by
  cases depth <;> simp only [checkParentheses, hkind]

theorem checkParentheses_of_right {token : Token} (hkind : token.kind = .rightParen) (depth : Nat)
    (rest : List Token) :
    checkParentheses (depth + 1) (token :: rest) = checkParentheses depth rest := by
  simp only [checkParentheses, hkind]

theorem checkParentheses_of_plain {token : Token} (hleft : token.kind ≠ .leftParen)
    (hright : token.kind ≠ .rightParen) (depth : Nat) (rest : List Token) :
    checkParentheses depth (token :: rest) = checkParentheses depth rest :=
  balanced_singleton token hleft hright depth rest

/-- A row that starts with a right parenthesis passes the check only inside
another one. -/
theorem exists_succ_of_checkParentheses {token : Token} (hkind : token.kind = .rightParen)
    {depth : Nat} {rest : List Token} (h : checkParentheses depth (token :: rest) = .ok ()) :
    ∃ outer, depth = outer + 1 ∧ checkParentheses outer rest = .ok () := by
  cases depth with
  | zero =>
      rw [checkParentheses, hkind] at h
      cases h
  | succ outer => exact ⟨outer, rfl, by rwa [checkParentheses_of_right hkind] at h⟩

/-- A row that closes what is open in it is passed over by the check, and so is
what it closes. -/
theorem checkParentheses_append {tokens : List Token} {inner : Nat}
    (h : checkParentheses inner tokens = .ok ()) (depth : Nat) (rest : List Token) :
    checkParentheses (depth + inner) (tokens ++ rest) = checkParentheses depth rest := by
  induction tokens generalizing inner with
  | nil =>
      rw [checkParentheses] at h
      split at h
      · next hzero => rw [hzero, Nat.add_zero, List.nil_append]
      · cases h
  | cons token tokens ih =>
      rw [List.cons_append]
      by_cases hleft : token.kind = .leftParen
      · rw [checkParentheses_of_left hleft] at h ⊢
        exact ih h
      · by_cases hright : token.kind = .rightParen
        · obtain ⟨outer, rfl, houter⟩ := exists_succ_of_checkParentheses hright h
          rw [← Nat.add_assoc, checkParentheses_of_right hright]
          exact ih houter
        · rw [checkParentheses_of_plain hleft hright] at h ⊢
          exact ih h

/-- A row that passes the check on its own is passed over anywhere. -/
theorem balanced_of_checkParentheses {tokens : List Token}
    (h : checkParentheses 0 tokens = .ok ()) : Balanced tokens :=
  fun depth rest => checkParentheses_append h depth rest

theorem checkParentheses_of_balanced {tokens : List Token} (h : Balanced tokens) :
    checkParentheses 0 tokens = .ok () := by
  have hcheck := h 0 []
  rwa [List.append_nil] at hcheck

/-! ### Signs -/

/-- Only whether the token in front opens an operand matters. -/
theorem markNegations_congr {previous previous' : Option Token}
    (h : opensOperand previous = opensOperand previous') (tokens : List Token) :
    markNegations previous tokens = markNegations previous' tokens := by
  cases tokens with
  | nil => rfl
  | cons token rest => simp only [markNegations, h]

/-- After a token that opens an operand a row is marked as at the start. -/
theorem markNegations_of_opens {previous : Option Token} (h : opensOperand previous = true)
    (tokens : List Token) : markNegations previous tokens = markNegations none tokens :=
  markNegations_congr (h.trans rfl) tokens

/-- A row that does not start with a minus is marked in the same way after any
token. -/
theorem markNegations_of_head {tokens : List Token}
    (h : ∀ first ∈ tokens.head?, first ≠ ⟨.operator, "-"⟩) (previous previous' : Option Token) :
    markNegations previous tokens = markNegations previous' tokens := by
  cases tokens with
  | nil => rfl
  | cons token rest =>
      have hminus : (decide (token.kind = .operator) && decide (token.text = "-")) = false := by
        refine Bool.eq_false_iff.2 fun hboth => h token rfl ?_
        rw [Bool.and_eq_true, decide_eq_true_eq, decide_eq_true_eq] at hboth
        rw [← hboth.1, ← hboth.2]
      simp only [markNegations, hminus, Bool.false_and]

theorem opensOperand_mark (token : Token) (p : Bool) :
    opensOperand (some (if token.kind = .operator && token.text = "-" && p then Token.negation
      else token)) = opensOperand (some token) := by
  split
  · next h =>
      rw [Bool.and_eq_true, Bool.and_eq_true] at h
      simp [opensOperand, of_decide_eq_true h.1.1, Token.negation]
  · rfl

/-- A row is marked part by part. -/
theorem markNegations_append (previous : Option Token) (left right : List Token) :
    markNegations previous (left ++ right) =
      markNegations previous left ++ markNegations (left.getLast?.or previous) right := by
  induction left generalizing previous with
  | nil => rfl
  | cons token left ih =>
      simp only [List.cons_append, markNegations]
      rw [ih, List.getLast?_cons]
      cases left.getLast? with
      | none => simp only [Option.none_or, Option.getD_none, Option.some_or,
          markNegations_congr (opensOperand_mark token _) right]
      | some last => rfl

/-- A row that ends in a token with a left operand for a minus after it. -/
def EndsOperand (tokens : List Token) : Prop :=
  opensOperand tokens.getLast? = false

theorem EndsOperand.or {tokens : List Token} (h : EndsOperand tokens) (previous : Option Token) :
    opensOperand (tokens.getLast?.or previous) = false := by
  unfold EndsOperand at h
  cases hlast : tokens.getLast? with
  | none => rw [hlast] at h; exact absurd h (by decide)
  | some last => rw [hlast] at h; exact h

theorem EndsOperand.append (left : List Token) {right : List Token} (h : EndsOperand right) :
    EndsOperand (left ++ right) := by
  rw [EndsOperand, List.getLast?_append]
  exact h.or _

theorem EndsOperand.cons (token : Token) {tokens : List Token} (h : EndsOperand tokens) :
    EndsOperand (token :: tokens) :=
  h.append [token]

/-! ### Bars -/

/-- Whether a bar is open after a row of tokens, given whether one is before. -/
def barOpen (inside : Bool) : List Token → Bool
  | [] => inside
  | token :: rest => barOpen (if token.kind = .bar then !inside else inside) rest

/-- Replaces bars, which open and close in turn, by calls. -/
def replaceBars (inside : Bool) : List Token → List Token
  | [] => []
  | token :: rest =>
    if token.kind = .bar then
      if inside then .rightParen :: replaceBars (!inside) rest
      else .magnitude :: .leftParen :: replaceBars (!inside) rest
    else token :: replaceBars inside rest

/-- Bars are replaced unless one is left open. -/
theorem expandBars_eq (inside : Bool) (tokens : List Token) :
    expandBars inside tokens =
      if barOpen inside tokens then .error (.fault .unbalancedBars)
      else .ok (replaceBars inside tokens) := by
  induction tokens generalizing inside with
  | nil => rfl
  | cons token rest ih =>
      by_cases hbar : token.kind = .bar
      · simp only [expandBars, barOpen, replaceBars, hbar, if_true, ih]
        cases barOpen (!inside) rest <;> cases inside <;> rfl
      · simp only [expandBars, barOpen, replaceBars, hbar, if_false, ih]
        cases barOpen inside rest <;> rfl

@[simp] theorem barOpen_append (inside : Bool) (left right : List Token) :
    barOpen inside (left ++ right) = barOpen (barOpen inside left) right := by
  induction left generalizing inside with
  | nil => rfl
  | cons token left ih => simp only [List.cons_append, barOpen, ih]

@[simp] theorem replaceBars_append (inside : Bool) (left right : List Token) :
    replaceBars inside (left ++ right) =
      replaceBars inside left ++ replaceBars (barOpen inside left) right := by
  induction left generalizing inside with
  | nil => rfl
  | cons token left ih =>
      simp only [List.cons_append, replaceBars, barOpen]
      split <;> rename_i hbar
      · split <;> simp [ih]
      · simp [ih]

theorem barOpen_of_no_bar {tokens : List Token} (h : ∀ token ∈ tokens, token.kind ≠ .bar)
    (inside : Bool) : barOpen inside tokens = inside := by
  induction tokens with
  | nil => rfl
  | cons token rest ih =>
      rw [barOpen, if_neg (h token (List.mem_cons_self ..))]
      exact ih fun next hnext => h next (List.mem_cons_of_mem _ hnext)

theorem replaceBars_of_no_bar {tokens : List Token} (h : ∀ token ∈ tokens, token.kind ≠ .bar)
    (inside : Bool) : replaceBars inside tokens = tokens := by
  induction tokens with
  | nil => rfl
  | cons token rest ih =>
      rw [replaceBars, if_neg (h token (List.mem_cons_self ..)),
        ih fun next hnext => h next (List.mem_cons_of_mem _ hnext)]

theorem not_bar_of_replaceBars (inside : Bool) (tokens : List Token) :
    ∀ token ∈ replaceBars inside tokens, token.kind ≠ .bar := by
  induction tokens generalizing inside with
  | nil => exact List.forall_mem_nil _
  | cons token rest ih =>
      have hrest := ih inside
      have hturned := ih (!inside)
      rw [replaceBars]
      split
      · cases inside with
        | true => exact List.forall_mem_cons.2 ⟨by decide, hturned⟩
        | false =>
            exact List.forall_mem_cons.2 ⟨by decide, List.forall_mem_cons.2 ⟨by decide, hturned⟩⟩
      · next hkind => exact List.forall_mem_cons.2 ⟨hkind, hrest⟩

/-- Signs are no bars. -/
theorem barOpen_markNegations (inside : Bool) (previous : Option Token) (tokens : List Token) :
    barOpen inside (markNegations previous tokens) = barOpen inside tokens := by
  induction tokens generalizing inside previous with
  | nil => rfl
  | cons token rest ih =>
      simp only [markNegations, barOpen, ih]
      split
      · next h =>
          rw [Bool.and_eq_true, Bool.and_eq_true] at h
          simp [of_decide_eq_true h.1.1, Token.negation]
      · rfl

/-- A property of the sign and of all tokens is one of the tokens with their
signs. -/
theorem forall_mem_markNegations {p : Token → Prop} (hnegation : p .negation)
    {tokens : List Token} (h : ∀ token ∈ tokens, p token) (previous : Option Token) :
    ∀ token ∈ markNegations previous tokens, p token := by
  induction tokens generalizing previous with
  | nil => exact h
  | cons token rest ih =>
      obtain ⟨htoken, hrest⟩ := List.forall_mem_cons.1 h
      refine List.forall_mem_cons.2 ⟨?_, ih hrest _⟩
      split
      · exact hnegation
      · exact htoken

/-- A property of what calls are made of and of all tokens is one of the tokens with
calls in the place of bars. -/
theorem forall_mem_replaceBars {p : Token → Prop} (hcall : p .magnitude)
    (hleft : p .leftParen) (hright : p .rightParen) {tokens : List Token}
    (h : ∀ token ∈ tokens, p token) (inside : Bool) :
    ∀ token ∈ replaceBars inside tokens, p token := by
  induction tokens generalizing inside with
  | nil => exact h
  | cons token rest ih =>
      obtain ⟨htoken, hrest⟩ := List.forall_mem_cons.1 h
      rw [replaceBars]
      split
      · cases inside with
        | true => exact List.forall_mem_cons.2 ⟨hright, ih hrest _⟩
        | false =>
            exact List.forall_mem_cons.2 ⟨hcall, List.forall_mem_cons.2 ⟨hleft, ih hrest _⟩⟩
      · exact List.forall_mem_cons.2 ⟨htoken, ih hrest _⟩

theorem not_bar_of_markNegations {tokens : List Token}
    (h : ∀ token ∈ tokens, token.kind ≠ .bar) (previous : Option Token) :
    ∀ token ∈ markNegations previous tokens, token.kind ≠ .bar :=
  forall_mem_markNegations (by decide) h previous

/-- Whether a bar is open is a matter of how many there are. -/
theorem barOpen_eq_xor (inside : Bool) (tokens : List Token) :
    barOpen inside tokens =
      (inside ^^ decide ((tokens.countP fun token => token.kind = .bar) % 2 = 1)) := by
  induction tokens generalizing inside with
  | nil => simp [barOpen]
  | cons token rest ih =>
      by_cases hbar : token.kind = .bar
      · rw [barOpen, if_pos hbar, ih, List.countP_cons_of_pos (by simpa using hbar)]
        generalize (rest.countP fun token => token.kind = .bar) = bars
        rcases Nat.mod_two_eq_zero_or_one bars with h | h <;>
          cases inside <;> simp [h, Nat.add_mod]
      · rw [barOpen, if_neg hbar, ih, List.countP_cons_of_neg (by simpa using hbar)]

/-- Signs are no parentheses. -/
theorem checkParentheses_markNegations (depth : Nat) (previous : Option Token)
    (tokens : List Token) :
    checkParentheses depth (markNegations previous tokens) = checkParentheses depth tokens := by
  induction tokens generalizing depth previous with
  | nil => rfl
  | cons token rest ih =>
      rw [markNegations]
      split
      · next h =>
          -- a minus and a sign are both passed over
          rw [Bool.and_eq_true, Bool.and_eq_true] at h
          have hkind := of_decide_eq_true h.1.1
          rw [checkParentheses_of_plain (by decide) (by decide),
            checkParentheses_of_plain (by simp [hkind]) (by simp [hkind]), ih]
      · simp only [checkParentheses, ih]

/-- A bar that is open counts as one parenthesis more, whichever parentheses are
open with it. -/
theorem checkParentheses_replaceBars {inside : Bool} {depth : Nat} {tokens : List Token}
    (hcheck : checkParentheses depth tokens = .ok ()) (hclosed : barOpen inside tokens = false) :
    checkParentheses (depth + inside.toNat) (replaceBars inside tokens) = .ok () := by
  induction tokens generalizing inside depth with
  | nil =>
      rw [barOpen] at hclosed
      rw [hclosed]
      exact hcheck
  | cons token rest ih =>
      by_cases hbar : token.kind = .bar
      · rw [checkParentheses_of_plain (by simp [hbar]) (by simp [hbar])] at hcheck
        rw [barOpen, if_pos hbar] at hclosed
        have hrest := ih hcheck hclosed
        rw [replaceBars, if_pos hbar]
        cases inside with
        | true => exact hrest
        | false => exact hrest
      · rw [barOpen, if_neg hbar] at hclosed
        rw [replaceBars, if_neg hbar]
        by_cases hleft : token.kind = .leftParen
        · rw [checkParentheses_of_left hleft] at hcheck ⊢
          have hrest := ih hcheck hclosed
          rwa [Nat.add_right_comm] at hrest
        · by_cases hright : token.kind = .rightParen
          · obtain ⟨outer, rfl, houter⟩ := exists_succ_of_checkParentheses hright hcheck
            rw [Nat.add_right_comm, checkParentheses_of_right hright]
            exact ih houter hclosed
          · rw [checkParentheses_of_plain hleft hright] at hcheck ⊢
            exact ih hcheck hclosed

/-! ### All three -/

/-- A row of tokens with its signs and calls in place. -/
def settled (tokens : List Token) : List Token :=
  replaceBars false (markNegations none tokens)

theorem expandBars_markNegations (tokens : List Token) :
    expandBars false (markNegations none tokens) =
      if barOpen false tokens then .error (.fault .unbalancedBars) else .ok (settled tokens) := by
  rw [expandBars_eq, barOpen_markNegations]
  rfl

theorem prepare_eq_settled {tokens : List Token} (hbalanced : Balanced tokens)
    (hclosed : barOpen false tokens = false) : prepare tokens = .ok (settled tokens) := by
  rw [prepare, checkParentheses_of_balanced hbalanced]
  show expandBars false (markNegations none tokens) = _
  rw [expandBars_markNegations, hclosed]
  rfl

/-- **What the preparation comes to**: a row with matched parentheses and bars that
are closed is settled, and no other. -/
theorem prepare_eq_ok_iff {tokens prepared : List Token} :
    prepare tokens = .ok prepared ↔ checkParentheses 0 tokens = .ok () ∧
      barOpen false tokens = false ∧ prepared = settled tokens := by
  constructor
  · intro h
    obtain ⟨⟨⟩, hcheck, hexpand⟩ := bind_eq_ok_iff.1 h
    rw [expandBars_markNegations] at hexpand
    split at hexpand
    · cases hexpand
    · next hopen =>
        cases hexpand
        exact ⟨hcheck, by simpa using hopen, rfl⟩
  · rintro ⟨hcheck, hclosed, rfl⟩
    exact prepare_eq_settled (balanced_of_checkParentheses hcheck) hclosed

/-- A property of all tokens that the preparation makes up, and of those it starts
from, is one of those it ends with. -/
theorem forall_mem_settled {p : Token → Prop} (hnegation : p .negation) (hcall : p .magnitude)
    (hleft : p .leftParen) (hright : p .rightParen) {tokens : List Token}
    (h : ∀ token ∈ tokens, p token) : ∀ token ∈ settled tokens, p token :=
  forall_mem_replaceBars hcall hleft hright (forall_mem_markNegations hnegation h none) false

theorem forall_mem_prepare {p : Token → Prop} (hnegation : p .negation) (hcall : p .magnitude)
    (hleft : p .leftParen) (hright : p .rightParen) {tokens prepared : List Token}
    (h : ∀ token ∈ tokens, p token) (hprepare : prepare tokens = .ok prepared) :
    ∀ token ∈ prepared, p token := by
  obtain ⟨-, -, rfl⟩ := prepare_eq_ok_iff.1 hprepare
  exact forall_mem_settled hnegation hcall hleft hright h

/-- No bar is left by the preparation. -/
theorem not_bar_of_prepare {tokens prepared : List Token} (h : prepare tokens = .ok prepared) :
    ∀ token ∈ prepared, token.kind ≠ .bar := by
  obtain ⟨-, -, rfl⟩ := prepare_eq_ok_iff.1 h
  exact not_bar_of_replaceBars false _

/-- Parentheses are matched after the preparation as well, also where they cross
bars. -/
theorem checkParentheses_settled {tokens : List Token} (hcheck : checkParentheses 0 tokens = .ok ())
    (hclosed : barOpen false tokens = false) : checkParentheses 0 (settled tokens) = .ok () := by
  rw [← checkParentheses_markNegations 0 none] at hcheck
  rw [← barOpen_markNegations false none] at hclosed
  exact checkParentheses_replaceBars hcheck hclosed

/-- A row that two parts and an operator between them are put together to. -/
theorem settled_operator {left : List Token} (hend : EndsOperand left)
    (hclosed : barOpen false left = false) (symbol : String) (right : List Token) :
    settled (left ++ ⟨.operator, symbol⟩ :: right) =
      settled left ++ ⟨.operator, symbol⟩ :: settled right := by
  have hright : markNegations (some ⟨.operator, symbol⟩) right = markNegations none right :=
    markNegations_of_opens rfl right
  rw [settled, markNegations_append, markNegations, hend.or, Bool.and_false, replaceBars_append,
    barOpen_markNegations, hclosed]
  show settled left ++ ⟨.operator, symbol⟩ ::
    replaceBars false (markNegations (some ⟨.operator, symbol⟩) right) = _
  rw [hright]
  rfl

theorem settled_minus (tokens : List Token) :
    settled (⟨.operator, "-"⟩ :: tokens) = .negation :: settled tokens := by
  have hrest : markNegations (some .negation) tokens = markNegations none tokens :=
    markNegations_of_opens rfl tokens
  show Token.negation :: replaceBars false (markNegations (some .negation) tokens) = _
  rw [hrest]
  rfl

theorem settled_group {tokens : List Token} (hclosed : barOpen false tokens = false) :
    settled (.leftParen :: (tokens ++ [.rightParen])) =
      .leftParen :: (settled tokens ++ [.rightParen]) := by
  have hinner : markNegations (some .leftParen) (tokens ++ [.rightParen]) =
      markNegations none tokens ++ [.rightParen] := by
    rw [markNegations_append, markNegations_of_opens rfl tokens]
    rfl
  show Token.leftParen ::
    replaceBars false (markNegations (some .leftParen) (tokens ++ [.rightParen])) = _
  rw [hinner, replaceBars_append, barOpen_markNegations, hclosed]
  rfl

theorem settled_call (name : String) (tokens : List Token) :
    settled (⟨.function, name⟩ :: .leftParen :: tokens) =
      ⟨.function, name⟩ :: settled (.leftParen :: tokens) :=
  rfl

/-- A pair of bars becomes a call, if there is no bar between them.  After a bar a
minus is not taken for a sign. -/
theorem settled_magnitude {tokens : List Token} (hbar : ∀ token ∈ tokens, token.kind ≠ .bar)
    (hminus : ∀ first ∈ tokens.head?, first ≠ ⟨.operator, "-"⟩) :
    settled (.bar :: (tokens ++ [.bar])) =
      .magnitude :: .leftParen :: (settled tokens ++ [.rightParen]) := by
  have hinner : markNegations (some .bar) (tokens ++ [.bar]) =
      markNegations none tokens ++ [.bar] := by
    rw [markNegations_append, markNegations_of_head hminus (some .bar) none]
    rfl
  have hmarked := not_bar_of_markNegations hbar none
  have hsettled : settled tokens = markNegations none tokens := replaceBars_of_no_bar hmarked false
  show Token.magnitude :: .leftParen ::
    replaceBars true (markNegations (some .bar) (tokens ++ [.bar])) = _
  rw [hinner, hsettled, replaceBars_append, replaceBars_of_no_bar hmarked,
    barOpen_of_no_bar hmarked]
  rfl

end Calculator.Infix
