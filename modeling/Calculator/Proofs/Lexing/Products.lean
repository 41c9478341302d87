import Calculator.Juxtaposition
import Calculator.Proofs.Lexing.Spelling

/-!
# Products that are left out

A row of tokens is *explicit* when no two neighbours imply a product, and those
are the rows that writing products out leaves as they are
(`writeProducts_eq_self_iff`).

`Elided full written` leaves out some of the products of an explicit row, each
between two tokens that imply it.  Two products are never neighbours, so the
tokens on either side of one that is left out are still there, and the pass
writes it back (`writeProducts_of_elided`).
-/

namespace Calculator

/-- Leaves out some of the products that their neighbours imply. -/
inductive Elided : List Token → List Token → Prop
  | nil : Elided [] []
  | keep {token : Token} {full written : List Token} (h : Elided full written) :
      Elided (token :: full) (token :: written)
  | leaveOut {left right : Token} {full written : List Token}
      (himplied : impliesProduct (some left) right = true)
      (h : Elided (right :: full) (right :: written)) :
      Elided (left :: .times :: right :: full) (left :: right :: written)

@[simp] theorem impliesProduct_times (previous : Option Token) :
    impliesProduct previous .times = false := by
  cases previous <;> rfl

/-- A property of the product and of all tokens is one of the tokens with their
products. -/
theorem forall_mem_writeProducts {p : Token → Prop} (htimes : p .times)
    {previous : Option Token} {tokens : List Token} (h : ∀ token ∈ tokens, p token) :
    ∀ token ∈ writeProducts previous tokens, p token := by
  induction tokens generalizing previous with
  | nil => exact h
  | cons token rest ih =>
      obtain ⟨htoken, hrest⟩ := List.forall_mem_cons.1 h
      rw [writeProducts]
      split
      · exact List.forall_mem_cons.2 ⟨htimes, List.forall_mem_cons.2 ⟨htoken, ih hrest⟩⟩
      · exact List.forall_mem_cons.2 ⟨htoken, ih hrest⟩

/-- Products are written out part by part. -/
theorem writeProducts_append (previous : Option Token) (left right : List Token) :
    writeProducts previous (left ++ right) =
      writeProducts previous left ++ writeProducts (left.getLast?.or previous) right := by
  induction left generalizing previous with
  | nil => rfl
  | cons token left ih =>
      have hlast : (token :: left).getLast?.or previous = left.getLast?.or (some token) := by
        rw [List.getLast?_cons]
        cases left.getLast? <;> rfl
      rw [List.cons_append, writeProducts, writeProducts, ih, hlast]
      split <;> rfl

/-- A group is written out on its own.  Whether there is a product in front of it
has been settled. -/
theorem writeProducts_group {previous : Option Token}
    (hprevious : impliesProduct previous .leftParen = false) (tokens rest : List Token) :
    writeProducts previous (.leftParen :: (tokens ++ .rightParen :: rest)) =
      .leftParen :: (writeProducts none tokens ++
        .rightParen :: writeProducts (some .rightParen) rest) := by
  have hopen : writeProducts (some .leftParen) tokens = writeProducts none tokens := by
    cases tokens with
    | nil => rfl
    | cons token tokens =>
        have hfirst : impliesProduct (some .leftParen) token = false := by
          obtain ⟨kind, text⟩ := token
          cases kind <;> rfl
        rw [writeProducts, writeProducts, hfirst]
        rfl
  have hclose : ∀ last : Option Token, writeProducts last (.rightParen :: rest) =
      .rightParen :: writeProducts (some .rightParen) rest := by
    intro last
    cases last <;> rfl
  rw [writeProducts, hprevious, writeProducts_append, hopen, hclose]
  rfl

/-- A product that is implied in front of a row is all that the token before it
adds. -/
theorem writeProducts_of_implies {previous : Option Token} {token : Token}
    (h : impliesProduct previous token = true) (rest : List Token) :
    writeProducts previous (token :: rest) = .times :: writeProducts none (token :: rest) := by
  rw [writeProducts, writeProducts, h]
  rfl

/-- Writing products out changes nothing just when no neighbours imply one. -/
theorem writeProducts_eq_self_iff {previous : Option Token} {tokens : List Token} :
    writeProducts previous tokens = tokens ↔
      (∀ next ∈ tokens.head?, impliesProduct previous next = false) ∧
        tokens.IsChain fun left right => impliesProduct (some left) right = false := by
  induction tokens generalizing previous with
  | nil => simp
  | cons token tokens ih =>
      rw [List.isChain_cons, writeProducts]
      cases himplied : impliesProduct previous token with
      | false => simp [himplied, ih]
      | true =>
          simp only [if_true, List.head?_cons, Option.mem_some, forall_eq', himplied]
          -- a product in front would have to be the token itself, which implies none
          refine iff_of_false (fun heq => ?_) (by simp)
          obtain rfl : Token.times = token := (List.cons.inj heq).1
          rw [impliesProduct_times] at himplied
          exact Bool.false_ne_true himplied

theorem writeProducts_of_elided {full written : List Token} (h : Elided full written)
    {previous : Option Token} (hexplicit : writeProducts previous full = full) :
    writeProducts previous written = full := by
  induction h generalizing previous with
  | nil => rfl
  | @keep token full written h ih =>
      rw [writeProducts_eq_self_iff, List.isChain_cons] at hexplicit
      obtain ⟨hfirst, hnext, hchain⟩ := hexplicit
      rw [writeProducts, hfirst token rfl, ih (writeProducts_eq_self_iff.2 ⟨hnext, hchain⟩)]
      rfl
  | @leaveOut left right full written himplied h ih =>
      rw [writeProducts_eq_self_iff, List.isChain_cons_cons, List.isChain_cons] at hexplicit
      obtain ⟨hfirst, -, hnext, hchain⟩ := hexplicit
      have hwritten := ih (writeProducts_eq_self_iff.2 ⟨hnext, hchain⟩)
      rw [writeProducts, hnext right rfl] at hwritten
      rw [writeProducts, hfirst left rfl, writeProducts, himplied]
      simpa using hwritten

theorem isChain_apart_of_elided {full written : List Token} (h : Elided full written)
    (hapart : full.IsChain Lexeme.Apart) : written.IsChain Lexeme.Apart := by
  have hhead : ∀ {full written : List Token}, Elided full written → written.head? = full.head? := by
    rintro _ _ (_ | _ | _) <;> rfl
  induction h with
  | nil => exact hapart
  | keep h ih =>
      rw [List.isChain_cons] at hapart ⊢
      exact ⟨by rw [hhead h]; exact hapart.1, ih hapart.2⟩
  | @leaveOut left right full written himplied h ih =>
      rw [List.isChain_cons_cons, List.isChain_cons] at hapart
      refine List.isChain_cons_cons.2 ⟨?_, ih hapart.2.2⟩
      rintro ⟨hleft, hright⟩
      simp [impliesProduct, hright, hleft] at himplied

theorem mem_of_mem_elided {full written : List Token} (h : Elided full written) :
    ∀ token ∈ written, token ∈ full := by
  induction h with
  | nil => simp
  | keep h ih =>
      intro token htoken
      exact (List.mem_cons.1 htoken).elim (by rintro rfl; simp) fun hmem => by simp [ih token hmem]
  | leaveOut himplied h ih =>
      intro token htoken
      rcases List.mem_cons.1 htoken with rfl | hmem
      · simp
      · exact List.mem_cons_of_mem _ (List.mem_cons_of_mem _ (ih token hmem))

/-- **A text that leaves out products has the tokens with all of them,** whatever
its blanks. -/
theorem tokenize_of_spelled {full written : List Token} {text : String}
    (hexplicit : full.IsChain fun left right => impliesProduct (some left) right = false)
    (hapart : full.IsChain Lexeme.Apart) (hlexeme : ∀ token ∈ full, token.isLexeme = true)
    (helided : Elided full written) (hspelled : Lexeme.Spelled written text.toList) :
    tokenize (some text) = .ok full := by
  have hscan : lexemes (some text) = .ok written :=
    Lexeme.lexemes_of_spelled hspelled
      (fun token htoken => hlexeme token (mem_of_mem_elided helided token htoken))
      (isChain_apart_of_elided helided hapart)
  have hwrite : writeProducts none written = full := by
    apply writeProducts_of_elided helided
    -- nothing stands in front of the first token
    exact writeProducts_eq_self_iff.2 ⟨fun _ _ => rfl, hexplicit⟩
  rw [tokenize, hscan]
  exact congrArg Except.ok hwrite

end Calculator
