import Calculator.Lexeme
import Calculator.Proofs.Lexing.Vocabulary

/-!
# What the scan of a text finds

`Scans tokens text` says that a text is the given lexemes in order, with blanks
around and between them, and that each lexeme ends where its text ends:

* a number, when no digit follows, and no point unless it has one already;
* a constant, when no name of a function starts with it.

Everything else ends by itself.  `readFrom_eq_ok_iff` says that the scan finds
exactly these rows of lexemes, wherever in an expression it starts.  It rests
on `first?_eq_some_iff`, which says the same of one lexeme.
-/

namespace Calculator.Lexeme

open Calculator.Text Calculator.Number

/-- Nothing in what follows goes on with the lexeme. -/
def Ends (token : Token) (rest : List Char) : Prop :=
  match token.kind with
  | .number =>
    ∀ c ∈ rest.head?, isAsciiDigit c = false ∧ (c = '.' → '.' ∈ token.text.toList)
  | .constant => function? (token.text.toList ++ rest) = none
  | .function | .operator | .leftParen | .rightParen | .bar => True

/-- A text is a row of lexemes with blanks around and between them. -/
inductive Scans : List Token → List Char → Prop
  | nil {blanks : List Char} (hblanks : ∀ c ∈ blanks, isBlank c = true) : Scans [] blanks
  | cons {blanks text : List Char} {token : Token} {tokens : List Token}
      (hblanks : ∀ c ∈ blanks, isBlank c = true) (hlexeme : token.isLexeme = true)
      (hends : Ends token text) (hrest : Scans tokens text) :
      Scans (token :: tokens) (blanks ++ token.text.toList ++ text)

/-! ### Numbers -/

theorem digits_append {literal rest : List Char} (pointed : Bool)
    (hall : ∀ c ∈ literal, (isAsciiDigit c || decide (c = '.')) = true)
    (hcount : literal.count '.' + pointed.toNat ≤ 1)
    (hrest : ∀ c ∈ rest.head?,
      isAsciiDigit c = false ∧ (c = '.' → pointed = true ∨ '.' ∈ literal)) :
    digits pointed (literal ++ rest) = literal := by
  induction literal generalizing pointed with
  | nil =>
      cases rest with
      | nil => rfl
      | cons c rest =>
          obtain ⟨hdigit, hpoint⟩ := hrest c rfl
          by_cases hc : c = '.'
          · have hpointed : pointed = true := (hpoint hc).resolve_right List.not_mem_nil
            simp [digits, hdigit, hpointed]
          · simp [digits, hdigit, hc]
  | cons c literal ih =>
      have htail : ∀ d ∈ literal, (isAsciiDigit d || decide (d = '.')) = true :=
        fun d hd => hall d (List.mem_cons_of_mem _ hd)
      by_cases hpoint : c = '.'
      · subst hpoint
        rw [List.count_cons_self] at hcount
        obtain rfl : pointed = false := by
          cases pointed with
          | false => rfl
          | true => simp only [Bool.toNat_true] at hcount; omega
        have hmore := ih true htail (by simp; omega)
          fun d hd => ⟨(hrest d hd).1, fun _ => Or.inl rfl⟩
        simp [digits, hmore]
      · have hdigit : isAsciiDigit c = true := by
          simpa [hpoint] using hall c (List.mem_cons_self ..)
        have hmore := ih pointed htail
          (by rwa [List.count_cons_of_ne hpoint] at hcount) fun d hd =>
            ⟨(hrest d hd).1, fun heq => ((hrest d hd).2 heq).imp_right fun hmem =>
              (List.mem_cons.1 hmem).resolve_left (Ne.symm hpoint)⟩
        simp [digits, hdigit, hmore]

/-- What the scan of a number takes, and what it leaves. -/
theorem digits_spec (pointed : Bool) (text : List Char) :
    ∃ rest, text = digits pointed text ++ rest ∧
      (∀ c ∈ digits pointed text, (isAsciiDigit c || decide (c = '.')) = true) ∧
      (digits pointed text).count '.' + pointed.toNat ≤ 1 ∧
      ∀ c ∈ rest.head?,
        isAsciiDigit c = false ∧ (c = '.' → pointed = true ∨ '.' ∈ digits pointed text) := by
  induction text generalizing pointed with
  | nil => exact ⟨[], by cases pointed <;> simp [digits]⟩
  | cons c text ih =>
      by_cases hdigit : isAsciiDigit c = true
      · obtain ⟨rest, htext, hall, hcount, hrest⟩ := ih pointed
        have hpoint : c ≠ '.' := by rintro rfl; exact absurd hdigit (by decide)
        refine ⟨rest, ?_⟩
        simp only [digits, hdigit, if_true, List.cons_append]
        refine ⟨congrArg _ htext, ?_, ?_, fun d hd => ?_⟩
        · simpa [hdigit] using hall
        · rwa [List.count_cons_of_ne hpoint]
        · exact ⟨(hrest d hd).1, fun heq =>
            ((hrest d hd).2 heq).imp_right (List.mem_cons_of_mem _)⟩
      · rw [Bool.not_eq_true] at hdigit
        by_cases hpoint : c = '.' ∧ pointed = false
        · obtain ⟨rfl, rfl⟩ := hpoint
          obtain ⟨rest, htext, hall, hcount, hrest⟩ := ih true
          refine ⟨rest, ?_⟩
          simp only [digits, hdigit, Bool.false_eq_true, if_false, Bool.not_false, Bool.and_true,
            decide_true, if_true, List.cons_append]
          refine ⟨congrArg _ htext, ?_, ?_, fun d hd => ⟨(hrest d hd).1, fun _ => ?_⟩⟩
          · simpa using hall
          · rw [List.count_cons_self]
            simpa using hcount
          · exact Or.inr (List.mem_cons_self ..)
        · have hstop : digits pointed (c :: text) = [] := by
            simp only [digits, hdigit, Bool.false_eq_true, if_false]
            exact if_neg (by simpa using hpoint)
          refine ⟨c :: text, ?_⟩
          simp only [hstop, List.nil_append, true_and]
          refine ⟨by simp, by cases pointed <;> simp, fun d hd => ?_⟩
          obtain rfl : c = d := Option.some.inj hd
          exact ⟨hdigit, fun heq => Or.inl (by simpa [heq] using hpoint)⟩

/-! ### Names -/

/-- No name of a function is found in front of what starts with the name of
another. -/
theorem function?_append (f : NamedFunction) (rest : List Char) :
    function? (f.name.toList ++ rest) = some f := by
  cases f <;> rfl

theorem prefix_of_function? {text : List Char} {f : NamedFunction} (h : function? text = some f) :
    ∃ rest, text = f.name.toList ++ rest := by
  unfold function? at h
  have hfound := List.find?_some h
  obtain ⟨rest, hrest⟩ := List.isPrefixOf_iff_prefix.1 hfound
  exact ⟨rest, hrest.symm⟩

theorem head_of_function? {c : Char} {text : List Char} {f : NamedFunction}
    (h : function? (c :: text) = some f) : f.name.toList.head? = some c := by
  obtain ⟨rest, heq⟩ := prefix_of_function? h
  cases hname : f.name.toList with
  | nil => exact absurd hname (by cases f <;> decide)
  | cons d name =>
      rw [hname] at heq
      exact congrArg List.head? heq.symm

theorem function?_eq_none_of_head {c : Char}
    (h : ∀ f : NamedFunction, f.name.toList.head? ≠ some c) (text : List Char) :
    function? (c :: text) = none := by
  cases hfound : function? (c :: text) with
  | none => rfl
  | some f => exact absurd (head_of_function? hfound) (h f)

/-- A name of a function that starts with `e` goes on with `x`. -/
theorem function?_e {rest : List Char} (h : ∀ c ∈ rest.head?, c ≠ 'x') :
    function? ('e' :: rest) = none := by
  cases hfound : function? ('e' :: rest) with
  | none => rfl
  | some f =>
      obtain rfl : f = .exp := by
        have hhead := head_of_function? hfound
        cases f <;> first | rfl | exact absurd hhead (by decide)
      obtain ⟨rest', heq⟩ := prefix_of_function? hfound
      have hx : rest.head? = some 'x' := congrArg (fun text => text.tail.head?) heq
      exact absurd rfl (h 'x' hx)

/-! ### One lexeme -/

theorem first?_of_number {c : Char} {text : List Char}
    (h : (isAsciiDigit c || decide (c = '.')) = true) :
    first? (c :: text) = if digits false (c :: text) = ['.'] then none
      else some ⟨.number, String.ofList (digits false (c :: text))⟩ := by
  simp only [first?, h, if_true]

theorem first?_of_not_number {c : Char} {text : List Char}
    (h : (isAsciiDigit c || decide (c = '.')) = false) :
    first? (c :: text) = match function? (c :: text) with
      | some f => some ⟨.function, f.name⟩
      | none => single? c := by
  cases hfunction : function? (c :: text) <;>
    simp only [first?, h, hfunction, Bool.false_eq_true, if_false]

/-- A character that starts no number and no name is a lexeme by itself. -/
theorem first?_of_sign {c : Char} (hnumber : (isAsciiDigit c || decide (c = '.')) = false)
    (hname : ∀ f : NamedFunction, f.name.toList.head? ≠ some c) (text : List Char) :
    first? (c :: text) = single? c := by
  rw [first?_of_not_number hnumber, function?_eq_none_of_head hname]

/-- A number is found in front of what it does not go on with. -/
theorem first?_append_of_number {text : String} {rest : List Char}
    (htext : isPlainDecimal text.toList = true) (hends : Ends ⟨.number, text⟩ rest) :
    first? (text.toList ++ rest) = some ⟨.number, text⟩ := by
  have hall := forall_of_isPlainDecimal (p := fun c => (isAsciiDigit c || decide (c = '.')) = true)
    (fun c hc => by rw [hc]; rfl) (by decide) htext
  have hcount : text.toList.count '.' ≤ 1 := by
    simp only [isPlainDecimal, Bool.and_eq_true, decide_eq_true_eq] at htext
    exact htext.1.2
  have hdigits : digits false (text.toList ++ rest) = text.toList := by
    apply digits_append false hall (by simpa using hcount)
    intro c hc
    obtain ⟨hdigit, hpoint⟩ := hends c hc
    exact ⟨hdigit, fun heq => Or.inr (hpoint heq)⟩
  -- a point on its own has no digit
  have hpoint : text.toList ≠ ['.'] := by
    intro heq
    rw [heq] at htext
    exact absurd htext (by decide)
  cases hchars : text.toList with
  | nil => exact absurd hchars (ne_nil_of_isPlainDecimal htext)
  | cons c cs =>
      rw [hchars] at hdigits hall hpoint
      rw [List.cons_append, first?_of_number (hall c (List.mem_cons_self ..)),
        ← List.cons_append, hdigits, if_neg hpoint, ← hchars, String.ofList_toList]

/-- The name of a function is found whatever follows. -/
theorem first?_append_of_function (f : NamedFunction) (rest : List Char) :
    first? (f.name.toList ++ rest) = some ⟨.function, f.name⟩ := by
  cases hchars : f.name.toList with
  | nil => exact absurd hchars (by cases f <;> decide)
  | cons c cs =>
      have hnumber : (isAsciiDigit c || decide (c = '.')) = false := by
        have hall : f.name.toList.all fun c => !(isAsciiDigit c || decide (c = '.')) := by
          cases f <;> decide
        rw [hchars] at hall
        simpa using List.all_eq_true.1 hall c (List.mem_cons_self ..)
      have hfound := function?_append f rest
      rw [hchars, List.cons_append] at hfound
      rw [List.cons_append, first?_of_not_number hnumber, hfound]

/-- A lexeme is found in front of what it does not go on with. -/
theorem first?_append {token : Token} {rest : List Char} (hlexeme : token.isLexeme = true)
    (hends : Ends token rest) : first? (token.text.toList ++ rest) = some token := by
  rcases Token.isLexeme_cases hlexeme with ⟨text, rfl, htext⟩ | ⟨constant, rfl⟩ | ⟨f, rfl⟩ |
    ⟨operation, rfl⟩ | rfl | rfl | rfl
  · exact first?_append_of_number htext hends
  · have hnone : function? (constant.symbol.toList ++ rest) = none := hends
    cases constant with
    | pi =>
        show first? ('π' :: rest) = _
        rw [first?_of_not_number (by decide), show function? ('π' :: rest) = none from hnone]
        rfl
    | e =>
        show first? ('e' :: rest) = _
        rw [first?_of_not_number (by decide), show function? ('e' :: rest) = none from hnone]
        rfl
  · exact first?_append_of_function f rest
  · cases operation <;> exact first?_of_sign (by decide) (fun f => by cases f <;> decide) rest
  · exact first?_of_sign (by decide) (fun f => by cases f <;> decide) rest
  · exact first?_of_sign (by decide) (fun f => by cases f <;> decide) rest
  · exact first?_of_sign (by decide) (fun f => by cases f <;> decide) rest

/-- What a character is on its own is a lexeme of that character. -/
theorem single?_eq_some {c : Char} {token : Token} (h : single? c = some token) :
    token.isLexeme = true ∧ token.kind ≠ .number ∧ token.text = String.singleton c := by
  unfold single? at h
  cases hsymbol : Constant.ofSymbol? (String.singleton c) with
  | some constant =>
      rw [hsymbol] at h
      obtain rfl := Option.some.inj h
      have htext := Constant.ofSymbol?_eq_some_iff.1 hsymbol
      exact ⟨by simp [Token.isLexeme], by simp, htext.symm⟩
  | none =>
      rw [hsymbol] at h
      simp only at h
      split at h
      · next hc =>
          obtain rfl := Option.some.inj h
          exact ⟨rfl, by decide, by rw [hc]; rfl⟩
      split at h
      · next hc =>
          obtain rfl := Option.some.inj h
          exact ⟨rfl, by decide, by rw [hc]; rfl⟩
      split at h
      · next hc =>
          obtain rfl := Option.some.inj h
          exact ⟨rfl, by decide, by rw [hc]; rfl⟩
      split at h
      · next hc =>
          obtain rfl := Option.some.inj h
          refine ⟨?_, by simp, rfl⟩
          have hmem : c ∈ ['+', '-', '*', '/', '^', '%'] := by simpa using hc
          simp only [List.mem_cons, List.not_mem_nil, or_false] at hmem
          rcases hmem with rfl | rfl | rfl | rfl | rfl | rfl <;> decide
      · exact absurd h (by simp)

/-- A scanned number is a plain decimal. -/
theorem isPlainDecimal_digits {c : Char} {text : List Char}
    (hnumber : (isAsciiDigit c || decide (c = '.')) = true)
    (hpoint : digits false (c :: text) ≠ ['.']) :
    isPlainDecimal (digits false (c :: text)) = true := by
  obtain ⟨rest, -, hall, hcount, -⟩ := digits_spec false (c :: text)
  have hne : digits false (c :: text) ≠ [] := by
    simp only [digits]
    split
    · simp
    · simp_all
  simp only [isPlainDecimal, Bool.and_eq_true, List.all_eq_true, decide_eq_true_eq,
    List.any_eq_true]
  refine ⟨⟨hall, by simpa using hcount⟩, ?_⟩
  -- without a digit there is nothing but points, and one of them at most
  refine Decidable.byContradiction fun hnone => hpoint ?_
  have hpoints : ∀ d ∈ digits false (c :: text), d = '.' := fun d hd => by
    have hdigit : isAsciiDigit d = false := by
      rw [← Bool.not_eq_true]
      exact fun hdigit => hnone ⟨d, hd, hdigit⟩
    simpa [hdigit] using hall d hd
  rw [List.eq_replicate_of_mem hpoints, List.count_replicate_self] at hcount
  rw [List.eq_replicate_of_mem hpoints]
  have hlength := List.length_pos_iff.2 hne
  rw [show (digits false (c :: text)).length = 1 by simp only [Bool.toNat_false] at hcount; omega]
  rfl

/-- **The lexeme at the front of a text** is the one that the text starts with
and does not go on with. -/
theorem first?_eq_some_iff {text : List Char} {token : Token} :
    first? text = some token ↔
      token.isLexeme = true ∧ ∃ rest, text = token.text.toList ++ rest ∧ Ends token rest := by
  constructor
  · intro h
    cases text with
    | nil => exact absurd h (by simp [first?])
    | cons c text =>
        cases hnumber : isAsciiDigit c || decide (c = '.') with
        | true =>
            rw [first?_of_number hnumber] at h
            split at h
            · exact absurd h (by simp)
            · next hpoint =>
                obtain rfl := Option.some.inj h
                obtain ⟨rest, htext, -, -, hrest⟩ := digits_spec false (c :: text)
                refine ⟨by simpa [Token.isLexeme] using isPlainDecimal_digits hnumber hpoint, rest,
                  by simpa using htext, fun d hd => ⟨(hrest d hd).1, fun heq => ?_⟩⟩
                simpa using (hrest d hd).2 heq
        | false =>
            rw [first?_of_not_number hnumber] at h
            cases hfound : function? (c :: text) with
            | some f =>
                rw [hfound] at h
                obtain rfl := Option.some.inj h
                exact ⟨by simp [Token.isLexeme], (prefix_of_function? hfound).imp fun rest hrest =>
                  ⟨hrest, trivial⟩⟩
            | none =>
                rw [hfound] at h
                obtain ⟨hlexeme, hkind, htext⟩ := single?_eq_some h
                have hchars : c :: text = token.text.toList ++ text := by
                  rw [htext, String.toList_singleton]
                  rfl
                refine ⟨hlexeme, text, hchars, ?_⟩
                unfold Ends
                split
                · next hnum => exact absurd hnum hkind
                · rwa [← hchars]
                all_goals trivial
  · rintro ⟨hlexeme, rest, rfl, hends⟩
    exact first?_append hlexeme hends

/-! ### Rows of lexemes -/

/-- Neither blanks nor commas stand inside a lexeme. -/
theorem not_isBlank_of_isLexeme {token : Token} (h : token.isLexeme = true) :
    ∀ c ∈ token.text.toList, isBlank c = false ∧ c ≠ ',' := by
  have key : ∀ text : List Char, text.all (fun c => !isBlank c && c != ',') = true →
      ∀ c ∈ text, isBlank c = false ∧ c ≠ ',' := fun text hall c hc => by
    simpa using List.all_eq_true.1 hall c hc
  rcases Token.isLexeme_cases h with ⟨text, rfl, htext⟩ | ⟨constant, rfl⟩ | ⟨f, rfl⟩ |
    ⟨operation, rfl⟩ | rfl | rfl | rfl
  · exact forall_of_isPlainDecimal (fun c hc => ⟨not_isBlank_of_isAsciiDigit hc, by
      rintro rfl
      exact absurd hc (by decide)⟩) (by decide) htext
  · exact key _ (by cases constant <;> decide)
  · exact key _ (by cases f <;> decide)
  · exact key _ (by cases operation <;> decide)
  all_goals exact key _ (by decide)

theorem exists_cons_of_isLexeme {token : Token} (h : token.isLexeme = true) :
    ∃ c rest, token.text.toList = c :: rest ∧ isBlank c = false := by
  cases hchars : token.text.toList with
  | nil =>
      rcases Token.isLexeme_cases h with ⟨text, rfl, htext⟩ | ⟨constant, rfl⟩ | ⟨f, rfl⟩ |
        ⟨operation, rfl⟩ | rfl | rfl | rfl
      · exact absurd hchars (ne_nil_of_isPlainDecimal htext)
      · exact absurd hchars (by cases constant <;> decide)
      · exact absurd hchars (by cases f <;> decide)
      · exact absurd hchars (by cases operation <;> decide)
      all_goals exact absurd hchars (by decide)
  | cons c rest =>
      exact ⟨c, rest, rfl, (not_isBlank_of_isLexeme h c (by simp [hchars])).1⟩

theorem readFrom_blanks {blanks : List Char} (h : ∀ c ∈ blanks, isBlank c = true)
    (position : Nat) (text : List Char) :
    readFrom position (blanks ++ text) = readFrom (position + blanks.length) text := by
  induction blanks generalizing position with
  | nil => rfl
  | cons c blanks ih =>
      rw [List.cons_append, readFrom, if_pos (h c (List.mem_cons_self ..)),
        ih (fun d hd => h d (List.mem_cons_of_mem _ hd)), List.length_cons]
      congr 1
      omega

theorem readFrom_lexeme {token : Token} {text : List Char} (hlexeme : token.isLexeme = true)
    (hends : Ends token text) (position : Nat) :
    readFrom position (token.text.toList ++ text) =
      (readFrom (position + token.text.length) text).map (token :: ·) := by
  obtain ⟨c, cs, hchars, hblank⟩ := exists_cons_of_isLexeme hlexeme
  have hfirst := first?_append hlexeme hends
  have hlength : token.text.length = cs.length + 1 := by
    rw [← String.length_toList, hchars, List.length_cons]
  rw [hchars, List.cons_append] at hfirst ⊢
  rw [readFrom, if_neg (by simp [hblank]), hfirst]
  simp only [hlength, Nat.add_sub_cancel, List.drop_left]
  rw [show position + 1 + cs.length = position + (cs.length + 1) by omega]
  cases readFrom (position + (cs.length + 1)) text <;> rfl

theorem scans_blank {c : Char} {tokens : List Token} {text : List Char} (hc : isBlank c = true)
    (h : Scans tokens text) : Scans tokens (c :: text) := by
  cases h with
  | nil hblanks =>
      refine .nil fun d hd => ?_
      rcases List.mem_cons.1 hd with rfl | hd
      · exact hc
      · exact hblanks d hd
  | @cons blanks rest token tokens hblanks hlexeme hends hrest =>
      refine @Scans.cons (c :: blanks) _ _ _ (fun d hd => ?_) hlexeme hends hrest
      rcases List.mem_cons.1 hd with rfl | hd
      · exact hc
      · exact hblanks d hd

theorem isLexeme_of_scans {tokens : List Token} {text : List Char} (h : Scans tokens text) :
    ∀ token ∈ tokens, token.isLexeme = true := by
  induction h with
  | nil => simp
  | cons hblanks hlexeme hends hrest ih => exact List.forall_mem_cons.2 ⟨hlexeme, ih⟩

/-- **The scan finds the rows of lexemes that a text is.** -/
theorem readFrom_eq_ok_iff {position : Nat} {text : List Char} {tokens : List Token} :
    readFrom position text = .ok tokens ↔ Scans tokens text := by
  constructor
  · intro h
    induction position, text using readFrom.induct generalizing tokens with
    | case1 position =>
        rw [readFrom] at h
        cases h
        exact .nil (by simp)
    | case2 position c rest hblank ih =>
        rw [readFrom, if_pos hblank] at h
        exact scans_blank hblank (ih h)
    | case3 position c rest hblank hnone =>
        rw [readFrom, if_neg hblank, hnone] at h
        cases h
    | case4 position c rest hblank token hfirst =>
        rename_i more ih
        obtain ⟨hlexeme, text, htext, hends⟩ := first?_eq_some_iff.1 hfirst
        obtain ⟨d, ds, hchars, -⟩ := exists_cons_of_isLexeme hlexeme
        have hdrop : rest.drop more = text := by
          rw [hchars, List.cons_append] at htext
          rw [(List.cons.inj htext).2, show more = token.text.length - 1 from rfl,
            ← String.length_toList, hchars, List.length_cons, Nat.add_sub_cancel, List.drop_left]
        rw [htext, readFrom_lexeme hlexeme hends] at h
        have hposition : position + 1 + more = position + token.text.length := by
          rw [show more = token.text.length - 1 from rfl, ← String.length_toList, hchars,
            List.length_cons]
          omega
        rw [hdrop, hposition] at ih
        cases htail : readFrom (position + token.text.length) text with
        | error failure =>
            rw [htail] at h
            cases h
        | ok tail =>
            rw [htail] at h
            cases h
            have hscans := @Scans.cons [] _ _ _ (by simp) hlexeme hends (ih htail)
            rwa [List.nil_append, ← htext] at hscans
  · intro h
    induction h generalizing position with
    | nil hblanks =>
        rename_i blanks
        rw [← List.append_nil blanks, readFrom_blanks hblanks, readFrom]
    | cons hblanks hlexeme hends hrest ih =>
        rw [List.append_assoc, readFrom_blanks hblanks, readFrom_lexeme hlexeme hends, ih]
        rfl

end Calculator.Lexeme
