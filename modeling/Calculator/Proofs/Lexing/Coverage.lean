import Calculator.Proofs.Lexing.Cleaning
import Calculator.Proofs.Lexing.RoundTrip

/-!
# Nothing of a text is lost

What the tokens of an expression are, said of its cleaned text and without following
the scan.  The text is a row of lexemes with blanks between them, and the tokens are
these lexemes with the products that they imply.

* All that is not blank belongs to a lexeme, in order (`filter_of_spelled`).
* A blank has lexemes on both sides: those in front of it spell the text in front, and
  those behind it the text behind (`exists_split_of_isBlank`).  Neither side is empty,
  since a cleaned text has no blank at its ends.
* Every lexeme ends where it can be taken no further (`Whole`), which can be said of
  the place where it stands (`exists_place_of_scans`).
* A product stands between two neighbours just if they imply one, also next to one
  that is written (`writeProducts_eq_flatMap`).
-/

namespace Calculator

open Calculator.Text Calculator.Lexeme

variable {expression : Option String} {tokens : List Token} {token : Token}
  {text front rest : List Char} {c : Char}

namespace Lexeme

/-! ### What is not blank -/

/-- The lexemes of a text are all of it but the blanks. -/
theorem filter_of_spelled (h : Spelled tokens text)
    (hlexeme : ∀ token ∈ tokens, token.isLexeme = true) :
    text.filter (fun c => !isBlank c) = tokens.flatMap fun token => token.text.toList := by
  have hblank : ∀ {blanks : List Char}, (∀ c ∈ blanks, isBlank c = true) →
      blanks.filter (fun c => !isBlank c) = [] := by
    intro blanks hblanks
    exact List.filter_eq_nil_iff.2 fun c hc => by simp [hblanks c hc]
  induction h with
  | nil hblanks => exact hblank hblanks
  | @cons blanks text token tokens hblanks hrest ih =>
      obtain ⟨htoken, htokens⟩ := List.forall_mem_cons.1 hlexeme
      have hchars : token.text.toList.filter (fun c => !isBlank c) = token.text.toList :=
        List.filter_eq_self.2 fun c hc => by simp [(not_isBlank_of_isLexeme htoken c hc).1]
      rw [List.filter_append, List.filter_append, hblank hblanks, hchars, ih htokens]
      rfl

/-! ### Where blanks are -/

/-- A blank stands behind a lexeme or among the blanks in front of it. -/
theorem cut_of_isBlank {blanks chars : List Char} (hc : isBlank c = true)
    (hchars : ∀ d ∈ chars, isBlank d = false)
    (h : blanks ++ chars ++ text = front ++ c :: rest) :
    (∃ more, front = blanks ++ chars ++ more ∧ text = more ++ c :: rest) ∨
      ∃ more, blanks = front ++ c :: more ∧ rest = more ++ chars ++ text := by
  have hnot : c ∉ chars := fun hmem => absurd hc (by simp [hchars c hmem])
  rcases List.append_eq_append_iff.1 h with ⟨more, hfront, htext⟩ | ⟨reach, hreach, hrest⟩
  · exact Or.inl ⟨more, hfront, htext⟩
  · cases reach with
    | nil => exact Or.inl ⟨[], by simpa using hreach.symm, by simpa using hrest.symm⟩
    | cons d reach =>
        obtain ⟨rfl, rfl⟩ := List.cons.inj hrest
        rcases List.append_eq_append_iff.1 hreach with ⟨more, -, hmore⟩ | ⟨more, hblanks, hmore⟩
        · exact absurd (by simp [hmore]) hnot
        · cases more with
          | nil =>
              have hmem : c ∈ c :: reach := List.mem_cons_self ..
              rw [hmore] at hmem
              exact absurd hmem hnot
          | cons d more =>
              obtain ⟨rfl, rfl⟩ := List.cons.inj hmore
              exact Or.inr ⟨more, hblanks, rfl⟩

/-- **A blank parts the lexemes** of a text in those in front of it and those behind. -/
theorem exists_split_of_isBlank (h : Spelled tokens text)
    (hlexeme : ∀ token ∈ tokens, token.isLexeme = true) (hc : isBlank c = true)
    (htext : text = front ++ c :: rest) :
    ∃ before after, tokens = before ++ after ∧ Spelled before front ∧ Spelled after rest := by
  induction h generalizing front with
  | nil hblanks =>
      subst htext
      obtain ⟨hfront, hrest⟩ := List.forall_mem_append.1 hblanks
      exact ⟨[], [], rfl, .nil hfront, .nil (List.forall_mem_cons.1 hrest).2⟩
  | @cons blanks text token tokens hblanks hspelled ih =>
      obtain ⟨htoken, htokens⟩ := List.forall_mem_cons.1 hlexeme
      have hchars := fun d hd => (not_isBlank_of_isLexeme htoken d hd).1
      rcases cut_of_isBlank hc hchars htext with ⟨more, rfl, hmore⟩ | ⟨more, rfl, rfl⟩
      · obtain ⟨before, after, rfl, hbefore, hafter⟩ := ih htokens hmore
        exact ⟨token :: before, after, rfl, .cons hblanks hbefore, hafter⟩
      · obtain ⟨hfront, hmore⟩ := List.forall_mem_append.1 hblanks
        exact ⟨[], token :: tokens, rfl, .nil hfront,
          .cons (List.forall_mem_cons.1 hmore).2 hspelled⟩

theorem isBlank_of_spelled_nil (h : Spelled [] text) : ∀ c ∈ text, isBlank c = true := by
  cases h with
  | nil hblanks => exact hblanks

/-- **A blank of a cleaned text has lexemes on both sides.** -/
theorem exists_between_of_isBlank (h : Spelled tokens (sanitize expression).toList)
    (hlexeme : ∀ token ∈ tokens, token.isLexeme = true) (hc : isBlank c = true)
    (htext : (sanitize expression).toList = front ++ c :: rest) :
    ∃ before after, tokens = before ++ after ∧ before ≠ [] ∧ after ≠ [] ∧
      Spelled before front ∧ Spelled after rest := by
  obtain ⟨hhead, hlast⟩ := sanitize_ends expression
  obtain ⟨before, after, hsplit, hbefore, hafter⟩ := exists_split_of_isBlank h hlexeme hc htext
  rw [htext] at hhead hlast
  refine ⟨before, after, hsplit, ?_, ?_, hbefore, hafter⟩
  · rintro rfl
    have hblank : ∀ d ∈ (front ++ c :: rest).head?, isBlank d = true := by
      cases front with
      | nil => simpa using hc
      | cons d front => simpa using isBlank_of_spelled_nil hbefore d (List.mem_cons_self ..)
    cases hfirst : (front ++ c :: rest).head? with
    | none => simp at hfirst
    | some d => exact absurd (hblank d hfirst) (by simp [hhead d hfirst])
  · rintro rfl
    have hblanks : ∀ d ∈ c :: rest, isBlank d = true :=
      List.forall_mem_cons.2 ⟨hc, isBlank_of_spelled_nil hafter⟩
    rw [List.getLast?_append_of_ne_nil _ (List.cons_ne_nil c rest)] at hlast
    have hend : (c :: rest).getLast (List.cons_ne_nil c rest) ∈ (c :: rest).getLast? :=
      List.getLast?_eq_getLast_of_ne_nil _
    have hlastBlank := hblanks _ (List.getLast_mem (List.cons_ne_nil c rest))
    rw [hlast _ hend] at hlastBlank
    cases hlastBlank

/-! ### Where lexemes end -/

/-- A lexeme is taken as far as it goes: no digit follows a number, and no point one
that has none; no name of a function starts where a constant does. -/
structure Whole (token : Token) (rest : List Char) : Prop where
  number : token.kind = .number →
    ∀ c ∈ rest.head?, isAsciiDigit c = false ∧ (c = '.' → '.' ∈ token.text.toList)
  constant : token.kind = .constant →
    ∀ f : NamedFunction, ¬ f.name.toList <+: token.text.toList ++ rest

theorem whole_of_ends (h : Ends token rest) : Whole token rest := by
  obtain ⟨kind, literal⟩ := token
  refine ⟨fun hkind => ?_, fun hkind f hprefix => ?_⟩
  · obtain rfl : kind = .number := hkind
    exact h
  · obtain rfl : kind = .constant := hkind
    obtain ⟨more, hmore⟩ := hprefix
    have hnone : function? (literal.toList ++ rest) = none := h
    rw [← hmore, function?_append] at hnone
    cases hnone

/-- Every lexeme of a row has its place in the text. -/
theorem exists_place_of_scans {before after : List Token}
    (h : Scans (before ++ token :: after) text) :
    ∃ front rest, text = front ++ token.text.toList ++ rest ∧ Spelled before front ∧
      Spelled after rest ∧ Whole token rest := by
  induction before generalizing text with
  | nil =>
      cases h with
      | @cons blanks rest _ _ hblanks hlexeme hends hrest =>
          exact ⟨blanks, rest, rfl, .nil hblanks, spelled_of_scans hrest, whole_of_ends hends⟩
  | cons first before ih =>
      cases h with
      | @cons blanks more _ _ hblanks hlexeme hends hrest =>
          obtain ⟨front, rest, rfl, hfront, hafter, hwhole⟩ := ih hrest
          refine ⟨blanks ++ first.text.toList ++ front, rest, ?_, .cons hblanks hfront, hafter,
            hwhole⟩
          simp only [List.append_assoc]

end Lexeme

/-! ### Products between neighbours -/

/-- Products are written between the neighbours that imply one, and nowhere else. -/
theorem writeProducts_eq_flatMap (tokens : List Token) :
    writeProducts none tokens =
      tokens.head?.toList ++ (tokens.zip tokens.tail).flatMap fun (left, right) =>
        if impliesProduct (some left) right then [.times, right] else [right] := by
  have hafter : ∀ (previous : Token) (rest : List Token), writeProducts (some previous) rest =
      ((previous :: rest).zip rest).flatMap fun (left, right) =>
        if impliesProduct (some left) right then [.times, right] else [right] := by
    intro previous rest
    induction rest generalizing previous with
    | nil => rfl
    | cons token rest ih =>
        rw [writeProducts, List.zip_cons_cons, List.flatMap_cons, ← ih token]
        by_cases hproduct : impliesProduct (some previous) token = true
        · simp only [if_pos hproduct, List.cons_append, List.nil_append]
        · simp only [if_neg hproduct, List.cons_append, List.nil_append]
  cases tokens with
  | nil => rfl
  | cons token rest => exact congrArg (token :: ·) (hafter token rest)

/-! ### Tokens -/

/-- A text is lexemes and blanks between them, and each lexeme is taken as far as it
goes. -/
structure Covers (found : List Token) (text : List Char) : Prop where
  lexeme : ∀ token ∈ found, token.isLexeme = true
  /-- What is not blank belongs to the lexemes, in their order. -/
  chars : (found.flatMap fun token => token.text.toList) = text.filter fun c => !isBlank c
  /-- A blank stands behind one lexeme and in front of another. -/
  blank : ∀ front c rest, text = front ++ c :: rest → isBlank c = true →
    ∃ before after, found = before ++ after ∧ before ≠ [] ∧ after ≠ [] ∧
      Spelled before front ∧ Spelled after rest
  /-- Each lexeme stands whole at its place. -/
  place : ∀ before token after, found = before ++ token :: after →
    ∃ front rest, text = front ++ token.text.toList ++ rest ∧
      Spelled before front ∧ Spelled after rest ∧ Whole token rest

theorem covers_of_lexemes {found : List Token} (h : lexemes expression = .ok found) :
    Covers found (sanitize expression).toList := by
  have hscans : Scans found (sanitize expression).toList := readFrom_eq_ok_iff.1 h
  have hlexeme := isLexeme_of_scans hscans
  have hspelled := spelled_of_scans hscans
  refine ⟨hlexeme, (filter_of_spelled hspelled hlexeme).symm, ?_, ?_⟩
  · intro front c rest htext hc
    exact exists_between_of_isBlank hspelled hlexeme hc htext
  · rintro before token after rfl
    exact exists_place_of_scans hscans

/-- **The tokens of a text are all that is in it.**  Its lexemes cover the cleaned text,
and the tokens are these lexemes with one product between any two neighbours that imply
one. -/
theorem tokenize_covers (h : tokenize expression = .ok tokens) :
    ∃ found, lexemes expression = .ok found ∧ Covers found (sanitize expression).toList ∧
      tokens = found.head?.toList ++ (found.zip found.tail).flatMap fun (left, right) =>
        if impliesProduct (some left) right then [.times, right] else [right] := by
  obtain ⟨found, hfound, hok⟩ := bind_eq_ok_iff.1 h
  cases hok
  exact ⟨found, hfound, covers_of_lexemes hfound, writeProducts_eq_flatMap found⟩

/-- A product that a blank stands for, and an `e` that is no constant. -/
theorem tokenize_covers_product :
    tokenize (some "2.5 exp(e)") =
      .ok [⟨.number, "2.5"⟩, .times, ⟨.function, "exp"⟩, .leftParen, ⟨.constant, "e"⟩,
        .rightParen] ∧
    ∃ found, lexemes (some "2.5 exp(e)") = .ok found ∧
      Covers found (sanitize (some "2.5 exp(e)")).toList ∧
      [⟨.number, "2.5"⟩, .times, ⟨.function, "exp"⟩, .leftParen, ⟨.constant, "e"⟩,
        .rightParen] =
        found.head?.toList ++ (found.zip found.tail).flatMap fun (left, right) =>
          if impliesProduct (some left) right then [.times, right] else [right] := by
  have helided : Elided
      [⟨.number, "2.5"⟩, .times, ⟨.function, "exp"⟩, .leftParen, ⟨.constant, "e"⟩, .rightParen]
      [⟨.number, "2.5"⟩, ⟨.function, "exp"⟩, .leftParen, ⟨.constant, "e"⟩, .rightParen] :=
    .leaveOut rfl (.keep (.keep (.keep (.keep .nil))))
  have hnone : ∀ c ∈ [], isBlank c = true := List.forall_mem_nil _
  have hblank : ∀ c ∈ [' '], isBlank c = true := List.forall_mem_singleton.2 (by decide)
  have hspelled : Spelled
      [⟨.number, "2.5"⟩, ⟨.function, "exp"⟩, .leftParen, ⟨.constant, "e"⟩, .rightParen]
      "2.5 exp(e)".toList := by
    have htext : "2.5 exp(e)".toList = [] ++ "2.5".toList ++ ([' '] ++ "exp".toList ++
        ([] ++ "(".toList ++ ([] ++ "e".toList ++ ([] ++ ")".toList ++ [])))) := by decide
    rw [htext]
    exact .cons hnone (.cons hblank (.cons hnone (.cons hnone (.cons hnone (.nil hnone)))))
  have htokens : tokenize (some "2.5 exp(e)") =
      .ok [⟨.number, "2.5"⟩, .times, ⟨.function, "exp"⟩, .leftParen, ⟨.constant, "e"⟩,
        .rightParen] :=
    tokenize_of_spelled (by decide) (by simp [Apart, Token.times]) (by decide) helided hspelled
  exact ⟨htokens, tokenize_covers htokens⟩

end Calculator
