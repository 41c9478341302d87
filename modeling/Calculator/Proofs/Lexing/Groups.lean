import Calculator.Proofs.Lexing.Products
import Calculator.Proofs.Lexing.Seams
import Calculator.Proofs.Outcome

/-!
# Tokens of texts in parentheses

Parentheses keep a text apart from what stands around it.  No lexeme goes on with
one, so the scan finds the lexemes of the text between the two, as they are.  A
product may be implied in front of a group or behind it, but inside, the text is
written out as if it stood alone: after a left parenthesis none is implied.

So a group has the tokens of its text between two parentheses, behind a lexeme as
well as in front of an operator or of another group.
-/

namespace Calculator

open Lexeme

variable {text left right : String} {tokens : List Token}

/-! ### The two passes -/

theorem tokenize_eq_ok_iff :
    tokenize (some text) = .ok tokens ↔
      ∃ lexemes, Scans lexemes (text.toList.filter (· != ',')) ∧
        tokens = writeProducts none lexemes := by
  constructor
  · intro h
    obtain ⟨found, hfound, hok⟩ := bind_eq_ok_iff.1 h
    cases hok
    exact ⟨found, lexemes_eq_ok_iff.1 hfound, rfl⟩
  · rintro ⟨found, hfound, rfl⟩
    exact bind_eq_ok_iff.2 ⟨found, lexemes_eq_ok_iff.2 hfound, rfl⟩

/-! ### The scan of a group -/

/-- The scan of a group finds the lexemes of the text in it. -/
theorem scans_group {text rest : List Char} {more : List Token} (h : Scans tokens text)
    (hrest : Scans more rest) :
    Scans (.leftParen :: (tokens ++ .rightParen :: more)) ('(' :: (text ++ ')' :: rest)) := by
  have hnone : ∀ c ∈ [], Text.isBlank c = true := List.forall_mem_nil _
  have hclose : Scans (.rightParen :: more) (')' :: rest) :=
    @Scans.cons [] rest .rightParen more hnone (by decide) trivial hrest
  have hparts : ∀ c ∈ (')' :: rest).head?, Parts c := by
    intro c hc
    obtain rfl : ')' = c := Option.some.inj hc
    exact ⟨rfl, by decide, by decide⟩
  exact @Scans.cons [] _ .leftParen _ hnone (by decide) trivial (h.append hclose hparts)

/-- The text of a lexeme has no comma to be left out. -/
theorem filter_text_of_isLexeme {token : Token} (h : token.isLexeme = true) :
    token.text.toList.filter (· != ',') = token.text.toList :=
  List.filter_eq_self.2 fun c hc => bne_iff_ne.2 (not_isBlank_of_isLexeme h c hc).2

theorem filter_group_append (text rest : String) :
    ("(" ++ text ++ ")" ++ rest).toList.filter (· != ',') =
      '(' :: (text.toList.filter (· != ',') ++ ')' :: rest.toList.filter (· != ',')) := by
  have hclose : ")".toList.filter (· != ',') ++ rest.toList.filter (· != ',') =
      ')' :: rest.toList.filter (· != ',') := rfl
  simp only [String.toList_append, List.filter_append, List.append_assoc, hclose]
  rfl

theorem filter_group (text : String) :
    ("(" ++ text ++ ")").toList.filter (· != ',') =
      '(' :: (text.toList.filter (· != ',') ++ [')']) := by
  have hgroup := filter_group_append text ""
  rwa [String.append_empty] at hgroup

/-! ### The tokens of a group -/

/-- The tokens of a group stand in front of those of the rest. -/
theorem tokenize_group_append {rest : String} {more : List Token}
    (h : tokenize (some text) = .ok tokens) (hrest : Scans more (rest.toList.filter (· != ','))) :
    tokenize (some ("(" ++ text ++ ")" ++ rest)) =
      .ok (.leftParen :: (tokens ++ .rightParen :: writeProducts (some .rightParen) more)) := by
  obtain ⟨lexemes, hscans, rfl⟩ := tokenize_eq_ok_iff.1 h
  have hgroup := scans_group hscans hrest
  rw [← filter_group_append] at hgroup
  exact tokenize_eq_ok_iff.2 ⟨_, hgroup, (writeProducts_group rfl lexemes more).symm⟩

theorem tokenize_group (h : tokenize (some text) = .ok tokens) :
    tokenize (some ("(" ++ text ++ ")")) = .ok (.leftParen :: (tokens ++ [.rightParen])) := by
  have hempty : Scans [] ("".toList.filter (· != ',')) := .nil (List.forall_mem_nil _)
  have hgroup := tokenize_group_append h hempty
  rwa [String.append_empty] at hgroup

/-- A lexeme in front of a group leaves the scan of the group as it is. -/
theorem scans_front_group {token : Token} (hlexeme : token.isLexeme = true)
    (h : Scans tokens (text.toList.filter (· != ','))) :
    Scans (token :: .leftParen :: (tokens ++ [.rightParen]))
      ((token.text ++ ("(" ++ text ++ ")")).toList.filter (· != ',')) := by
  have hgroup : Scans (.leftParen :: (tokens ++ [.rightParen]))
      ('(' :: (text.toList.filter (· != ',') ++ [')'])) :=
    scans_group h (.nil (List.forall_mem_nil _))
  have hfront := Scans.lexeme hlexeme hgroup fun c hc => by
    obtain rfl : '(' = c := Option.some.inj hc
    exact ⟨rfl, by decide, by decide⟩
  rw [String.toList_append, List.filter_append, filter_text_of_isLexeme hlexeme, filter_group]
  exact hfront

theorem tokenize_front_group {token : Token} (hlexeme : token.isLexeme = true)
    (hproduct : impliesProduct (some token) .leftParen = false)
    (h : tokenize (some text) = .ok tokens) :
    tokenize (some (token.text ++ ("(" ++ text ++ ")"))) =
      .ok (token :: .leftParen :: (tokens ++ [.rightParen])) := by
  obtain ⟨lexemes, hscans, rfl⟩ := tokenize_eq_ok_iff.1 h
  have hwrite : writeProducts none (token :: .leftParen :: (lexemes ++ [.rightParen])) =
      token :: .leftParen :: (writeProducts none lexemes ++ [.rightParen]) :=
    congrArg (token :: ·) (writeProducts_group hproduct lexemes [])
  exact tokenize_eq_ok_iff.2 ⟨_, scans_front_group hlexeme hscans, hwrite.symm⟩

/-- Two groups with an operator between them. -/
theorem tokenize_operator_groups {tokensLeft tokensRight : List Token} (o : BinaryOperation)
    (hl : tokenize (some left) = .ok tokensLeft) (hr : tokenize (some right) = .ok tokensRight) :
    tokenize (some ("(" ++ left ++ ")" ++ (o.symbol ++ ("(" ++ right ++ ")")))) =
      .ok (.leftParen :: (tokensLeft ++ [.rightParen]) ++
        ⟨.operator, o.symbol⟩ :: .leftParen :: (tokensRight ++ [.rightParen])) := by
  obtain ⟨lexemes, hscans, rfl⟩ := tokenize_eq_ok_iff.1 hr
  have hlexeme : Token.isLexeme ⟨.operator, o.symbol⟩ = true := by cases o <;> decide
  have hwrite : writeProducts (some .rightParen)
      (⟨.operator, o.symbol⟩ :: .leftParen :: (lexemes ++ [.rightParen])) =
      ⟨.operator, o.symbol⟩ :: .leftParen :: (writeProducts none lexemes ++ [.rightParen]) :=
    congrArg (_ :: ·) (writeProducts_group rfl lexemes [])
  have hgroups := tokenize_group_append hl (scans_front_group hlexeme hscans)
  rw [hwrite] at hgroups
  rw [List.cons_append, List.append_assoc]
  exact hgroups

/-- Between two groups a product is implied. -/
theorem tokenize_groups {tokensLeft tokensRight : List Token}
    (hl : tokenize (some left) = .ok tokensLeft) (hr : tokenize (some right) = .ok tokensRight) :
    tokenize (some ("(" ++ left ++ ")" ++ ("(" ++ right ++ ")"))) =
      .ok (.leftParen :: (tokensLeft ++ [.rightParen]) ++
        .times :: .leftParen :: (tokensRight ++ [.rightParen])) := by
  obtain ⟨lexemes, hscans, rfl⟩ := tokenize_eq_ok_iff.1 hr
  have hgroup : Scans (.leftParen :: (lexemes ++ [.rightParen]))
      (("(" ++ right ++ ")").toList.filter (· != ',')) := by
    rw [filter_group]
    exact scans_group hscans (.nil (List.forall_mem_nil _))
  have hwrite : writeProducts (some .rightParen) (.leftParen :: (lexemes ++ [.rightParen])) =
      .times :: .leftParen :: (writeProducts none lexemes ++ [.rightParen]) := by
    rw [writeProducts_of_implies rfl]
    exact congrArg (_ :: ·) (writeProducts_group rfl lexemes [])
  have hgroups := tokenize_group_append hl hgroup
  rw [hwrite] at hgroups
  rw [List.cons_append, List.append_assoc]
  exact hgroups

end Calculator
