import Calculator.Proofs.Lexing.Products
import Calculator.Proofs.Lexing.Seams
import Calculator.Proofs.Outcome

/-!
# Tokens on one line

Which rows of tokens texts have, and that every such row is read back from the
line it is written on.

The tokens of a text are lexemes, with a product wherever one is meant; writing
products out a second time changes nothing, so no two neighbours imply one any
more.  Conversely, take a row of lexemes in which no two neighbours imply a
product.  On a line a blank stands between any two of them.  No lexeme goes on
with a blank, so the scan finds the row as it is, two numbers side by side among
others, and then there is no product left to write.
-/

namespace Calculator

open Lexeme

variable {tokens : List Token}

/-! ### Writing products out twice -/

@[simp] theorem impliesProduct_after_times (token : Token) :
    impliesProduct (some .times) token = false := by
  obtain ⟨kind, text⟩ := token
  cases kind <;> rfl

theorem writeProducts_writeProducts (previous : Option Token) (tokens : List Token) :
    writeProducts previous (writeProducts previous tokens) = writeProducts previous tokens := by
  induction tokens generalizing previous with
  | nil => rfl
  | cons token rest ih =>
      cases himplied : impliesProduct previous token with
      | true => simp [writeProducts, himplied, ih]
      | false => simp [writeProducts, himplied, ih]

/-! ### The line -/

theorem toList_line_cons (token next : Token) (rest : List Token) :
    (Token.line (token :: next :: rest)).toList =
      token.text.toList ++ ' ' :: (Token.line (next :: rest)).toList := by
  show (token.text ++ " " ++ Token.line (next :: rest)).toList = _
  rw [String.toList_append, String.toList_append, List.append_assoc]
  rfl

theorem scans_line (h : ∀ token ∈ tokens, token.isLexeme = true) :
    Scans tokens (Token.line tokens).toList := by
  induction tokens with
  | nil => exact .nil (List.forall_mem_nil _)
  | cons token rest ih =>
      obtain ⟨htoken, hrest⟩ := List.forall_mem_cons.1 h
      cases rest with
      | nil =>
          have hlast := Scans.lexeme htoken (.nil (List.forall_mem_nil _)) (fun _ hc => nomatch hc)
          rwa [List.append_nil] at hlast
      | cons next rest =>
          have hblank : Text.isBlank ' ' = true := by decide
          rw [toList_line_cons]
          refine Scans.lexeme htoken (scans_blank hblank (ih hrest)) fun c hc => ?_
          obtain rfl : ' ' = c := Option.some.inj hc
          exact parts_of_isBlank hblank

theorem lexemes_line (h : ∀ token ∈ tokens, token.isLexeme = true) :
    lexemes (some (Token.line tokens)) = .ok tokens :=
  lexemes_of_scans (scans_line h)

/-! ### There and back -/

theorem tokenize_line (h : ∀ token ∈ tokens, token.isLexeme = true)
    (hexplicit : tokens.IsChain fun left right => impliesProduct (some left) right = false) :
    tokenize (some (Token.line tokens)) = .ok tokens := by
  have hwrite : writeProducts none tokens = tokens :=
    writeProducts_eq_self_iff.2 ⟨fun _ _ => rfl, hexplicit⟩
  rw [tokenize, lexemes_line h]
  exact congrArg Except.ok hwrite

/-- The tokens of a text are lexemes, and no two neighbours imply a product. -/
theorem explicit_of_tokenize {expression : Option String} (h : tokenize expression = .ok tokens) :
    (∀ token ∈ tokens, token.isLexeme = true) ∧
      tokens.IsChain fun left right => impliesProduct (some left) right = false := by
  obtain ⟨found, hfound, hok⟩ := bind_eq_ok_iff.1 h
  cases hok
  have hlexeme := isLexeme_of_scans (readFrom_eq_ok_iff.1 hfound)
  have hexplicit := writeProducts_eq_self_iff.1 (writeProducts_writeProducts none found)
  exact ⟨forall_mem_writeProducts (by decide) hlexeme, hexplicit.2⟩

/-- **The rows of tokens that texts have** are the rows of lexemes in which no
two neighbours imply a product, and each of them is read back from its line. -/
theorem tokenize_image (tokens : List Token) :
    ((∃ text, tokenize (some text) = .ok tokens) ↔
      (∀ token ∈ tokens, token.isLexeme = true) ∧
        tokens.IsChain fun left right => impliesProduct (some left) right = false) ∧
    (((∀ token ∈ tokens, token.isLexeme = true) ∧
        tokens.IsChain fun left right => impliesProduct (some left) right = false) →
      tokenize (some (Token.line tokens)) = .ok tokens) ∧
    ∀ text, tokenize (some text) = .ok tokens →
      tokenize (some (Token.line tokens)) = .ok tokens := by
  refine ⟨⟨?_, fun h => ⟨_, tokenize_line h.1 h.2⟩⟩, fun h => tokenize_line h.1 h.2, ?_⟩
  · rintro ⟨text, htext⟩
    exact explicit_of_tokenize htext
  · intro text htext
    obtain ⟨hlexeme, hexplicit⟩ := explicit_of_tokenize htext
    exact tokenize_line hlexeme hexplicit

/-- Two numbers side by side, a number that starts with its point and a name that
starts with a constant. -/
theorem tokenize_line_of_neighbours :
    (∀ token ∈ [⟨.number, "2"⟩, ⟨.number, ".5"⟩, .times, ⟨.function, "exp"⟩, ⟨.constant, "e"⟩],
      Token.isLexeme token = true) ∧
    List.IsChain (fun left right => impliesProduct (some left) right = false)
      [⟨.number, "2"⟩, ⟨.number, ".5"⟩, .times, ⟨.function, "exp"⟩, ⟨.constant, "e"⟩] ∧
    tokenize (some "2 .5 * exp e") = .ok
      [⟨.number, "2"⟩, ⟨.number, ".5"⟩, .times, ⟨.function, "exp"⟩, ⟨.constant, "e"⟩] := by
  have hlexeme : ∀ token ∈
      [⟨.number, "2"⟩, ⟨.number, ".5"⟩, .times, ⟨.function, "exp"⟩, ⟨.constant, "e"⟩],
      Token.isLexeme token = true := by decide
  have hexplicit : List.IsChain (fun left right => impliesProduct (some left) right = false)
      [⟨.number, "2"⟩, ⟨.number, ".5"⟩, .times, ⟨.function, "exp"⟩, ⟨.constant, "e"⟩] := by
    decide
  obtain ⟨-, hline, -⟩ := tokenize_image
    [⟨.number, "2"⟩, ⟨.number, ".5"⟩, .times, ⟨.function, "exp"⟩, ⟨.constant, "e"⟩]
  exact ⟨hlexeme, hexplicit, hline ⟨hlexeme, hexplicit⟩⟩

end Calculator
