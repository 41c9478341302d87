import Calculator.Juxtaposition
import Calculator.Proofs.Lexing.Seams

/-!
# What cleaning leaves

A cleaned text has no comma, and no blank at its ends.  So there is nothing more to clean
(`sanitize_sanitize`), and a text has the same lexemes and tokens as what is left of it.

Cleaning forgets commas wherever they are and blanks at the ends, in whatever order they
were put there (`sanitize_of_padded`).  No blank is a comma, so taking out the commas
first uncovers the blanks that stood between them, and trimming takes these off too.
-/

namespace Calculator

open Calculator.Text

variable {p : Char → Bool} {front back text more : List Char}

/-! ### Stripping -/

namespace Text

theorem strip_append_left (h : ∀ c ∈ front, p c = true) :
    strip p (front ++ text) = strip p text := by
  unfold strip
  rw [List.dropWhile_append_of_pos h]

theorem strip_append_right (h : ∀ c ∈ back, p c = true) :
    strip p (text ++ back) = strip p text := by
  unfold strip
  by_cases hall : text.dropWhile p = []
  · have hback : back.dropWhile p = [] := List.dropWhile_eq_nil_iff.2 h
    simp [List.dropWhile_append, hall, hback]
  · have hreverse : ∀ c ∈ back.reverse, p c = true :=
      fun c hc => h c (List.mem_reverse.1 hc)
    rw [List.dropWhile_append, if_neg (by simpa using hall), List.reverse_append,
      List.dropWhile_append_of_pos hreverse]

theorem strip_strip (p : Char → Bool) (text : List Char) :
    strip p (strip p text) = strip p text := by
  obtain ⟨front, back, htext, hfront, hback⟩ := Lexeme.exists_blanks_around p text
  calc strip p (strip p text)
      = strip p (strip p text ++ back) := (strip_append_right hback).symm
    _ = strip p (front ++ (strip p text ++ back)) := (strip_append_left hfront).symm
    _ = strip p text := by rw [← htext]

theorem mem_of_mem_strip {c : Char} (h : c ∈ strip p text) : c ∈ text := by
  obtain ⟨front, back, htext, -, -⟩ := Lexeme.exists_blanks_around p text
  rw [htext]
  exact List.mem_append_right _ (List.mem_append_left _ h)

theorem not_head_dropWhile (p : Char → Bool) (text : List Char) :
    ∀ c ∈ (text.dropWhile p).head?, p c = false := by
  intro c hc
  have hhead := List.head?_dropWhile_not p text
  rwa [hc] at hhead

theorem not_getLast_strip (p : Char → Bool) (text : List Char) :
    ∀ c ∈ (strip p text).getLast?, p c = false := by
  rw [strip, List.getLast?_reverse]
  exact not_head_dropWhile p _

theorem not_head_strip (p : Char → Bool) (text : List Char) :
    ∀ c ∈ (strip p text).head?, p c = false := by
  intro c hc
  -- what is stripped behind leaves the front as it is
  have hprefix : strip p text <+: text.dropWhile p := by
    have hsuffix : (text.dropWhile p).reverse.dropWhile p <:+ (text.dropWhile p).reverse :=
      List.dropWhile_suffix p
    rwa [← List.reverse_prefix, List.reverse_reverse] at hsuffix
  obtain ⟨back, hback⟩ := hprefix
  refine not_head_dropWhile p text c ?_
  rw [← hback, List.head?_append, hc]
  rfl

end Text

/-! ### A cleaned text -/

/-- A cleaned text neither begins nor ends with a blank. -/
theorem sanitize_ends (expression : Option String) :
    (∀ c ∈ (sanitize expression).toList.head?, isBlank c = false) ∧
      ∀ c ∈ (sanitize expression).toList.getLast?, isBlank c = false := by
  cases expression with
  | none => exact ⟨(fun c hc => nomatch hc), (fun c hc => nomatch hc)⟩
  | some text =>
      rw [sanitize, String.toList_ofList]
      exact ⟨not_head_strip isBlank _, not_getLast_strip isBlank _⟩

theorem comma_notMem_sanitize (expression : Option String) :
    ',' ∉ (sanitize expression).toList := by
  cases expression with
  | none => exact List.not_mem_nil
  | some text =>
      rw [sanitize, String.toList_ofList]
      intro hmem
      have hkept := (List.mem_filter.1 (mem_of_mem_strip hmem)).2
      exact absurd hkept (by decide)

/-- **Cleaning a second time changes nothing.** -/
theorem sanitize_sanitize (expression : Option String) :
    sanitize (some (sanitize expression)) = sanitize expression := by
  have hcomma : (sanitize expression).toList.filter (· != ',') = (sanitize expression).toList := by
    rw [List.filter_eq_self]
    intro c hc
    exact bne_iff_ne.2 fun heq => comma_notMem_sanitize expression (heq ▸ hc)
  rw [sanitize, hcomma]
  cases expression with
  | none => rfl
  | some text => rw [sanitize, String.toList_ofList, strip_strip]

/-- A text that is cleaned keeps its lexemes, and what cannot be read is found at the same
position. -/
theorem lexemes_sanitize (expression : Option String) :
    lexemes (some (sanitize expression)) = lexemes expression := by
  rw [lexemes, lexemes, sanitize_sanitize]

theorem tokenize_sanitize (expression : Option String) :
    tokenize (some (sanitize expression)) = tokenize expression := by
  rw [tokenize, tokenize, lexemes_sanitize]

/-! ### What cleaning forgets -/

/-- A text with commas put in anywhere and blanks put at its ends, in any order. -/
inductive Padded (text : List Char) : List Char → Prop
  | refl : Padded text text
  | comma {front rest : List Char} (h : Padded text (front ++ rest)) :
      Padded text (front ++ ',' :: rest)
  | before {c : Char} {more : List Char} (hc : isBlank c = true) (h : Padded text more) :
      Padded text (c :: more)
  | behind {c : Char} {more : List Char} (hc : isBlank c = true) (h : Padded text more) :
      Padded text (more ++ [c])

theorem Padded.blanks_before (h : Padded text more) (hblanks : ∀ c ∈ front, isBlank c = true) :
    Padded text (front ++ more) := by
  induction front with
  | nil => exact h
  | cons c front ih =>
      obtain ⟨hc, hfront⟩ := List.forall_mem_cons.1 hblanks
      exact .before hc (ih hfront)

theorem Padded.blanks_behind (h : Padded text more) (hblanks : ∀ c ∈ back, isBlank c = true) :
    Padded text (more ++ back) := by
  induction back generalizing more with
  | nil => rwa [List.append_nil]
  | cons c back ih =>
      obtain ⟨hc, hback⟩ := List.forall_mem_cons.1 hblanks
      have hnext := ih (.behind hc h) hback
      rwa [List.append_assoc] at hnext

theorem strip_filter_of_padded (h : Padded text more) :
    strip isBlank (more.filter (· != ',')) = strip isBlank (text.filter (· != ',')) := by
  -- a blank is no comma, so it is still there to be stripped
  have hblank : ∀ {c : Char}, isBlank c = true → [c].filter (· != ',') = [c] := by
    intro c hc
    have hne : c ≠ ',' := by
      rintro rfl
      exact absurd hc (by decide)
    simp [hne]
  induction h with
  | refl => rfl
  | @comma front rest _ ih =>
      rwa [List.filter_append, List.filter_cons_of_neg (by decide), ← List.filter_append]
  | @before c more hc _ ih =>
      rw [← List.singleton_append, List.filter_append, hblank hc,
        strip_append_left (List.forall_mem_singleton.2 hc), ih]
  | @behind c more hc _ ih =>
      rw [List.filter_append, hblank hc, strip_append_right (List.forall_mem_singleton.2 hc), ih]

/-- **Commas and outer blanks leave the cleaned text as it is.** -/
theorem sanitize_of_padded {text other : String} (h : Padded text.toList other.toList) :
    sanitize (some other) = sanitize (some text) := by
  rw [sanitize, sanitize, strip_filter_of_padded h]

/-- Cleaning takes off all blanks that trimming does. -/
theorem sanitize_trim (text : String) : sanitize (some (trim text)) = sanitize (some text) := by
  obtain ⟨front, back, htext, hfront, hback⟩ := Lexeme.exists_blanks_around isBlank text.toList
  have hbehind : Padded (strip isBlank text.toList) (strip isBlank text.toList ++ back) :=
    Padded.refl.blanks_behind hback
  have hends := hbehind.blanks_before hfront
  rw [← htext] at hends
  refine (sanitize_of_padded ?_).symm
  rwa [trim, String.toList_ofList]

end Calculator
