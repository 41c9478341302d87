import Calculator.Json.Reader
import Calculator.Json.Writer

/-!
# Strings are read back

A string is written with an escape for the quotes, the backslash and the characters
below the blank, and with its other characters as they are.  The reader takes the
characters one by one: whatever has been read of a string, the text of a character adds
just that character (`lexemesFrom?_escapedChar`).  The closing quotes turn what has been
collected into a text, with pairs of halves put together, of which there are none.
-/

namespace Calculator.Json

open Calculator.Text

variable {pieces : List Piece} {text : List Char} {rest : List Point}

/-! ### One character on -/

theorem lexemesFrom?_cons (place : Place) (c : Char) (rest : List Point) :
    lexemesFrom? place (.char c :: rest) =
      (place.step? c).bind fun (place, ended) => (lexemesFrom? place rest).map (ended ++ ·) := by
  rw [lexemesFrom?]
  cases place.step? c with
  | none => rfl
  | some result =>
      show ((lexemesFrom? result.1 rest).bind fun more => some (result.2 ++ more)) =
        (lexemesFrom? result.1 rest).map (result.2 ++ ·)
      cases lexemesFrom? result.1 rest <;> rfl

/-- A character that ends no lexeme only moves the place. -/
theorem lexemesFrom?_of_step {place next : Place} {c : Char} (h : place.step? c = some (next, []))
    (rest : List Point) : lexemesFrom? place (.char c :: rest) = lexemesFrom? next rest := by
  rw [lexemesFrom?_cons, h]
  simp

/-! ### Escapes -/

/-- The escape of a character that has a short one. -/
theorem lexemesFrom?_shortEscape {letter c : Char} (hletter : letter ≠ 'u')
    (h : shortEscape? letter = some c) (rest : List Point) :
    lexemesFrom? (.string pieces) (.char '\\' :: .char letter :: rest) =
      lexemesFrom? (.string (.point (.char c) :: pieces)) rest := by
  have hopen : (Place.string pieces).step? '\\' = some (.escape pieces, []) := rfl
  have hclose : (Place.escape pieces).step? letter =
      some (.string (.point (.char c) :: pieces), []) := by
    simp only [Place.step?, if_neg hletter, h, Option.map_some]
  rw [lexemesFrom?_of_step hopen, lexemesFrom?_of_step hclose]

/-- Four places give a unit. -/
theorem lexemesFrom?_unit {a b c d : Char} {i j k l : Nat} (ha : hexValue? a = some i)
    (hb : hexValue? b = some j) (hc : hexValue? c = some k) (hd : hexValue? d = some l)
    (rest : List Point) :
    lexemesFrom? (.string pieces) ((['\\', 'u', a, b, c, d].map .char) ++ rest) =
      lexemesFrom? (.string (.ofUnit (16 * (16 * (16 * i + j) + k) + l) :: pieces)) rest := by
  have hopen : (Place.string pieces).step? '\\' = some (.escape pieces, []) := rfl
  have hunit : (Place.escape pieces).step? 'u' = some (.hex pieces 0 0, []) := rfl
  have hfirst : (Place.hex pieces 0 0).step? a = some (.hex pieces 1 i, []) := by
    simp [Place.step?, ha]
  have hsecond : (Place.hex pieces 1 i).step? b = some (.hex pieces 2 (16 * i + j), []) := by
    simp [Place.step?, hb]
  have hthird : (Place.hex pieces 2 (16 * i + j)).step? c =
      some (.hex pieces 3 (16 * (16 * i + j) + k), []) := by
    simp [Place.step?, hc]
  have hfourth : (Place.hex pieces 3 (16 * (16 * i + j) + k)).step? d =
      some (.string (.ofUnit (16 * (16 * (16 * i + j) + k) + l) :: pieces), []) := by
    simp [Place.step?, hd]
  simp only [List.map_cons, List.map_nil, List.cons_append, List.nil_append]
  rw [lexemesFrom?_of_step hopen, lexemesFrom?_of_step hunit, lexemesFrom?_of_step hfirst,
    lexemesFrom?_of_step hsecond, lexemesFrom?_of_step hthird, lexemesFrom?_of_step hfourth]

theorem hexValue?_hexText : ∀ n < 0x20,
    (hexText 4 n).map hexValue? = [some 0, some 0, some (n / 16), some (n % 16)] := by
  decide

/-- A unit below the halves is a character. -/
theorem ofUnit_of_lt {n : Nat} (h : n < 0xd800) : Piece.ofUnit n = .point (.char (.ofNat n)) := by
  have hpoint : Point.ofCode n = .char (.ofNat n) := if_neg (by simp; omega)
  rw [Piece.ofUnit, hpoint]

/-- The long escape of a character below the blank. -/
theorem lexemesFrom?_pointEscape {c : Char} (h : c.toNat < 0x20) (rest : List Point) :
    lexemesFrom? (.string pieces) ((pointEscape c.toNat).map .char ++ rest) =
      lexemesFrom? (.string (.point (.char c) :: pieces)) rest := by
  have hplaces := hexValue?_hexText c.toNat h
  obtain ⟨i, places, htext, hi, hplaces⟩ := List.map_eq_cons_iff.1 hplaces
  obtain ⟨j, places, rfl, hj, hplaces⟩ := List.map_eq_cons_iff.1 hplaces
  obtain ⟨k, places, rfl, hk, hplaces⟩ := List.map_eq_cons_iff.1 hplaces
  obtain ⟨l, places, rfl, hl, hplaces⟩ := List.map_eq_cons_iff.1 hplaces
  obtain rfl := List.map_eq_nil_iff.1 hplaces
  have hunit : 16 * (16 * (16 * 0 + 0) + c.toNat / 16) + c.toNat % 16 = c.toNat := by omega
  rw [pointEscape, if_pos (by omega), unitEscape, htext, lexemesFrom?_unit hi hj hk hl, hunit,
    ofUnit_of_lt (by omega), Char.ofNat_toNat]

/-- A character that stands for itself. -/
theorem lexemesFrom?_plain {c : Char} (hquote : c ≠ '\x22') (hslash : c ≠ '\\')
    (hblank : ¬ c.toNat < 0x20) (rest : List Point) :
    lexemesFrom? (.string pieces) (.char c :: rest) =
      lexemesFrom? (.string (.point (.char c) :: pieces)) rest := by
  refine lexemesFrom?_of_step ?_ rest
  simp only [Place.step?, if_neg hquote, if_neg hslash, if_neg hblank]

/-- **One character** is read as it was written. -/
theorem lexemesFrom?_escapedChar (c : Char) (rest : List Point) :
    lexemesFrom? (.string pieces) ((escapedChar false c).map .char ++ rest) =
      lexemesFrom? (.string (.point (.char c) :: pieces)) rest := by
  unfold escapedChar
  split
  · next hquoted =>
      refine lexemesFrom?_shortEscape ?_ ?_ rest <;>
        rcases Bool.or_eq_true_iff.1 hquoted with h | h <;>
          rw [of_decide_eq_true h] <;> decide
  next hquoted =>
  have hquote : c ≠ '\x22' := fun h => hquoted (by simp [h])
  have hslash : c ≠ '\\' := fun h => hquoted (by simp [h])
  split
  · next h => exact h ▸ lexemesFrom?_shortEscape (by decide) rfl rest
  split
  · next h => exact h ▸ lexemesFrom?_shortEscape (by decide) rfl rest
  split
  · next h => exact h ▸ lexemesFrom?_shortEscape (by decide) rfl rest
  split
  · next h => exact h ▸ lexemesFrom?_shortEscape (by decide) rfl rest
  split
  · next h => exact h ▸ lexemesFrom?_shortEscape (by decide) rfl rest
  split
  · next hlow =>
      exact lexemesFrom?_pointEscape (by simpa using hlow) rest
  · next hlow =>
      exact lexemesFrom?_plain hquote hslash (by simpa using hlow) rest

/-- **All characters** in turn. -/
theorem lexemesFrom?_escaped (pieces : List Piece) (text : List Char) (rest : List Point) :
    lexemesFrom? (.string pieces) ((text.flatMap (escapedChar false)).map .char ++ rest) =
      lexemesFrom? (.string (((text.map .char).map .point).reverse ++ pieces)) rest := by
  induction text generalizing pieces with
  | nil => rfl
  | cons c text ih =>
      rw [List.flatMap_cons, List.map_append, List.append_assoc, lexemesFrom?_escapedChar, ih]
      simp

/-- **A string is read back.** -/
theorem lexemesFrom?_stringText (text : String) (rest : List Point) :
    lexemesFrom? .between (points (stringText false text) ++ rest) =
      (lexemesFrom? .between rest).map (.scalar (.text (points text)) :: ·) := by
  have hopen : Place.between.step? '\x22' = some (.string [], []) := rfl
  have hclose : (Place.string ((points text).map .point).reverse).step? '\x22' =
      some (.between, [.scalar (.text (points text))]) := by
    simp only [Place.step?, if_true, List.reverse_reverse, assembled_map_point]
  rw [stringText, points, String.toList_ofList, List.cons_append, List.map_cons, List.map_append,
    List.cons_append, lexemesFrom?_of_step hopen, List.append_assoc, lexemesFrom?_escaped,
    List.append_nil]
  show lexemesFrom? (.string ((points text).map .point).reverse) (.char '\x22' :: rest) = _
  rw [lexemesFrom?_cons, hclose]
  rfl

end Calculator.Json
