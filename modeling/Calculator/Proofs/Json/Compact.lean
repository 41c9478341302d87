import Calculator.Json.Writer

/-!
# The compact style

A record on one line: its fields with commas in between, each a name, a colon and a
value.  So the first fields of a record come first in its text, whatever follows.
-/

namespace Calculator.Json

/-- A field as it is written. -/
def compactField (depth : Nat) (field : String × Value) : String :=
  stringText false field.1 ++ ":" ++ writeAt .compact depth field.2

theorem writeFields_compact (depth : Nat) (fields : Fields Value) :
    writeFields .compact depth fields = fields.map (compactField depth) := by
  induction fields with
  | nil => rfl
  | cons field rest ih => exact congrArg (compactField depth field :: ·) ih

theorem writeItems_compact (depth : Nat) (items : List Value) :
    writeItems .compact depth items = items.map (writeAt .compact depth) := by
  induction items with
  | nil => rfl
  | cons item rest ih => exact congrArg (writeAt .compact depth item :: ·) ih

theorem bracketed_compact (depth : Nat) (left right : String) (items : List String) :
    Style.compact.bracketed depth left right items = left ++ Text.join "," items ++ right := by
  cases items with
  | nil =>
      show left ++ right = left ++ "" ++ right
      rw [String.append_empty]
  | cons first rest =>
      show left ++ "" ++ Text.join ("," ++ "") (first :: rest) ++ "" ++ right = _
      rw [String.append_empty, String.append_empty, String.append_empty]

theorem writeAt_compact_record (depth : Nat) (fields : Fields Value) :
    writeAt .compact depth (.record fields) =
      "\x7b" ++ Text.join "," (fields.map (compactField (depth + 1))) ++ "\x7d" := by
  rw [writeAt, bracketed_compact, writeFields_compact]

theorem writeAt_compact_list (depth : Nat) (items : List Value) :
    writeAt .compact depth (.list items) =
      "[" ++ Text.join "," (items.map (writeAt .compact (depth + 1))) ++ "]" := by
  rw [writeAt, bracketed_compact, writeItems_compact]

/-- The first two fields of a record come first. -/
theorem exists_rest_of_record (depth : Nat) (first second : String × Value)
    (others : Fields Value) :
    ∃ rest, writeAt .compact depth (.record (first :: second :: others)) =
      "\x7b" ++ compactField (depth + 1) first ++ "," ++ compactField (depth + 1) second ++
        rest := by
  rw [writeAt_compact_record]
  cases others with
  | nil =>
      refine ⟨"\x7d", ?_⟩
      simp only [List.map_cons, List.map_nil, Text.join, String.append_assoc]
  | cons third others =>
      refine ⟨"," ++ (Text.join "," ((third :: others).map (compactField (depth + 1))) ++
        "\x7d"), ?_⟩
      simp only [List.map_cons, Text.join, String.append_assoc]

end Calculator.Json
