import Calculator.Text.Point
import Calculator.Value

/-!
# What JSON texts write

JSON texts can write more than the values of the program: texts in which halves
of surrogate pairs stand alone, and records in which a name comes again.  A datum
keeps both as they are written.
-/

namespace Calculator.Json

open Calculator.Text

inductive Datum where
  | null
  | truth (b : Bool)
  | whole (n : Int)
  | number (x : Float)
  | text (s : List Point)
  | list (items : List Datum)
  | record (fields : List (List Point × Datum))
  deriving Inhabited

namespace Datum

mutual

def ofValue : Value → Datum
  | .null => null
  | .truth b => truth b
  | .whole n => whole n
  | .number x => number x
  | .text s => text (points s)
  | .list items => list (ofItems items)
  | .record fields => record (ofFields fields)

def ofItems : List Value → List Datum
  | [] => []
  | item :: rest => ofValue item :: ofItems rest

def ofFields : List (String × Value) → List (List Point × Datum)
  | [] => []
  | (name, value) :: rest => (points name, ofValue value) :: ofFields rest

end

/-- A field as it is written, of a name of the program. -/
def written (field : String × Datum) : List Point × Datum :=
  (points field.1, field.2)

/-- The fields of a record by their names, if these are texts of the program.  Of
a name that comes again the last value counts, in the place of the first. -/
def fields? (fields : List (List Point × Datum)) : Option (Fields Datum) := do
  let named ← fields.mapM fun (name, datum) => (plain? name).map (·, datum)
  return Fields.update [] named

theorem ofItems_eq_map (items : List Value) : ofItems items = items.map ofValue := by
  induction items with
  | nil => rfl
  | cons item rest ih => rw [ofItems, ih, List.map_cons]

theorem ofFields_eq_map (fields : Fields Value) :
    ofFields fields = fields.map fun field => written (field.1, ofValue field.2) := by
  induction fields with
  | nil => rfl
  | cons field rest ih => rw [ofFields, ih, List.map_cons]; rfl

theorem fields?_map_written {fields : Fields Datum} (h : fields.names.Nodup) :
    fields? (fields.map written) = some fields := by
  have hnamed : (fields.map written).mapM (fun (name, datum) => (plain? name).map (·, datum)) =
      some fields := by
    induction fields with
    | nil => rfl
    | cons field rest ih =>
        rw [List.map_cons, List.mapM_cons, ih (List.nodup_cons.1 h).2]
        simp [written]
  unfold fields?
  rw [hnamed]
  exact congrArg some (Fields.update_of_disjoint h fun _ _ => List.not_mem_nil)

end Datum

end Calculator.Json
