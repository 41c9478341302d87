import Calculator.Text.Blank
import Calculator.Text.Case

/-!
# Angle units

Angles are in degrees or in radians.  A unit is given by name, in any case and
with blanks around it, and is shown by a label of three letters.
-/

namespace Calculator

inductive AngleUnit where
  | degrees
  | radians
  deriving DecidableEq, Repr, Inhabited

namespace AngleUnit

def name : AngleUnit → String
  | degrees => "deg"
  | radians => "rad"

def label : AngleUnit → String
  | degrees => "DEG"
  | radians => "RAD"

/-- The other unit. -/
def toggled : AngleUnit → AngleUnit
  | degrees => radians
  | radians => degrees

@[simp] theorem toggled_toggled (unit : AngleUnit) : unit.toggled.toggled = unit := by
  cases unit <;> rfl

/-- The unit that a text names, long or short, in the singular or the
plural. -/
def ofText? (text : String) : Option AngleUnit :=
  let key := Text.lower (Text.trim text)
  if key = "deg" || key = "degree" || key = "degrees" then some degrees
  else if key = "rad" || key = "radian" || key = "radians" then some radians
  else none

end AngleUnit

end Calculator
