import Calculator.Proofs.Outcome
import Calculator.Session

/-!
# The unit that a request is answered under

A request gives the unit of angles by its short name, or it leaves it to the settings:
by an empty field, or by none at all (`UnitField`).  A name that a request may give is
always understood, and so is the name that settings have, since settings with any
other name do not come about.  So finding the unit fails in one case only: no unit is
given, and the settings are misconfigured (`resolve_eq_error_iff`).
-/

namespace Calculator

variable {environment : Environment} {settings : Settings} {failure : Failure}

/-! ### Settings -/

namespace Settings

theorem exists_cause_of_readThreshold {raw : String} (h : readThreshold raw = .error failure) :
    ∃ cause, failure = .misconfiguration cause := by
  simp only [readThreshold] at h
  split at h
  · cases h
  · exact ⟨_, (Except.error.inj h).symm⟩

theorem exists_cause_of_readAngleName {raw : String} (h : readAngleName raw = .error failure) :
    ∃ cause, failure = .misconfiguration cause := by
  simp only [readAngleName] at h
  split at h
  · cases h
  · exact ⟨_, (Except.error.inj h).symm⟩

theorem exists_cause_of_readTruth {raw : String} (h : readTruth raw = .error failure) :
    ∃ cause, failure = .misconfiguration cause := by
  simp only [readTruth] at h
  split at h
  · cases h
  · split at h
    · cases h
    · exact ⟨_, (Except.error.inj h).symm⟩

theorem exists_cause_of_readPort {setting : Setting} {raw : String}
    (h : readPort setting raw = .error failure) : ∃ cause, failure = .misconfiguration cause := by
  unfold readPort at h
  split at h
  · exact ⟨_, (Except.error.inj h).symm⟩
  · split at h
    · cases h
    · exact ⟨_, (Except.error.inj h).symm⟩

/-- Settings that do not come about are misconfigured. -/
theorem exists_cause_of_ofEnvironment (h : ofEnvironment environment = .error failure) :
    ∃ cause, failure = .misconfiguration cause := by
  unfold ofEnvironment at h
  rcases bind_eq_error_iff.1 h with hlevel | ⟨_, -, h⟩
  · exact exists_cause_of_readThreshold hlevel
  rcases bind_eq_error_iff.1 h with hangle | ⟨_, -, h⟩
  · exact exists_cause_of_readAngleName hangle
  rcases bind_eq_error_iff.1 h with hlog | ⟨_, -, h⟩
  · exact exists_cause_of_readTruth hlog
  rcases bind_eq_error_iff.1 h with htools | ⟨_, -, h⟩
  · exact exists_cause_of_readPort htools
  rcases bind_eq_error_iff.1 h with hweb | ⟨_, -, h⟩
  · exact exists_cause_of_readPort hweb
  · cases h

theorem mem_angleNames_of_readAngleName {raw name : String} (h : readAngleName raw = .ok name) :
    name ∈ angleNames := by
  simp only [readAngleName] at h
  split at h
  · next hmem =>
      rw [← Except.ok.inj h]
      exact List.contains_iff_mem.1 hmem
  · cases h

/-- Settings have one of the names of units. -/
theorem angleName_mem_of_ofEnvironment (h : ofEnvironment environment = .ok settings) :
    settings.angleName ∈ angleNames := by
  unfold ofEnvironment at h
  obtain ⟨threshold, -, h⟩ := bind_eq_ok_iff.1 h
  obtain ⟨name, hname, h⟩ := bind_eq_ok_iff.1 h
  obtain ⟨logJson, -, h⟩ := bind_eq_ok_iff.1 h
  obtain ⟨mcpPort, -, h⟩ := bind_eq_ok_iff.1 h
  obtain ⟨webPort, -, h⟩ := bind_eq_ok_iff.1 h
  cases h
  exact mem_angleNames_of_readAngleName hname

end Settings

/-! ### Units by name -/

namespace AngleUnit

@[simp] theorem ofText?_name (unit : AngleUnit) : ofText? unit.name = some unit := by
  cases unit <;> decide

theorem isSome_ofText?_of_mem {name : String} (h : name ∈ Settings.angleNames) :
    (ofText? name).isSome = true := by
  revert name
  decide

theorem ofValue_text_eq_ok_iff {name : String} {unit : AngleUnit} :
    ofValue (.text name) = .ok unit ↔ ofText? name = some unit := by
  unfold ofValue
  cases hname : ofText? name with
  | none => simp only [hname, reduceCtorEq]
  | some found => simp only [hname, Except.ok.injEq, Option.some.injEq]

end AngleUnit

/-- How a request gives the unit of angles: by no field, by an empty one, or by one
with the short name of a unit. -/
inductive UnitField where
  | absent
  | empty
  | named (unit : AngleUnit)
  deriving DecidableEq, Repr

namespace UnitField

/-- What stands in the field, if there is one. -/
def value? : UnitField → Option Value
  | absent => none
  | empty => some .null
  | named unit => some (.text unit.name)

/-- What the tools are given for it. -/
def value (field : UnitField) : Value :=
  field.value?.getD .null

/-- The unit that is given, if one is. -/
def unit? : UnitField → Option AngleUnit
  | absent | empty => none
  | named unit => some unit

theorem eq_named_of_unit? {field : UnitField} {unit : AngleUnit} (h : field.unit? = some unit) :
    field = named unit := by
  cases field with
  | absent | empty => cases h
  | named given => exact congrArg named (Option.some.inj h)

end UnitField

namespace AngleUnit

/-- The unit that a request is answered under: the one given, or else the one that the
settings of the environment have. -/
def Resolved (environment : Environment) (given : Option AngleUnit) (unit : AngleUnit) : Prop :=
  given = some unit ∨
    given = none ∧ ∃ settings, Settings.ofEnvironment environment = .ok settings ∧
      ofText? settings.angleName = some unit

theorem resolve_named (settings : Except Failure Settings) (unit : AngleUnit) :
    resolve settings (UnitField.named unit).value = .ok unit := by
  show ofValue (.text unit.name) = .ok unit
  exact ofValue_text_eq_ok_iff.2 (ofText?_name unit)

/-- Without a unit given, the settings are asked. -/
theorem resolve_of_unit?_eq_none {field : UnitField} (h : field.unit? = none)
    (settings : Except Failure Settings) :
    resolve settings field.value =
      settings.bind fun settings => ofValue (.text settings.angleName) := by
  cases field with
  | absent | empty => rfl
  | named unit => cases h

theorem exists_ofText?_of_settings (h : Settings.ofEnvironment environment = .ok settings) :
    ∃ unit, ofText? settings.angleName = some unit :=
  Option.isSome_iff_exists.1 (isSome_ofText?_of_mem (Settings.angleName_mem_of_ofEnvironment h))

theorem resolve_eq_ok_iff {field : UnitField} {unit : AngleUnit} :
    resolve (Settings.ofEnvironment environment) field.value = .ok unit ↔
      Resolved environment field.unit? unit := by
  unfold Resolved
  cases hfield : field.unit? with
  | some given =>
      obtain rfl := UnitField.eq_named_of_unit? hfield
      rw [resolve_named]
      simp
  | none =>
      rw [resolve_of_unit?_eq_none hfield]
      cases Settings.ofEnvironment environment with
      | error failure => simp [Except.bind]
      | ok settings => simp [Except.bind, ofValue_text_eq_ok_iff]

/-- **Finding the unit fails in one case only:** none is given, and the settings are
misconfigured. -/
theorem resolve_eq_error_iff {field : UnitField} :
    resolve (Settings.ofEnvironment environment) field.value = .error failure ↔
      field.unit? = none ∧ Settings.ofEnvironment environment = .error failure := by
  cases hfield : field.unit? with
  | some given =>
      obtain rfl := UnitField.eq_named_of_unit? hfield
      rw [resolve_named]
      simp
  | none =>
      rw [resolve_of_unit?_eq_none hfield]
      cases hsettings : Settings.ofEnvironment environment with
      | error failure => simp [Except.bind]
      | ok settings =>
          obtain ⟨unit, hunit⟩ := exists_ofText?_of_settings hsettings
          simp [Except.bind, ofValue_text_eq_ok_iff.2 hunit]

/-- A value that gives no unit is told as such, and if it is a text, no unit has that
name. -/
theorem ofValue_eq_error {value : Value} (h : ofValue value = .error failure) :
    (∀ name, value = .text name → ofText? name = none) ∧
      failure = .refusal (.unknownAngleUnit value) := by
  cases value with
  | text name =>
      unfold ofValue at h
      cases hname : ofText? name with
      | some unit =>
          simp only [hname] at h
          cases h
      | none =>
          simp only [hname] at h
          refine ⟨fun other hother => ?_, (Except.error.inj h).symm⟩
          rw [← Value.text.inj hother, hname]
  | null | truth | whole | number | list | record =>
      exact ⟨nofun, (Except.error.inj h).symm⟩

/-- Of a value of any kind, finding the unit fails for one of two causes. -/
theorem resolve_error_cases {given : Value}
    (h : resolve (Settings.ofEnvironment environment) given = .error failure) :
    (∃ cause, Settings.ofEnvironment environment = .error (.misconfiguration cause) ∧
        failure = .misconfiguration cause) ∨
      given ≠ .null ∧ (∀ name, given = .text name → ofText? name = none) ∧
        failure = .refusal (.unknownAngleUnit given) := by
  cases given with
  | null =>
      have hempty : resolve (Settings.ofEnvironment environment) UnitField.empty.value =
          .error failure := h
      obtain ⟨-, hsettings⟩ := resolve_eq_error_iff.1 hempty
      obtain ⟨cause, rfl⟩ := Settings.exists_cause_of_ofEnvironment hsettings
      exact Or.inl ⟨cause, hsettings, rfl⟩
  | truth | whole | number | text | list | record => exact Or.inr ⟨nofun, ofValue_eq_error h⟩

end AngleUnit

end Calculator
