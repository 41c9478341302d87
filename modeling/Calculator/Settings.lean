import Calculator.Failure
import Calculator.Log.Level
import Calculator.Number.Reading

/-!
# Settings

The settings come from named variables.  A variable that is not set has a
default; one that is set to something without meaning is an error, and of
several such the first counts, in the order of levels, angles, the form of the
log and the two ports.
-/

namespace Calculator

open Calculator.Text

/-- The variables that are set. -/
abbrev Environment := String → Option String

structure Settings where
  threshold : Int
  logFile : Option String
  logJson : Bool
  /-- The unit of angles by one of its names. -/
  angleName : String
  mcpPort : Nat
  webPort : Nat
  deriving Repr

namespace Settings

def lookUp (environment : Environment) (setting : Setting) (default : String) : String :=
  (environment setting.variableName).getD default

def readThreshold (raw : String) : Except Failure Int :=
  let name := upper raw
  match Log.thresholdNames.get? name with
  | some threshold => .ok threshold
  | none => .error (.misconfiguration (.unknownLevel name))

def angleNames : List String :=
  ["deg", "degrees", "rad", "radians"]

def readAngleName (raw : String) : Except Failure String :=
  let name := lower (trim raw)
  if angleNames.contains name then .ok name
  else .error (.misconfiguration (.unknownAngleUnit name))

def readTruth (raw : String) : Except Failure Bool :=
  let word := lower (trim raw)
  if ["1", "true", "yes", "on"].contains word then .ok true
  else if ["0", "false", "no", "off", ""].contains word then .ok false
  else .error (.misconfiguration (.notTruth raw))

def readPort (setting : Setting) (raw : String) : Except Failure Nat :=
  match Number.integer? raw with
  | none => .error (.misconfiguration (.notInteger setting raw))
  | some port =>
    if 0 < port && port < 65536 then .ok port.toNat
    else .error (.misconfiguration (.portOutOfRange setting port))

/-- The settings that the variables give. -/
def ofEnvironment (environment : Environment) : Except Failure Settings := do
  let threshold ← readThreshold (lookUp environment .logLevel "INFO")
  let angleName ← readAngleName (lookUp environment .angleUnit "deg")
  let file := lookUp environment .logFile ""
  let logJson ← readTruth (lookUp environment .logJson "false")
  let mcpPort ← readPort .mcpPort (lookUp environment .mcpPort "8030")
  let webPort ← readPort .webPort (lookUp environment .webPort "8032")
  return {
    threshold
    logFile := if file = "" then none else some file
    logJson
    angleName
    mcpPort
    webPort }

end Settings

/-! ### Settings kept for later -/

/-- The variables as they are now, and the settings loaded last. -/
structure SettingsStore where
  environment : Environment
  loaded : Option Settings := none

namespace SettingsStore

/-- Sets a variable, or removes it. -/
def setVariable (store : SettingsStore) (name : String) (value : Option String) :
    SettingsStore :=
  { store with environment := fun other => if other = name then value else store.environment other }

/-- Forgets the settings that were loaded. -/
def forget (store : SettingsStore) : SettingsStore :=
  { store with loaded := none }

/-- The settings: those loaded last, or, if there are none or fresh ones are
asked for, those that the variables give now.  A load that fails changes
nothing. -/
def get (store : SettingsStore) (reload : Bool) : Except Failure Settings × SettingsStore :=
  match store.loaded, reload with
  | some settings, false => (.ok settings, store)
  | _, _ =>
    match Settings.ofEnvironment store.environment with
    | .ok settings => (.ok settings, { store with loaded := some settings })
    | .error failure => (.error failure, store)

end SettingsStore

end Calculator
