import Calculator.Tool.Expression

/-!
# The registry of tools

Capabilities are registered under their names, and so are the tools they offer.
A capability is refused if its name or one of its tools is taken, and then
leaves no trace.  A tool that a capability declares twice is kept once, as
declared last.
-/

namespace Calculator

/-- The capabilities by name, and for every tool its definition and the name of
the capability that offers it. -/
structure Registry where
  capabilities : Fields Capability := []
  owners : Fields String := []
  tools : Fields Tool := []

namespace Registry

def empty : Registry := {}

/-- What a tool that is there already is refused with: the capability that offers
it is told. -/
def takenFailure (registry : Registry) (tool : String) : Failure :=
  match registry.owners.get? tool with
  | some owner => .toolTaken tool owner
  | none => .missingKey tool

/-- Why a capability cannot be registered, if it cannot. -/
def clash? (registry : Registry) (capability : Capability) : Option Failure :=
  if registry.capabilities.has capability.name then some (.capabilityTaken capability.name)
  else
    (capability.tools.find? fun tool => registry.tools.has tool.name).map fun tool =>
      registry.takenFailure tool.name

def register (registry : Registry) (capability : Capability) : Except Failure Registry :=
  match registry.clash? capability with
  | some failure => .error failure
  | none =>
    .ok
      { capabilities := Fields.insert capability.name capability registry.capabilities
        owners := registry.owners.update (capability.tools.map (·.name, capability.name))
        tools := registry.tools.update (capability.tools.map fun tool => (tool.name, tool)) }

/-- Registers all that there is, unless it is there already. -/
def install (registry : Registry) : Except Failure Registry :=
  if registry.capabilities.has ExpressionTools.capability.name then .ok registry
  else registry.register ExpressionTools.capability

def toolNames (registry : Registry) : List String :=
  registry.tools.names

def has (registry : Registry) (tool : String) : Bool :=
  registry.tools.has tool

def capability? (registry : Registry) (name : String) : Option Capability :=
  registry.capabilities.get? name

/-- Passes a call on to the capability that offers the tool.  The tool, its owner
and the capability are looked up one after the other. -/
def handle (registry : Registry) (settings : Except Failure Settings) (tool : String)
    (arguments : Value) : Except Failure Outcome :=
  if registry.has tool then
    match registry.owners.get? tool with
    | none => .error (.missingKey tool)
    | some owner =>
      match registry.capability? owner with
      | none => .error (.missingKey owner)
      | some capability => capability.handle settings tool arguments
  else .error (.refusal (.unregisteredTool tool))

end Registry

/-! ### The registry that is shared -/

/-- The one registry of a process.  It is made when it is first asked for. -/
structure RegistryStore where
  shared : Option Registry := none

namespace RegistryStore

/-- The registry that is there, or else a new one. -/
def current (store : RegistryStore) : Registry :=
  store.shared.getD .empty

inductive Request where
  | register (capability : Capability)
  | install
  | get
  | drop

/-- Changes the registry.  What fails leaves it as it was. -/
def change (store : RegistryStore) (f : Registry → Except Failure Registry) :
    Except Failure Unit × RegistryStore :=
  match f store.current with
  | .ok registry => (.ok (), { shared := some registry })
  | .error failure => (.error failure, { shared := some store.current })

/-- The answer to a request, and the store after it. -/
def answer (store : RegistryStore) : Request → Except Failure Unit × RegistryStore
  | .register capability => store.change (·.register capability)
  | .install => store.change (·.install)
  | .get => store.change .ok
  | .drop => (.ok (), {})

end RegistryStore

end Calculator
