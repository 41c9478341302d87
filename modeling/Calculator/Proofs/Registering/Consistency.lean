import Calculator.Tool.Registry

/-!
# The registry stays consistent

A registry holds three tables, and what one says has to fit the others: tools and their
owners go by the same names, and every definition comes from the capability that owns
the tool (`Registry.Consistent`).

Registering is the only step.  It needs a capability whose names are all free, and then
extends the three tables at once (`register_eq_ok_iff`); otherwise it is refused for the
first name that is taken (`Consistent.refuses_of_register`).  Whoever offers a tool goes
on to do so as the tables grow (`Offers.extended`), which is what carries consistency
through a step, and through every run of requests.
-/

namespace Calculator

variable {registry next : Registry} {capability other : Capability} {name : String}
  {failure : Failure}

/-- The names that a capability declares tools under. -/
def Capability.toolNames (capability : Capability) : List String :=
  capability.tools.map Tool.name

theorem Capability.mem_toolNames_of_mem {tool : Tool} (h : tool ∈ capability.tools) :
    tool.name ∈ capability.toolNames :=
  List.mem_map_of_mem h

/-- A capability that tells its own name, whichever of its tools is called.  Its tools have
a name and a description. -/
def Capability.teller (name : String) (tools : List (String × String)) : Capability where
  name := name
  description := "Tells its name"
  tools := tools.map fun tool => { name := tool.1, description := tool.2, schema := .record [] }
  handle := fun _ _ _ => .ok { result := .text name, shape := [], itemType := "object" }

namespace Registry

theorem has_eq_true_iff : registry.has name = true ↔ name ∈ registry.toolNames :=
  Fields.has_eq_true_iff

/-! ### Registering -/

/-- Neither the name of the capability nor one of its tools is registered. -/
def Free (registry : Registry) (capability : Capability) : Prop :=
  capability.name ∉ registry.capabilities.names ∧
    ∀ tool ∈ capability.tools, tool.name ∉ registry.toolNames

/-- The registry with one more capability. -/
def extended (registry : Registry) (capability : Capability) : Registry where
  capabilities := Fields.insert capability.name capability registry.capabilities
  owners := registry.owners.update (capability.tools.map (·.name, capability.name))
  tools := registry.tools.update (capability.tools.map fun tool => (tool.name, tool))

/-- Why a capability is refused: its name is taken, or else the first of its tools that
is. -/
inductive Refuses (registry : Registry) (capability : Capability) : Failure → Prop
  | name (h : capability.name ∈ registry.capabilities.names) :
      Refuses registry capability (.capabilityTaken capability.name)
  | tool {earlier later : List Tool} {tool : Tool} {owner : String}
      (hname : capability.name ∉ registry.capabilities.names)
      (hsplit : capability.tools = earlier ++ tool :: later)
      (hearlier : ∀ first ∈ earlier, first.name ∉ registry.toolNames)
      (howner : registry.owners.get? tool.name = some owner) :
      Refuses registry capability (.toolTaken tool.name owner)

theorem clash?_eq_none_iff : registry.clash? capability = none ↔ registry.Free capability := by
  unfold clash? Free
  by_cases hname : registry.capabilities.has capability.name = true
  · have htaken := Fields.has_eq_true_iff.1 hname
    simp [hname, htaken]
  · have hfree : capability.name ∉ registry.capabilities.names :=
      fun hmem => hname (Fields.has_eq_true_iff.2 hmem)
    rw [if_neg hname, Option.map_eq_none_iff, List.find?_eq_none]
    simp only [Fields.has_eq_true_iff, hfree, not_false_eq_true, true_and]
    rfl

theorem register_eq_ok_iff :
    registry.register capability = .ok next ↔
      registry.Free capability ∧ next = registry.extended capability := by
  unfold register
  rw [← clash?_eq_none_iff]
  cases registry.clash? capability with
  | none => exact ⟨fun h => ⟨rfl, (Except.ok.inj h).symm⟩, fun h => congrArg Except.ok h.2.symm⟩
  | some failure => simp

/-- **When a capability is refused:** its name is taken, or one of its tools is. -/
theorem exists_register_eq_error_iff :
    (∃ failure, registry.register capability = .error failure) ↔
      capability.name ∈ registry.capabilities.names ∨
        ∃ tool ∈ capability.tools, tool.name ∈ registry.toolNames := by
  have hfails : (∃ failure, registry.register capability = .error failure) ↔
      ¬registry.Free capability := by
    rw [← clash?_eq_none_iff, register]
    cases registry.clash? capability <;> simp
  rw [hfails, Free, Classical.not_and_iff_not_or_not, Classical.not_not]
  simp

/-! ### Offering -/

/-- The capability is registered as the owner of the tool. -/
structure Offers (registry : Registry) (capability : Capability) (name : String) : Prop where
  listed : name ∈ registry.toolNames
  owner : registry.owners.get? name = some capability.name
  capability : registry.capability? capability.name = some capability

theorem toolNames_extended {other : String} :
    other ∈ (registry.extended capability).toolNames ↔
      other ∈ registry.toolNames ∨ other ∈ capability.toolNames := by
  unfold toolNames extended
  rw [Fields.mem_names_update]
  simp [Fields.names, Capability.toolNames]

theorem owner_extended_of_mem (h : name ∈ capability.toolNames) :
    (registry.extended capability).owners.get? name = some capability.name := by
  have hnames : name ∈ Fields.names
      ((capability.tools.map (·.name, capability.name)).reverse : Fields String) := by
    simpa [Fields.names, Capability.toolNames] using h
  obtain ⟨owner, howner⟩ := Fields.exists_get?_of_mem_names hnames
  -- every tool of the capability is put in with the one owner
  have hmem := List.mem_reverse.1 (Fields.mem_of_get? howner)
  obtain ⟨tool, -, heq⟩ := List.mem_map.1 hmem
  obtain rfl : capability.name = owner := congrArg Prod.snd heq
  unfold extended
  rw [Fields.get?_update, howner, Option.some_or]

theorem owner_extended_of_notMem (h : name ∉ capability.toolNames) :
    (registry.extended capability).owners.get? name = registry.owners.get? name := by
  have hnames : name ∉ Fields.names
      ((capability.tools.map (·.name, capability.name)).reverse : Fields String) := by
    simpa [Fields.names, Capability.toolNames] using h
  unfold extended
  rw [Fields.get?_update, Fields.get?_eq_none_iff.2 hnames, Option.none_or]

/-- A new capability offers all the tools that it declares. -/
theorem offers_extended (h : name ∈ capability.toolNames) :
    (registry.extended capability).Offers capability name where
  listed := toolNames_extended.2 (Or.inr h)
  owner := owner_extended_of_mem h
  capability := by
    unfold capability? extended
    rw [Fields.get?_insert, if_pos rfl]

/-- What is offered stays on offer when another capability is registered. -/
theorem Offers.extended (h : registry.Offers capability name) (hfree : registry.Free other) :
    (registry.extended other).Offers capability name where
  listed := toolNames_extended.2 (Or.inl h.listed)
  owner := by
    have hnew : name ∉ other.toolNames := by
      intro hmem
      obtain ⟨tool, htool, rfl⟩ := List.mem_map.1 hmem
      exact hfree.2 tool htool h.listed
    rw [owner_extended_of_notMem hnew]
    exact h.owner
  capability := by
    have hnew : capability.name ≠ other.name := by
      intro heq
      exact hfree.1 (heq ▸ Fields.mem_names_of_get? h.capability)
    unfold capability? Registry.extended
    rw [Fields.get?_insert, if_neg hnew]
    exact h.capability

/-- What registering brings about: the capability and its tools are there, and nothing is
lost of what was there. -/
structure Adds (registry : Registry) (capability : Capability) (next : Registry) : Prop where
  mem_names : ∀ name, name ∈ next.capabilities.names ↔
    name = capability.name ∨ name ∈ registry.capabilities.names
  mem_toolNames : ∀ name, name ∈ next.toolNames ↔
    name ∈ registry.toolNames ∨ name ∈ capability.toolNames
  offered : ∀ name ∈ capability.toolNames, next.Offers capability name
  kept : ∀ other name, registry.Offers other name → next.Offers other name

theorem adds_of_register (h : registry.register capability = .ok next) :
    registry.Adds capability next := by
  obtain ⟨hfree, rfl⟩ := register_eq_ok_iff.1 h
  exact
    { mem_names := fun _ => Fields.mem_names_insert
      mem_toolNames := fun _ => toolNames_extended
      offered := fun _ => offers_extended
      kept := fun _ _ hoffers => hoffers.extended hfree }

/-- A call of a tool is passed on to the capability that offers it. -/
theorem Offers.handle_eq (h : registry.Offers capability name)
    (settings : Except Failure Settings) (arguments : Value) :
    registry.handle settings name arguments = capability.handle settings name arguments := by
  unfold handle
  rw [if_pos (has_eq_true_iff.2 h.listed), h.owner]
  simp only [h.capability]

theorem handle_of_notMem (h : name ∉ registry.toolNames) (settings : Except Failure Settings)
    (arguments : Value) :
    registry.handle settings name arguments = .error (.refusal (.unregisteredTool name)) := by
  unfold handle
  rw [if_neg fun hhas => h (has_eq_true_iff.1 hhas)]

/-! ### Consistency -/

/-- The three tables fit each other. -/
structure Consistent (registry : Registry) : Prop where
  names_eq : registry.toolNames = registry.owners.names
  names_nodup : registry.toolNames.Nodup
  offered : ∀ name tool, (name, tool) ∈ registry.tools →
    tool.name = name ∧ ∃ capability, registry.Offers capability name ∧ tool ∈ capability.tools

theorem consistent_empty : Registry.empty.Consistent where
  names_eq := rfl
  names_nodup := List.nodup_nil
  offered := by
    intro name tool hmem
    cases hmem

/-- **Registering keeps the tables consistent.** -/
theorem Consistent.extended (h : registry.Consistent) (hfree : registry.Free capability) :
    (registry.extended capability).Consistent where
  names_eq := by
    refine Fields.names_update_congr h.names_eq ?_
    simp [Fields.names]
  names_nodup := Fields.nodup_names_update h.names_nodup _
  offered := by
    intro name tool hmem
    rcases Fields.mem_of_mem_update hmem with hold | hnew
    · obtain ⟨hname, owner, hoffers, hdeclared⟩ := h.offered name tool hold
      exact ⟨hname, owner, hoffers.extended hfree, hdeclared⟩
    · obtain ⟨declared, hdeclared, heq⟩ := List.mem_map.1 hnew
      obtain ⟨rfl, rfl⟩ := Prod.mk.inj heq
      exact ⟨rfl, capability, offers_extended (Capability.mem_toolNames_of_mem hdeclared), hdeclared⟩

theorem Consistent.register (h : registry.Consistent)
    (hregister : registry.register capability = .ok next) : next.Consistent := by
  obtain ⟨hfree, rfl⟩ := register_eq_ok_iff.1 hregister
  exact h.extended hfree

theorem Consistent.install (h : registry.Consistent) (hinstall : registry.install = .ok next) :
    next.Consistent := by
  unfold Registry.install at hinstall
  split at hinstall
  · obtain rfl := Except.ok.inj hinstall
    exact h
  · exact h.register hinstall

/-- What is installed already is not installed again. -/
theorem install_of_install (h : registry.install = .ok next) : next.install = .ok next := by
  have hinstalled : next.capabilities.has ExpressionTools.capability.name = true := by
    unfold install at h
    split at h
    · next hhas =>
        obtain rfl := Except.ok.inj h
        exact hhas
    · obtain ⟨-, rfl⟩ := register_eq_ok_iff.1 h
      exact Fields.has_eq_true_iff.2 (Fields.mem_names_insert.2 (Or.inl rfl))
  unfold install
  rw [if_pos hinstalled]

/-- **What a refusal tells.** The owner that it names is there, since tools and owners go
by the same names. -/
theorem Consistent.refuses_of_register (h : registry.Consistent)
    (hregister : registry.register capability = .error failure) :
    registry.Refuses capability failure := by
  have hclash : registry.clash? capability = some failure := by
    unfold Registry.register at hregister
    split at hregister
    · next failure' hclash =>
        obtain rfl := Except.error.inj hregister
        exact hclash
    · cases hregister
  unfold clash? at hclash
  split at hclash
  · next hname =>
      obtain rfl := Option.some.inj hclash
      exact .name (Fields.has_eq_true_iff.1 hname)
  · next hname =>
      obtain ⟨tool, hfind, rfl⟩ := Option.map_eq_some_iff.1 hclash
      obtain ⟨htaken, earlier, later, hsplit, hearlier⟩ := List.find?_eq_some_iff_append.1 hfind
      have hlisted : tool.name ∈ registry.owners.names :=
        h.names_eq ▸ Fields.has_eq_true_iff.1 htaken
      obtain ⟨owner, howner⟩ := Fields.exists_get?_of_mem_names hlisted
      unfold takenFailure
      rw [howner]
      refine .tool (fun hmem => hname (Fields.has_eq_true_iff.2 hmem)) hsplit ?_ howner
      intro first hfirst hmem
      have hnot := hearlier first hfirst
      rw [Fields.has_eq_true_iff.2 hmem] at hnot
      exact absurd hnot (by decide)

end Registry

/-! ### Runs of requests -/

namespace RegistryStore

variable {store : RegistryStore} {request : Request}

/-- The store after requests, one after the other. -/
def after (store : RegistryStore) (requests : List Request) : RegistryStore :=
  requests.foldl (fun store request => (store.answer request).2) store

theorem change_of_ok {f : Registry → Except Failure Registry} (h : f store.current = .ok next) :
    store.change f = (.ok (), { shared := some next }) := by
  rw [change, h]

theorem change_of_error {f : Registry → Except Failure Registry}
    (h : f store.current = .error failure) :
    store.change f = (.error failure, { shared := some store.current }) := by
  rw [change, h]

theorem eq_ok_of_change {f : Registry → Except Failure Registry}
    (h : (store.change f).1 = .ok ()) : f store.current = .ok (store.change f).2.current := by
  cases hf : f store.current with
  | ok next =>
      rw [change_of_ok hf]
      rfl
  | error failure =>
      rw [change_of_error hf] at h
      cases h

theorem change_eq_error_iff {f : Registry → Except Failure Registry} :
    (store.change f).1 = .error failure ↔ f store.current = .error failure := by
  cases hf : f store.current with
  | ok next => simp [change_of_ok hf]
  | error first => simp [change_of_error hf]

/-- A request that fails leaves the registry as it was. -/
theorem current_of_answer_eq_error (h : (store.answer request).1 = .error failure) :
    (store.answer request).2.current = store.current := by
  have hchange : ∀ f, (store.change f).1 = .error failure →
      (store.change f).2.current = store.current := by
    intro f hfails
    rw [change_of_error (change_eq_error_iff.1 hfails)]
    rfl
  cases request with
  | register | install | get => exact hchange _ h
  | drop => cases h

theorem consistent_change {f : Registry → Except Failure Registry}
    (h : store.current.Consistent)
    (hf : ∀ next, f store.current = .ok next → next.Consistent) :
    (store.change f).2.current.Consistent := by
  cases hnext : f store.current with
  | ok next =>
      rw [change_of_ok hnext]
      exact hf next hnext
  | error failure =>
      rw [change_of_error hnext]
      exact h

/-- **One request** keeps the registry consistent. -/
theorem consistent_answer (h : store.current.Consistent) (request : Request) :
    (store.answer request).2.current.Consistent := by
  cases request with
  | register capability => exact consistent_change h fun _ hregister => h.register hregister
  | install => exact consistent_change h fun _ hinstall => h.install hinstall
  | get => exact consistent_change h fun _ hget => Except.ok.inj hget ▸ h
  | drop => exact Registry.consistent_empty

theorem consistent_after (h : store.current.Consistent) (requests : List Request) :
    (store.after requests).current.Consistent := by
  induction requests generalizing store with
  | nil => exact h
  | cons request rest ih => exact ih (consistent_answer h request)

/-- A change that does nothing to what it has changed is made once. -/
theorem change_change {f : Registry → Except Failure Registry}
    (hf : ∀ next, f store.current = .ok next → f next = .ok next) :
    (store.change f).2.change f = store.change f := by
  cases hnext : f store.current with
  | ok next =>
      rw [change_of_ok hnext]
      exact change_of_ok (hf next hnext)
  | error failure =>
      rw [change_of_error hnext]
      exact change_of_error hnext

/-- **The registry at any time.** Whatever was asked for before, the tables fit each other,
and a call goes to the capability that offers the tool, or is refused if there is no such
tool.  A capability is refused if a name of its is taken, and is added otherwise.  What
fails leaves the registry as it was, and to install twice is to install once. -/
theorem sound_after (requests : List Request) :
    let store := after {} requests
    let registry := store.current
    registry.Consistent ∧
      (∀ name ∈ registry.toolNames, ∃ capability, registry.Offers capability name ∧
        ∀ settings arguments, registry.handle settings name arguments =
          capability.handle settings name arguments) ∧
      (∀ name ∉ registry.toolNames, ∀ settings arguments,
        registry.handle settings name arguments = .error (.refusal (.unregisteredTool name))) ∧
      (∀ capability,
        ((∃ failure, (store.answer (.register capability)).1 = .error failure) ↔
          capability.name ∈ registry.capabilities.names ∨
            ∃ tool ∈ capability.tools, tool.name ∈ registry.toolNames) ∧
        (∀ failure, (store.answer (.register capability)).1 = .error failure →
          registry.Refuses capability failure) ∧
        ((store.answer (.register capability)).1 = .ok () →
          registry.Adds capability (store.answer (.register capability)).2.current)) ∧
      (∀ request failure, (store.answer request).1 = .error failure →
        (store.answer request).2.current = registry) ∧
      (store.answer .install).2.answer .install = store.answer .install := by
  intro store registry
  have hstart : ({} : RegistryStore).current.Consistent := Registry.consistent_empty
  have hconsistent : registry.Consistent := consistent_after hstart requests
  have hanswer : ∀ capability failure, (store.answer (.register capability)).1 = .error failure ↔
      registry.register capability = .error failure :=
    fun _ _ => change_eq_error_iff
  refine ⟨hconsistent, ?_, ?_, ?_, ?_, ?_⟩
  · intro name hname
    obtain ⟨tool, htool⟩ := Fields.exists_get?_of_mem_names hname
    obtain ⟨-, capability, hoffers, -⟩ :=
      hconsistent.offered name tool (Fields.mem_of_get? htool)
    exact ⟨capability, hoffers, hoffers.handle_eq⟩
  · exact fun name hname => Registry.handle_of_notMem hname
  · intro capability
    simp only [hanswer]
    exact ⟨Registry.exists_register_eq_error_iff, fun _ => hconsistent.refuses_of_register,
      fun hok => Registry.adds_of_register (eq_ok_of_change hok)⟩
  · exact fun _ _ => current_of_answer_eq_error
  · exact change_change fun _ => Registry.install_of_install

/-- The clash at the last tool of a capability leaves no trace of its first. -/
theorem sound_after_clash :
    let first := Capability.teller "a" [("s", "")]
    let second := Capability.teller "b" [("t", ""), ("s", "")]
    let store := after {} [.register first]
    (∃ tool ∈ second.tools, tool.name ∈ store.current.toolNames) ∧
      ∃ failure, (store.answer (.register second)).1 = .error failure ∧
        store.current.Refuses second failure ∧
        (store.answer (.register second)).2.current = store.current := by
  intro first second store
  obtain ⟨-, -, -, hregister, hkept, -⟩ := sound_after [.register first]
  have htaken : ∃ tool ∈ second.tools, tool.name ∈ store.current.toolNames := by decide
  obtain ⟨hfails_iff, hrefuses, -⟩ := hregister second
  obtain ⟨failure, hfails⟩ := hfails_iff.2 (Or.inr htaken)
  exact ⟨htaken, failure, hfails, hrefuses failure hfails, hkept _ failure hfails⟩

end RegistryStore

end Calculator
