import Calculator.Proofs.Serving.Calls
import Mathlib.Data.List.Nodup

/-!
# What clients are shown of the registry

The server lists its own tool and then what the registry has.  Names of different
capabilities never clash, since a capability with a name that is taken is refused.
Two clashes are not refused: a capability may declare a name twice, and then only its
last declaration is kept, and it may declare the name of the server's own tool, and then
that name is listed twice and the capability is never called by it.

There is no third way to lose a tool.  Without these two, whatever is registered in
whatever order, the list is the server's tool and then all the declarations
(`list_of_registered`), and `faithful_iff` says that clients can rely on the list just
then.
-/

namespace Calculator

variable {registry next : Registry} {capability : Capability} {capabilities : List Capability}
  {name : String}

namespace Registry

/-! ### One registration after the other -/

theorem registered_cons :
    (capability :: capabilities).foldlM register registry = .ok next ↔
      registry.Free capability ∧
        capabilities.foldlM register (registry.extended capability) = .ok next := by
  rw [List.foldlM_cons, bind_eq_ok_iff]
  constructor
  · rintro ⟨_, hregister, hrest⟩
    obtain ⟨hfree, rfl⟩ := register_eq_ok_iff.1 hregister
    exact ⟨hfree, hrest⟩
  · rintro ⟨hfree, hrest⟩
    exact ⟨_, register_eq_ok_iff.2 ⟨hfree, rfl⟩, hrest⟩

theorem Consistent.registered (h : registry.Consistent)
    (hrun : capabilities.foldlM Registry.register registry = .ok next) : next.Consistent := by
  induction capabilities generalizing registry with
  | nil => exact Except.ok.inj hrun ▸ h
  | cons capability rest ih =>
      obtain ⟨hfree, hrest⟩ := registered_cons.1 hrun
      exact ih (h.extended hfree) hrest

theorem Offers.registered (h : registry.Offers capability name)
    (hrun : capabilities.foldlM register registry = .ok next) : next.Offers capability name := by
  induction capabilities generalizing registry with
  | nil => exact Except.ok.inj hrun ▸ h
  | cons other rest ih =>
      obtain ⟨hfree, hrest⟩ := registered_cons.1 hrun
      exact ih (h.extended hfree) hrest

/-- Every capability that is registered goes on to offer the tools that it declares. -/
theorem offers_of_registered (hrun : capabilities.foldlM register registry = .ok next)
    (hcapability : capability ∈ capabilities) (hname : name ∈ capability.toolNames) :
    next.Offers capability name := by
  induction capabilities generalizing registry with
  | nil => cases hcapability
  | cons first rest ih =>
      obtain ⟨-, hrest⟩ := registered_cons.1 hrun
      rcases List.mem_cons.1 hcapability with rfl | hlater
      · exact (offers_extended hname).registered hrest
      · exact ih hrest hlater

/-- A capability that declares no name twice adds its declarations as they are. -/
theorem tools_extended (hfree : registry.Free capability) (hnodup : capability.toolNames.Nodup) :
    (registry.extended capability).tools =
      registry.tools ++ capability.tools.map fun tool => (tool.name, tool) := by
  refine Fields.update_of_disjoint ?_ ?_
  · unfold Fields.names
    rw [List.map_map]
    exact hnodup
  · intro name hname
    obtain ⟨tool, htool, rfl⟩ : ∃ tool ∈ capability.tools, tool.name = name := by
      simpa [Fields.names] using hname
    exact hfree.2 tool htool

theorem tools_of_registered (hrun : capabilities.foldlM register registry = .ok next)
    (hnodup : ∀ capability ∈ capabilities, capability.toolNames.Nodup) :
    next.tools.map Prod.snd = registry.tools.map Prod.snd ++ capabilities.flatMap Capability.tools := by
  induction capabilities generalizing registry with
  | nil =>
      obtain rfl := Except.ok.inj hrun
      simp
  | cons capability rest ih =>
      obtain ⟨hfree, hrest⟩ := registered_cons.1 hrun
      obtain ⟨hfirst, hothers⟩ := List.forall_mem_cons.1 hnodup
      rw [ih hrest hothers, tools_extended hfree hfirst]
      simp [List.map_map, Function.comp_def]

/-- The definitions go by the names that they are registered under. -/
theorem Consistent.names_tools (h : registry.Consistent) :
    (registry.tools.map Prod.snd).map Tool.name = registry.toolNames := by
  unfold toolNames Fields.names
  rw [List.map_map]
  refine List.map_congr_left fun field hfield => ?_
  exact (h.offered field.1 field.2 hfield).1

end Registry

namespace ToolServer

/-! ### The list and the calls -/

/-- The list is the server's own tool and then all that is declared, in order. -/
theorem list_of_registered (hrun : capabilities.foldlM Registry.register .empty = .ok registry)
    (hnodup : ∀ capability ∈ capabilities, capability.toolNames.Nodup) :
    list registry = ping :: capabilities.flatMap Capability.tools := by
  unfold list
  rw [Registry.tools_of_registered hrun hnodup]
  rfl

/-- The names in the list are kept apart, as long as the server's own is not taken. -/
theorem nodup_names_list_iff (h : registry.Consistent) :
    ((list registry).map Tool.name).Nodup ↔ ping.name ∉ registry.toolNames := by
  show (ping.name :: (registry.tools.map Prod.snd).map Tool.name).Nodup ↔ _
  rw [List.nodup_cons, h.names_tools]
  exact and_iff_left h.names_nodup

/-- Clients can rely on the list: no name stands for two tools, each declaration is
listed once, and a call by a name in the list reaches who declared the tool. -/
structure Faithful (registry : Registry) (capabilities : List Capability) : Prop where
  names_nodup : ((list registry).map Tool.name).Nodup
  listed : (list registry).Perm (ping :: capabilities.flatMap Capability.tools)
  own : ∀ settings arguments, answer registry settings ping.name arguments =
    .record [("status", .text "ok"), ("service", .text serviceName)]
  reached : ∀ capability ∈ capabilities, ∀ tool ∈ capability.tools, ∀ settings arguments,
    answer registry settings tool.name arguments =
      told (capability.handle settings tool.name (taken arguments))

theorem faithful_of_nodup (hrun : capabilities.foldlM Registry.register .empty = .ok registry)
    (hnodup : ∀ capability ∈ capabilities, capability.toolNames.Nodup)
    (hping : ∀ capability ∈ capabilities, ping.name ∉ capability.toolNames) :
    Faithful registry capabilities := by
  have hlist := list_of_registered hrun hnodup
  have hconsistent := Registry.consistent_empty.registered hrun
  refine ⟨?_, ?_, fun _ _ => if_pos rfl, ?_⟩
  · rw [nodup_names_list_iff hconsistent, ← hconsistent.names_tools,
      Registry.tools_of_registered hrun hnodup]
    intro hmem
    obtain ⟨tool, htool, hname⟩ := List.mem_map.1 hmem
    obtain ⟨capability, hcapability, hdeclared⟩ := List.mem_flatMap.1 htool
    exact hping capability hcapability (hname ▸ Capability.mem_toolNames_of_mem hdeclared)
  · rw [hlist]
  · intro capability hcapability tool htool settings arguments
    have hname := Capability.mem_toolNames_of_mem htool
    refine answer_of_offers ?_ (Registry.offers_of_registered hrun hcapability hname)
    rintro heq
    exact hping capability hcapability (heq ▸ hname)

/-- A list that names no tool twice leaves no room for either clash. -/
theorem Faithful.nodup (h : Faithful registry capabilities) :
    ∀ capability ∈ capabilities, capability.toolNames.Nodup ∧ ping.name ∉ capability.toolNames := by
  have hnodup : ((ping :: capabilities.flatMap Capability.tools).map Tool.name).Nodup :=
    (h.listed.map Tool.name).nodup_iff.1 h.names_nodup
  rw [List.map_cons, List.nodup_cons] at hnodup
  intro capability hcapability
  have hsublist : capability.toolNames.Sublist
      ((capabilities.flatMap Capability.tools).map Tool.name) :=
    (List.sublist_flatten_of_mem (List.mem_map_of_mem hcapability)).map Tool.name
  exact ⟨hnodup.2.sublist hsublist, fun hmem => hnodup.1 (hsublist.subset hmem)⟩

/-- **When clients can rely on the list:** no capability declares a name twice, or the name
of the server's own tool. -/
theorem faithful_iff (hrun : capabilities.foldlM Registry.register .empty = .ok registry) :
    Faithful registry capabilities ↔
      ∀ capability ∈ capabilities,
        capability.toolNames.Nodup ∧ ping.name ∉ capability.toolNames :=
  ⟨Faithful.nodup, fun h =>
    faithful_of_nodup hrun (fun capability hmem => (h capability hmem).1)
      fun capability hmem => (h capability hmem).2⟩

/-- The one capability that there is can be relied on. -/
theorem faithful_installed :
    [ExpressionTools.capability].foldlM Registry.register .empty = .ok .installed ∧
      Faithful .installed [ExpressionTools.capability] := by
  have hrun : [ExpressionTools.capability].foldlM Registry.register .empty = .ok .installed := rfl
  refine ⟨hrun, (faithful_iff hrun).2 fun capability hmem => ?_⟩
  obtain rfl := List.mem_singleton.1 hmem
  exact ⟨by decide, by decide⟩

/-- Declares a name twice. -/
def stammering : Capability :=
  .teller "stammering" [("t", "first"), ("t", "second")]

/-- Declares the name of the server's own tool. -/
def posing : Capability :=
  .teller "posing" [("ping", "third")]

/-- Both clashes are registered.  Then one name is listed twice, one declaration is not
listed at all, and another is listed but never reached. -/
theorem not_faithful_of_clashes :
    ∃ registry : Registry,
      [stammering, posing].foldlM Registry.register .empty = .ok registry ∧
        (list registry).map Tool.name = ["ping", "t", "ping"] ∧
        (∀ tool ∈ list registry, tool.description ≠ "first") ∧
        (∀ settings arguments, answer registry settings "ping" arguments ≠
          told (posing.handle settings "ping" (taken arguments))) ∧
        ¬Faithful registry [stammering, posing] := by
  refine ⟨_, rfl, rfl, ?_, fun _ _ => ?_, fun h => ?_⟩
  · decide
  · show Value.record _ ≠ .text "posing"
    exact fun heq => by cases heq
  · exact absurd h.names_nodup (by decide)

end ToolServer

end Calculator
