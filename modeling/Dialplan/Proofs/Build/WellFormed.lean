import Dialplan.Proofs.Build.Names

/-! Well-formed trees. Whatever a build yields has no empty sequences and races, opens only what
the options enable, with what is registered, and its cached nodes know every definition below them
by name (`Builder.build_wellFormed`). -/

namespace Dialplan

open Strategy

/-- What a build promises of a node, by its kind. -/
inductive WellFormed (builder : Builder) (options : BuildOptions) : Strategy → Prop where
  | transport {leaf : Leaf} : options.isEnabled leaf.name = true →
      builder.registry.resolve leaf.type = some leaf.mechanism → leaf.key = options.key →
      WellFormed builder options (.transport leaf)
  | unsupported {name} : options.isEnabled name = false →
      WellFormed builder options (.unsupported name)
  | delayed {delay child} : WellFormed builder options (.delayed delay child)
  | sequential {settings children} : children ≠ [] →
      WellFormed builder options (.sequential settings children)
  | cached {ttl transports child} : (∀ entry ∈ transports, IsDefinition entry) →
      (∀ {node name}, Within node child → IsDefinition (name, node) →
        (Table.find transports name).isSome = true) →
      WellFormed builder options
        (.cached ⟨ttl, options.encrypted, builder.cache⟩ transports child)
  | firstConnected {children} : children ≠ [] →
      WellFormed builder options (.firstConnected children)
  | bestConnectedEver {site children} : children ≠ [] →
      WellFormed builder options (.bestConnectedEver site children)
  | branch {test onTrue onFalse} : WellFormed builder options (.branch test onTrue onFalse)

section

variable {builder : Builder} {options : BuildOptions} {site : Site} {program : Program}

/-- A node that is made as a plan says is well formed in a tree that lists its definitions. -/
theorem Made.wellFormed {node root : Strategy} {table : TransportTable}
    (h : Made builder options site program node) (hw : Within node root)
    (hlisted : root.Listed table) : WellFormed builder options node := by
  cases h with
  | transport hd =>
    obtain ⟨_, _, _, _, hd⟩ := hd
    exact .transport hd.enabled hd.mechanism hd.key
  | unsupported _ hdisabled => exact .unsupported hdisabled
  | delayed => exact .delayed
  | sequential hne => exact .sequential hne
  | cached hd => exact .cached hd fun hbelow => hlisted.cached hw (.cached hbelow)
  | firstConnected hne => exact .firstConnected hne
  | bestConnectedEver hne => exact .bestConnectedEver hne
  | branch => exact .branch

/-- All nodes of a built tree are well formed, those in conditions and in the tables of cached
nodes included. -/
theorem Builder.build_wellFormed {root : Strategy}
    (h : builder.build options site program = .ok root) :
    ∀ node, Within node root → WellFormed builder options node := by
  intro node hw
  obtain ⟨table, hlisted⟩ := Builder.build_listed h
  exact (Builder.build_made h node hw).wellFormed hw hlisted

end

/-! A plan that defines a name again after a cached node has taken it up, and whose other
transport is disabled. -/

def reusedBuilder : Builder := ⟨[("ws", 0)], 0⟩

def reusedOptions : BuildOptions :=
  { BuildOptions.default with encrypted := true, disabledTransports := some ["b"] }

def reusedProgram : Program :=
  [.defTransport "a" "ws" 1 none,
    .defTransport "b" "ws" 2 none,
    .define "old" (.invocation "cached" [.literal (.number (.unsigned 1000)),
      .invocation "first_connected" [.symbol "b", .symbol "a"]]),
    .defTransport "a" "ws" 3 none,
    .define "strategy" (.invocation "if"
      [.invocation "is_supported" [.symbol "old"], .symbol "old", .symbol "a"])]

/-- The cached node, with the table that it was made with. -/
def reusedCached : Strategy :=
  .cached ⟨Duration.ofMillis 1000, true, 0⟩
    [("a", .transport ⟨"a", "ws", 1, 0, [], none⟩), ("b", .unsupported "b")]
    (.firstConnected [.unsupported "b", .transport ⟨"a", "ws", 1, 0, [], none⟩])

/-- The cached node is well formed also where it stands in a condition. -/
theorem reused_cached_wellFormed :
    (∃ root, reusedBuilder.build reusedOptions [] reusedProgram = .ok root ∧
      Within reusedCached root) ∧
    WellFormed reusedBuilder reusedOptions reusedCached := by
  have hbuild : reusedBuilder.build reusedOptions [] reusedProgram = .ok
      (.branch (.isSupported reusedCached) reusedCached
        (.transport ⟨"a", "ws", 3, 0, [], none⟩)) := by rfl
  exact ⟨⟨_, hbuild, .condition .self⟩, Builder.build_wellFormed hbuild _ (.condition .self)⟩

end Dialplan
