/-
Implementations of trees, and how a manager comes by one: by default, by name
from a registry, or directly.
-/
import Grove.Table
import Grove.Text.Summary
import Grove.Tree.Feed

namespace Grove

/-- An implementation of trees. All of them keep a tree as an array of nodes. What they
are free to do is to fail, for a reason of their own. -/
structure Factory where
  name : String
  /-- Why a feed is not run at all for the model of a number. -/
  refusal : ModelId → Source → Feed → Option TreeError := fun _ _ _ => none
  /-- Why what has come of a feed is not given, be it a model or another failure. -/
  rejection : Source → Feed → Except TreeError Model → Option TreeError := fun _ _ _ => none
  /-- Why there is no fragment of a number. -/
  fragmentRefusal : ModelId → Option TreeError := fun _ => none

/-- What is given when a feed has been run. -/
def Factory.verdict (factory : Factory) (source : Source) (feed : Feed)
    (built : Except TreeError Model) : Except TreeError Model :=
  match factory.rejection source feed built with
  | some e => .error e
  | none => built

theorem Factory.built_of_verdict {factory : Factory} {source : Source} {feed : Feed}
    {built : Except TreeError Model} {m : Model} (h : factory.verdict source feed built = .ok m) :
    built = .ok m := by
  unfold verdict at h
  split at h
  next => cases h
  next => exact h

/-- The name of the implementation that is taken by default. -/
def defaultImplementation : String := "arena"

/-- The implementation that is taken by default. -/
def Factory.default : Factory := { name := defaultImplementation }

/-- Implementations by name. -/
abbrev FactoryRegistry := Table String Factory

namespace FactoryRegistry

/-- Adds an implementation under its own name, in place of an earlier one. -/
def register (r : FactoryRegistry) (f : Factory) : FactoryRegistry := Table.insert r f.name f

/-- The registry that holds the default implementation. -/
def default : FactoryRegistry := register .empty .default

/-- The names in ascending order. -/
def names (r : FactoryRegistry) : List String := (Table.keys r).mergeSort fun a b => a ≤ b

end FactoryRegistry

/-- Which implementation a manager uses. -/
inductive Selector where
  | default
  | named (name : String)
  | chosen (factory : Factory)

namespace Selector

/-- The implementation of a name. -/
def lookup (r : FactoryRegistry) (name : String) : Except TreeError Factory :=
  match Table.get? r name with
  | some f => .ok f
  | none => .error (.configuration ("no tree model implementation named '" ++ name ++
      "' (registered: " ++ ", ".intercalate (FactoryRegistry.names r) ++ ")"))

def resolve (s : Selector) (r : FactoryRegistry) : Except TreeError Factory :=
  match s with
  | .chosen f => .ok f
  | .default => lookup r defaultImplementation
  | .named name => lookup r name

def summary : Selector → String
  | .default => "Default"
  | .named name => Text.application "Named" (Text.quote name)
  | .chosen f => Text.application "Factory" (Text.quote f.name)

end Selector

/-- Finds a feed for a system identifier, or none. -/
abbrev Resolver := String → Except TreeError (Option Feed)

/-- How many released models a manager keeps by default. -/
def defaultPoolCapacity : Nat := 8

/-- What a manager is made from. -/
structure ManagerConfig where
  selector : Selector := .default
  registry : FactoryRegistry := .default
  /-- How many released models are kept; none are kept with zero. -/
  poolCapacity : Nat := defaultPoolCapacity
  resolver : Option Resolver := none

def ManagerConfig.summary (c : ManagerConfig) : String :=
  Text.summary "ManagerConfig"
    [("implementation", c.selector.summary),
      ("registry", Text.bracketed ((FactoryRegistry.names c.registry).map Text.quote)),
      ("pool_capacity", Nat.repr c.poolCapacity),
      ("resolver", Text.truth c.resolver.isSome)] true

def Source.summary (s : Source) : String :=
  Text.summary "Source"
    [("system_id", Text.optional Text.quote s.systemId),
      ("has_producer", Text.truth s.feed.isSome),
      ("size_hint", Text.optional Nat.repr s.sizeHint)] true

def Model.summary (m : Model) : String :=
  Text.summary "TreeModel"
    [("id", Text.application "DtmId" (Nat.repr m.id.val.toNat)),
      ("system_id", Text.optional Text.quote m.systemId),
      ("fragment", Text.truth m.isFragment),
      ("size", Nat.repr m.size)] false

end Grove
