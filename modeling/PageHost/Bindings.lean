import PageHost.Keyed
import PageHost.Outcome
import PageHost.Edit.Error
/-!
# Bindings of ids to nodes

Each bound id names one node; several ids may name the same node. The table is
kept in both directions: the node of each id, and the ids of each node in the
order in which they were last bound, so that the most recent of them speaks for
the node. Each change writes both directions. The id 0 is never bound.
-/

namespace PageHost

/-- Which node each id names, and which ids name each node. -/
structure Bindings where
  /-- The node of each bound id. -/
  nodes : Keyed NodeId Handle
  /-- The ids of each node that has any, the oldest binding first. -/
  aliases : Keyed Handle (List NodeId)
deriving Repr, DecidableEq

namespace Bindings

/-- No id is bound. -/
def empty : Bindings := ⟨[], []⟩

/-! ## Reading -/

/-- The node that an id names. -/
def lookup? (table : Bindings) (id : NodeId) : Option Handle := Keyed.get? table.nodes id

/-- The node that an id names, or the error for an unbound id. -/
def lookup (table : Bindings) (id : NodeId) : Except EditError Handle :=
  match table.lookup? id with
  | none => .error (.unknownNode id)
  | some node => .ok node

/-- Whether an id is bound. -/
def contains (table : Bindings) (id : NodeId) : Bool := (table.lookup? id).isSome

/-- The ids that name a node, oldest first. -/
def idsOf (table : Bindings) (node : Handle) : List NodeId :=
  (Keyed.get? table.aliases node).getD []

/-- The most recent id of a node. -/
def idOf? (table : Bindings) (node : Handle) : Option NodeId := (table.idsOf node).getLast?

/-- The number of bound ids. -/
def size (table : Bindings) : Nat := table.nodes.length

/-- Whether no id is bound. -/
def isEmpty (table : Bindings) : Bool := table.nodes.isEmpty

/-! ## Changing -/

/-- Takes an id off the ids of a node; a node without ids keeps no entry. -/
def forgetAlias (table : Bindings) (node : Handle) (id : NodeId) : Bindings :=
  match Keyed.get? table.aliases node with
  | none => table
  | some ids =>
    let kept := ids.filter fun other => !decide (other = id)
    { table with aliases :=
        if kept.isEmpty then Keyed.erase table.aliases node else Keyed.set table.aliases node kept }

/-- Lets an id name a node, as the most recent id of that node. -/
def assign (table : Bindings) (id : NodeId) (node : Handle) : Bindings :=
  ⟨Keyed.set table.nodes id node, Keyed.set table.aliases node (table.idsOf node ++ [id])⟩

/-- Binds an id that is neither reserved nor bound. -/
def bindInPlace (id : NodeId) (node : Handle) : EStateM EditError Bindings Unit := fun table =>
  if id = reservedId then .error .reservedNodeId table
  else if table.contains id then .error (.duplicateBinding id) table
  else .ok () (table.assign id node)

/-- The table with one more id, or why the id cannot be bound. -/
def bind (table : Bindings) (id : NodeId) (node : Handle) : Except EditError Bindings :=
  (outcome (bindInPlace id node) table).map Prod.snd

/-- Releases an id; the node that it named, if any. -/
def unbind (table : Bindings) (id : NodeId) : Option Handle × Bindings :=
  match table.lookup? id with
  | none => (none, table)
  | some node => (some node, { table with nodes := Keyed.erase table.nodes id }.forgetAlias node id)

/-- Moves a bound id to another node, as the most recent id of that node; the
node that it named before. -/
def rebindInPlace (id : NodeId) (node : Handle) : EStateM EditError Bindings Handle := fun table =>
  match table.lookup id with
  | .error e => .error e table
  | .ok previous => .ok previous ((table.forgetAlias previous id).assign id node)

/-- The table with an id moved and the node that it named before, or why the id
cannot be moved. -/
def rebind (table : Bindings) (id : NodeId) (node : Handle) :
    Except EditError (Handle × Bindings) :=
  outcome (rebindInPlace id node) table

/-- Releases every id whose node satisfies a test; the released ids. -/
def unbindWhere (table : Bindings) (test : Handle → Bool) : List NodeId × Bindings :=
  let doomed := (table.nodes.filter fun entry => test entry.2).map Prod.fst
  (doomed, doomed.foldl (fun table id => (table.unbind id).2) table)

end Bindings

end PageHost
