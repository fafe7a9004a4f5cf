import PageHost.Edit.Error
/-!
# The operand stack

Creating edits leave their nodes on a stack, inserting edits take them off. An
entry that received children is marked as a parent: it may stay on the stack at
the end of a batch, every other entry there is left over.
-/

namespace PageHost

/-- An entry of the stack. -/
structure Operand where
  node : Handle
  /-- Whether the node received children while it was on top. -/
  isParent : Bool
deriving Repr, DecidableEq

/-- The stack, its top first. -/
structure Operands where
  slots : List Operand
  /-- The greatest height so far. -/
  maxDepth : Nat
deriving Repr, DecidableEq

namespace Operands

/-- Nothing on the stack. -/
def empty : Operands := ⟨[], 0⟩

/-- The height of the stack. -/
def size (stack : Operands) : Nat := stack.slots.length

/-- Whether nothing is on the stack. -/
def isEmpty (stack : Operands) : Bool := stack.slots.isEmpty

/-- Puts a node on top. -/
def push (stack : Operands) (node : Handle) : Operands :=
  ⟨⟨node, false⟩ :: stack.slots, max stack.maxDepth (stack.slots.length + 1)⟩

/-- Takes off the top. -/
def pop (stack : Operands) : Except EditError (Handle × Operands) :=
  match stack.slots with
  | [] => .error (.stackUnderflow 1 0)
  | slot :: rest => .ok (slot.node, { stack with slots := rest })

/-- Takes off several entries, in the order in which they were pushed. -/
def popMany (stack : Operands) (count : Nat) : Except EditError (List Handle × Operands) :=
  if stack.size < count then .error (.stackUnderflow count stack.size)
  else
    .ok (((stack.slots.take count).map (·.node)).reverse,
      { stack with slots := stack.slots.drop count })

/-- The node on top. -/
def top (stack : Operands) : Except EditError Handle :=
  match stack.slots with
  | [] => .error (.stackUnderflow 1 0)
  | slot :: _ => .ok slot.node

/-- Marks the top as a parent. -/
def markParent (stack : Operands) : Operands :=
  match stack.slots with
  | [] => stack
  | slot :: rest => { stack with slots := { slot with isParent := true } :: rest }

/-- How many entries were neither consumed nor used as a parent. -/
def unconsumed (stack : Operands) : Nat := stack.slots.countP fun slot => !slot.isParent

/-- Takes everything off; the greatest height is remembered. -/
def clear (stack : Operands) : Operands := { stack with slots := [] }

end Operands

end PageHost
