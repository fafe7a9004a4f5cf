import PageHost.Payload
/-!
# Edits

The instructions that the engine sends. They work on a stack of nodes: creating
edits push, inserting edits pop what they insert. Nodes are named by ids that
the engine chooses; in the position of a target the id 0 stands for the node on
top of the stack.
-/

namespace PageHost

/-- A name that the engine gives to a node, below 2^64. -/
abbrev NodeId := Nat

/-- The id that is never bound. -/
def reservedId : NodeId := 0

/-- One instruction of the engine. -/
inductive Edit where
  | createElement (tag : String) (id : NodeId)
  | createElementNs (tag : String) (id : NodeId) (space : String)
  | createTextNode (text : String) (id : NodeId)
  | createPlaceholder (id : NodeId)
  | setNode (id : NodeId) (value : Payload)
  | pushRoot (id : NodeId)
  | popRoot
  | appendChildren (count : Nat)
  | replaceWith (id : NodeId) (count : Nat)
  | insertAfter (id : NodeId) (count : Nat)
  | insertBefore (id : NodeId) (count : Nat)
  | remove (id : NodeId)
  | setText (id : NodeId) (text : String)
  | setAttribute (id : NodeId) (name : String) (value : Payload) (space : Option String)
  | removeAttribute (id : NodeId) (name : String) (space : Option String)
  | newEventListener (name : String) (id : NodeId) (handler : Payload)
  | removeEventListener (id : NodeId) (name : String)
  | saveTemplate (name : String) (count : Nat)
  | loadTemplate (name : String) (index : Nat) (id : NodeId)
  | assignId (path : List Nat) (id : NodeId)
  | replacePlaceholder (path : List Nat) (count : Nat)

namespace Edit

/-- The name of the instruction. -/
def opcode : Edit → String
  | .createElement .. => "create_element"
  | .createElementNs .. => "create_element_ns"
  | .createTextNode .. => "create_text_node"
  | .createPlaceholder .. => "create_placeholder"
  | .setNode .. => "set_node"
  | .pushRoot .. => "push_root"
  | .popRoot => "pop_root"
  | .appendChildren .. => "append_children"
  | .replaceWith .. => "replace_with"
  | .insertAfter .. => "insert_after"
  | .insertBefore .. => "insert_before"
  | .remove .. => "remove"
  | .setText .. => "set_text"
  | .setAttribute .. => "set_attribute"
  | .removeAttribute .. => "remove_attribute"
  | .newEventListener .. => "new_event_listener"
  | .removeEventListener .. => "remove_event_listener"
  | .saveTemplate .. => "save_template"
  | .loadTemplate .. => "load_template"
  | .assignId .. => "assign_id"
  | .replacePlaceholder .. => "replace_placeholder"

/-- The id that an edit names, if it names one. -/
def id? : Edit → Option NodeId
  | .createElement _ id => some id
  | .createElementNs _ id _ => some id
  | .createTextNode _ id => some id
  | .createPlaceholder id => some id
  | .setNode id _ => some id
  | .pushRoot id => some id
  | .replaceWith id _ => some id
  | .insertAfter id _ => some id
  | .insertBefore id _ => some id
  | .remove id => some id
  | .setText id _ => some id
  | .setAttribute id _ _ _ => some id
  | .removeAttribute id _ _ => some id
  | .newEventListener _ id _ => some id
  | .removeEventListener id _ => some id
  | .loadTemplate _ _ id => some id
  | .assignId _ id => some id
  | .popRoot => none
  | .appendChildren _ => none
  | .saveTemplate _ _ => none
  | .replacePlaceholder _ _ => none

end Edit

end PageHost
