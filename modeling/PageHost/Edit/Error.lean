import PageHost.Document.Change
import PageHost.Edit.Basic
/-!
# Why edits fail

One constructor for each cause. Apart from the errors of the document itself,
each means that engine and page disagree about the state of the page.
-/

namespace PageHost

/-- Why an edit fails. -/
inductive EditError where
  | unknownNode (id : NodeId)
  | duplicateBinding (id : NodeId)
  | reservedNodeId
  | stackUnderflow (requested available : Nat)
  | unknownTemplate (name : String)
  | templateRedefinition (name : String)
  | templateRootOutOfRange (name : String) (index : Nat)
  | invalidPayload (kind : String)
  | templateNode (node : Handle)
  | invalidPath (path : List Nat)
  | residualStack (depth : Nat)
  | dom (cause : DomError)
deriving Repr, DecidableEq

/-- Why a batch fails: the error and where it arose. -/
structure BatchError where
  /-- The position of the failing edit; the number of edits for a check at the end. -/
  index : Nat
  opcode : String
  cause : EditError
deriving Repr, DecidableEq

namespace EditError

/-- A path in a message. -/
def pathText (path : List Nat) : String := "[" ++ ", ".intercalate (path.map toString) ++ "]"

/-- The text of an error. -/
def message : EditError → String
  | .unknownNode id => "unknown node id " ++ toString id
  | .duplicateBinding id => "node id " ++ toString id ++ " is already bound"
  | .reservedNodeId => "node id 0 is reserved"
  | .stackUnderflow requested available =>
    "operand stack underflow: needed " ++ toString requested ++ ", had " ++ toString available
  | .unknownTemplate name => "unknown template '" ++ name ++ "'"
  | .templateRedefinition name =>
    "template '" ++ name ++ "' was already registered with a different structure"
  | .templateRootOutOfRange name index =>
    "template '" ++ name ++ "' has no root at index " ++ toString index
  | .invalidPayload kind => "expected a node handle or element id, got " ++ kind
  | .templateNode node => "node " ++ handleText node ++ " belongs to a registered template"
  | .invalidPath path => "no node at path " ++ pathText path
  | .residualStack depth =>
    "operand stack holds " ++ toString depth ++ " node(s) at the end of the batch"
  | .dom cause => cause.message

end EditError

/-- The text of a failed batch. -/
def BatchError.message (e : BatchError) : String :=
  "edit #" ++ toString e.index ++ " (" ++ e.opcode ++ ") failed: " ++ e.cause.message

end PageHost
