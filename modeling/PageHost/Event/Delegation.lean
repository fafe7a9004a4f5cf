import PageHost.Text.Blank
import PageHost.Bindings
import PageHost.Event.Fields
/-!
# Delegation

The page listens once per event name, at its root, as long as some id is
interested in that name. An event is reported for the nearest node at or above
its target that has an id; the report says whether some node further up listens
too, and carries the handler of the node itself.
-/

namespace PageHost

/-- The interest of one id in one event. -/
structure Interest where
  /-- The handler registered last. -/
  handler : Payload
  /-- How many registrations there are. -/
  count : Nat

/-- Who listens for what. -/
structure Delegation where
  interests : Keyed (NodeId × String) Interest
  /-- The number of registrations behind each root listener. -/
  rootCounts : Keyed String Nat

/-- A report of an event. -/
structure EventRecord where
  target : NodeId
  name : String
  /-- Whether some node above the target listens for the event. -/
  bubbles : Bool
  fields : List (String × Json)
  handler : Option Payload

/-- What an event led to. -/
structure Outcome where
  record : Option EventRecord
  defaultPrevented : Bool

namespace Delegation

/-- Nobody listens. -/
def empty : Delegation := ⟨[], []⟩

/-- The interest of an id in an event. -/
def interest? (d : Delegation) (id : NodeId) (name : String) : Option Interest :=
  Keyed.get? d.interests (id, name)

/-- Whether an id listens for an event. -/
def isListening (d : Delegation) (id : NodeId) (name : String) : Bool :=
  (d.interest? id name).isSome

/-- The number of registrations of an id for an event. -/
def interestCount (d : Delegation) (id : NodeId) (name : String) : Nat :=
  match d.interest? id name with
  | none => 0
  | some interest => interest.count

/-- The handler of an id for an event. -/
def handler? (d : Delegation) (id : NodeId) (name : String) : Option Payload :=
  (d.interest? id name).map (·.handler)

/-- The number of registrations for an event, of all ids. -/
def rootCount (d : Delegation) (name : String) : Nat := (Keyed.get? d.rootCounts name).getD 0

/-- Adds a registration; whether that made the page listen for the event. -/
def listen (d : Delegation) (doc : Document) (id : NodeId) (name : String) (handler : Payload) :
    Bool × Delegation × Document :=
  let interests := Keyed.set d.interests (id, name) ⟨handler, d.interestCount id name + 1⟩
  let count := d.rootCount name + 1
  let d : Delegation := ⟨interests, Keyed.set d.rootCounts name count⟩
  if count = 1 then
    let (installed, doc) := doc.installRootListener name
    (installed, d, doc)
  else (false, d, doc)

/-- Takes registrations off the root count of an event; whether the page stopped
listening for it. -/
def releaseRoot (d : Delegation) (doc : Document) (name : String) (units : Nat) :
    Bool × Delegation × Document :=
  match Keyed.get? d.rootCounts name with
  | none => (false, d, doc)
  | some count =>
    if count ≤ units then
      let (removed, doc) := doc.uninstallRootListener name
      (removed, { d with rootCounts := Keyed.erase d.rootCounts name }, doc)
    else (false, { d with rootCounts := Keyed.set d.rootCounts name (count - units) }, doc)

/-- Takes back one registration, if there is one; whether the page stopped
listening for the event. -/
def unlisten (d : Delegation) (doc : Document) (id : NodeId) (name : String) :
    Bool × Delegation × Document :=
  match d.interest? id name with
  | none => (false, d, doc)
  | some interest =>
    let interests :=
      if interest.count ≤ 1 then Keyed.erase d.interests (id, name)
      else Keyed.set d.interests (id, name) { interest with count := interest.count - 1 }
    releaseRoot { d with interests := interests } doc name 1

/-- Takes back every registration of an id; how many there were. -/
def forget (d : Delegation) (doc : Document) (id : NodeId) : Nat × Delegation × Document :=
  let doomed := d.interests.filter fun entry => decide (entry.1.1 = id)
  let kept : Delegation :=
    { d with interests := d.interests.filter fun entry => !decide (entry.1.1 = id) }
  doomed.foldl
    (fun (released, d, doc) entry =>
      let (_, d, doc) := releaseRoot d doc entry.1.2 entry.2.count
      (released + entry.2.count, d, doc))
    (0, kept, doc)

/-! ## Events -/

/-- The nearest node at or above a node that has an id, with its most recent id. -/
def resolveTarget (doc : Document) (table : Bindings) (h : Handle) : Option (Handle × NodeId) :=
  (h :: doc.ancestors h).findSome? fun node => (table.idOf? node).map fun id => (node, id)

/-- Whether the page keeps the platform from acting on an event: always on
`submit`, else when the target's `prevent-default` attribute names the event. -/
def preventsDefault (doc : Document) (target : Handle) (name : String) : Bool :=
  name = "submit" ||
    match doc.attribute? target "prevent-default" with
    | none => false
    | some list => (Text.words list).any fun entry => entry = "on" ++ name

/-- What an event leads to. -/
def dispatch (d : Delegation) (doc : Document) (table : Bindings) (event : NativeEvent) :
    Outcome :=
  if doc.hasRootListener event.name then
    match resolveTarget doc table event.target with
    | none => ⟨none, false⟩
    | some (target, id) =>
      { record := some {
          target := id
          name := event.name
          bubbles := (doc.ancestors target).any fun above =>
            (table.idsOf above).any fun other => d.isListening other event.name
          fields := event.fields doc
          handler := (table.idsOf target).reverse.findSome? fun other =>
            d.handler? other event.name }
        defaultPrevented := preventsDefault doc target event.name }
  else ⟨none, false⟩

end Delegation

end PageHost
