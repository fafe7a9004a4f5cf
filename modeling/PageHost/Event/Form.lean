import PageHost.Keyed
import PageHost.Document.Walk
import PageHost.Document.Tree
/-!
# Values of form controls

Values are read from the attributes and texts of the page. A form gathers the
values of the named controls below it, in document order, the last of a name
winning; a box or a radio button counts only when it has a `checked` attribute.
-/

namespace PageHost.Document

/-- Whether a node is a control with a value of its own. -/
def isFormControl (doc : Document) (h : Handle) : Bool :=
  match doc.tag? h with
  | some tag => tag = "input" || tag = "select" || tag = "textarea"
  | none => false

/-- Whether a node is a box or a radio button. -/
def isCheckable (doc : Document) (h : Handle) : Bool :=
  doc.tag? h = some "input" &&
    (doc.attribute? h "type" = some "checkbox" || doc.attribute? h "type" = some "radio")

/-- Whether a node has a `checked` attribute. -/
def isChecked (doc : Document) (h : Handle) : Bool := (doc.attribute? h "checked").isSome

/-- The value of an option: its attribute or its text. -/
def optionValue (doc : Document) (h : Handle) : String :=
  (doc.attribute? h "value").getD (doc.textContent h)

/-- The option that a select shows: the first that is selected, else the first. -/
def chosenOption? (doc : Document) (h : Handle) : Option Handle :=
  let options := (doc.descendants h).filter fun d => doc.tag? d = some "option"
  (options.find? fun d => (doc.attribute? d "selected").isSome) <|> options.head?

/-- The value of a control. -/
def controlValue (doc : Document) (h : Handle) : String :=
  match doc.tag? h with
  | some "textarea" => doc.textContent h
  | some "select" =>
    match doc.chosenOption? h with
    | some option => doc.optionValue option
    | none => ""
  | some "input" =>
    match doc.attribute? h "value" with
    | some value => value
    | none => if doc.isCheckable h then "on" else ""
  | _ => (doc.attribute? h "value").getD ""

/-- Adds a node to the values of a form if it is a control that counts. -/
def addFormValue (doc : Document) (values : Keyed String String) (h : Handle) :
    Keyed String String :=
  match doc.attribute? h "name" with
  | none => values
  | some name =>
    if doc.isFormControl h && !(doc.isCheckable h && !doc.isChecked h) then
      Keyed.set values name (doc.controlValue h)
    else values

/-- The values of a form by name. -/
def formValues (doc : Document) (form : Handle) : Keyed String String :=
  (doc.descendants form).foldl doc.addFormValue []

end PageHost.Document
