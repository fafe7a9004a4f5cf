import PageHost.Event.Fields
import PageHost.Proofs.Document.Positions
import PageHost.Proofs.Page.Insertions
/-!
# The values of a form

What a form reports is what its controls would report. A control counts if it has a name and an
event at the control itself does not call it unchecked; the names of the values are the names of
these controls, and the value of a name is the one that an event at the last of them reports.
-/

namespace PageHost

namespace Document

/-- The fields that a form event at a node reports. -/
def formReport (doc : Document) (event : String) (target : Handle) : Keyed String Json :=
  NativeEvent.fields doc ⟨event, target, .form⟩

/-- A control of a form that counts under a name: it stands below the form, and an event at the
control itself says that it is checked, or does not say whether it is. -/
structure Counts (doc : Document) (event : String) (form : Handle) (name : String)
    (control : Handle) : Prop where
  below : doc.Below form control
  inner : control ≠ form
  kind : ∃ tag ∈ doc.tag? control, tag = "input" ∨ tag = "select" ∨ tag = "textarea"
  named : doc.attribute? control "name" = some name
  checked : Keyed.get? (doc.formReport event control) "checked" = none ∨
    Keyed.get? (doc.formReport event control) "checked" = some (.bool true)

variable {doc : Document} {event name : String} {form control : Handle}

/-- The controls of a form are its inputs, selects and text areas. -/
theorem isFormControl_iff (doc : Document) (h : Handle) : doc.isFormControl h = true ↔
    ∃ tag ∈ doc.tag? h, tag = "input" ∨ tag = "select" ∨ tag = "textarea" := by
  unfold isFormControl
  cases doc.tag? h with
  | none => simp
  | some tag => simp [or_assoc]

/-- A control is no form. -/
theorem tag?_ne_form
    (h : ∃ tag ∈ doc.tag? control, tag = "input" ∨ tag = "select" ∨ tag = "textarea") :
    doc.tag? control ≠ some "form" := by
  obtain ⟨tag, htag, hkind⟩ := h
  rw [htag]
  intro he
  rw [Option.some.inj he] at hkind
  exact absurd hkind (by decide)

/-- A node with a tag exists. -/
theorem lt_size_of_tag? {h : Handle} {tag : String} (ht : doc.tag? h = some tag) :
    h < doc.size := by
  rw [lt_size_iff]
  rw [tag?_eq] at ht
  cases hc : doc.content? h with
  | none => simp [hc] at ht
  | some content => exact ⟨content, rfl⟩

/-! ## What a control reports -/

/-- An event at a form reports the values of its controls. -/
theorem formReport_form (hf : doc.tag? form = some "form") (event : String) :
    doc.formReport event form =
      [("type", .string event),
        ("values", .object ((doc.formValues form).map fun (name, value) => (name, .string value)))] := by
  simp [formReport, NativeEvent.fields, NativeEvent.categoryFields, NativeEvent.formFields, hf]

/-- An event elsewhere reports the value, and the tick of what can be ticked. -/
theorem formReport_control (hf : doc.tag? control ≠ some "form") (event : String) :
    doc.formReport event control =
      ("type", .string event) :: ("value", .string (doc.controlValue control)) ::
        if doc.isCheckable control then [("checked", .bool (doc.isChecked control))] else [] := by
  simp [formReport, NativeEvent.fields, NativeEvent.categoryFields, NativeEvent.formFields, hf]

/-- An event at a control reports its value. -/
theorem value_formReport (hf : doc.tag? control ≠ some "form") (event : String) :
    Keyed.get? (doc.formReport event control) "value" =
      some (.string (doc.controlValue control)) := by
  rw [formReport_control hf]
  rfl

/-- An event at a control reports whether it is checked if that can be asked of it. -/
theorem checked_formReport (hf : doc.tag? control ≠ some "form") (event : String) :
    Keyed.get? (doc.formReport event control) "checked" =
      if doc.isCheckable control then some (.bool (doc.isChecked control)) else none := by
  rw [formReport_control hf]
  split <;> rfl

/-! ## What a form gathers -/

/-- Whether the walk over a form takes the value of a node under a name. -/
def takes (doc : Document) (name : String) (h : Handle) : Bool :=
  decide (doc.attribute? h "name" = some name) &&
    (doc.isFormControl h && !(doc.isCheckable h && !doc.isChecked h))

/-- A control adds its own value under its name and leaves the other names. -/
theorem get?_addFormValue (values : Keyed String String) (h : Handle) (name : String) :
    Keyed.get? (doc.addFormValue values h) name =
      if doc.takes name h then some (doc.controlValue h) else Keyed.get? values name := by
  unfold addFormValue takes
  generalize (doc.isFormControl h && !(doc.isCheckable h && !doc.isChecked h)) = counts
  cases doc.attribute? h "name" with
  | none => simp
  | some own =>
    cases counts with
    | false => simp
    | true => simp [Keyed.get?_set]

/-- The last node of a walk that is taken under a name gives the value of the name. -/
theorem get?_foldl_addFormValue (nodes : List Handle) (name : String) :
    Keyed.get? (nodes.foldl doc.addFormValue []) name =
      ((nodes.filter (doc.takes name)).getLast?).map doc.controlValue := by
  induction nodes using List.reverseRecOn with
  | nil => rfl
  | append_singleton nodes h ih =>
    rw [List.foldl_append, List.foldl_cons, List.foldl_nil, get?_addFormValue, ih,
      List.filter_append]
    by_cases ht : doc.takes name h = true
    · simp [ht]
    · simp [ht]

/-- No name is reported twice. -/
theorem distinct_formValues (doc : Document) (form : Handle) :
    (doc.formValues form).Distinct := by
  unfold formValues
  induction doc.descendants form using List.reverseRecOn with
  | nil => exact Keyed.distinct_nil
  | append_singleton nodes h ih =>
    rw [List.foldl_append, List.foldl_cons, List.foldl_nil]
    unfold addFormValue
    split
    · exact ih
    · split
      · exact Keyed.distinct_set ih _ _
      · exact ih

/-- The walk over a form takes exactly the controls that count. -/
theorem mem_filter_takes_iff (ht : doc.Treelike) (hf : doc.tag? form = some "form")
    (event name : String) (control : Handle) :
    control ∈ (doc.descendants form).filter (doc.takes name) ↔
      doc.Counts event form name control := by
  have hs : form < doc.size := lt_size_of_tag? hf
  have hchecked : (∃ tag ∈ doc.tag? control, tag = "input" ∨ tag = "select" ∨ tag = "textarea") →
      ((Keyed.get? (doc.formReport event control) "checked" = none ∨
        Keyed.get? (doc.formReport event control) "checked" = some (.bool true)) ↔
        (!(doc.isCheckable control && !doc.isChecked control)) = true) := by
    intro hkind
    rw [checked_formReport (tag?_ne_form hkind)]
    cases doc.isCheckable control <;> cases doc.isChecked control <;> simp
  rw [List.mem_filter, mem_descendants_iff ht hs, takes, Bool.and_eq_true, Bool.and_eq_true,
    decide_eq_true_iff, isFormControl_iff]
  constructor
  · rintro ⟨hbelow, hname, hkind, hcounts⟩
    refine ⟨hbelow, ?_, hkind, hname, (hchecked hkind).mpr hcounts⟩
    rintro rfl
    exact tag?_ne_form hkind hf
  · rintro ⟨hbelow, -, hkind, hname, hreport⟩
    exact ⟨hbelow, hname, hkind, (hchecked hkind).mp hreport⟩

/-- A control that counts is the last one under its name: in document order every other one comes
before it. -/
def CountsLast (doc : Document) (event : String) (form : Handle) (name : String)
    (control : Handle) : Prop :=
  doc.Counts event form name control ∧
    ∀ other, doc.Counts event form name other → other ≠ control →
      doc.Precedes form other control

/-- At most one control counts last for a name. -/
theorem CountsLast.unique (ht : doc.Treelike) {other : Handle}
    (h : doc.CountsLast event form name control) (h' : doc.CountsLast event form name other) :
    control = other := by
  by_contra hne
  have hafter := h.2 other h'.1 (Ne.symm hne)
  have hbefore := h'.2 control h.1 hne
  exact Precedes.asymm ht hafter hbefore

/-- The last of the nodes that the walk takes is the last control that counts. -/
theorem countsLast_of_getLast? (ht : doc.Treelike) (hf : doc.tag? form = some "form")
    (event : String)
    (hlast : ((doc.descendants form).filter (doc.takes name)).getLast? = some control) :
    doc.CountsLast event form name control := by
  have hs : form < doc.size := lt_size_of_tag? hf
  obtain ⟨earlier, hsplit⟩ := List.getLast?_eq_some_iff.mp hlast
  have hsorted := (pairwise_precedes ht hs).filter (doc.takes name)
  rw [hsplit, List.pairwise_append] at hsorted
  have hcounts : ∀ other, doc.Counts event form name other ↔ other ∈ earlier ++ [control] := by
    intro other
    rw [← hsplit, mem_filter_takes_iff ht hf]
  refine ⟨(hcounts control).mpr (by simp), fun other hother hne => ?_⟩
  have hm : other ∈ earlier := by simpa [hne] using (hcounts other).mp hother
  exact hsorted.2.2 other hm control (List.mem_singleton_self control)

/-- The values of a form are those of its controls. What an event at a form reports has one value
for each name under which a control counts and for no other name, and it is the value that an event
at the last of these controls in document order reports. -/
theorem form_reports_its_controls (hr : doc.Reachable) (hf : doc.tag? form = some "form")
    (event : String) :
    ∃ values : Keyed String String,
      Keyed.get? (doc.formReport event form) "values" =
        some (.object (values.map fun (name, value) => (name, .string value))) ∧
      values.Distinct ∧
      (∀ name, name ∈ values.map Prod.fst ↔ ∃ control, doc.Counts event form name control) ∧
      ∀ name value, (name, value) ∈ values ↔ ∃ control,
        doc.CountsLast event form name control ∧
        Keyed.get? (doc.formReport event control) "value" = some (.string value) := by
  have ht := hr.treelike
  have hget : ∀ name, Keyed.get? (doc.formValues form) name =
      (((doc.descendants form).filter (doc.takes name)).getLast?).map doc.controlValue :=
    get?_foldl_addFormValue (doc.descendants form)
  refine ⟨doc.formValues form, ?_, distinct_formValues doc form, fun name => ?_, ?_⟩
  · rw [formReport_form hf]
    rfl
  · have hmem := mem_filter_takes_iff ht hf event name
    rw [Keyed.mem_keys_iff, hget, Option.isSome_map, List.getLast?_isSome]
    constructor
    · intro hne
      obtain ⟨control, hm⟩ := List.exists_mem_of_ne_nil _ hne
      exact ⟨control, (hmem control).mp hm⟩
    · rintro ⟨control, hcounts⟩
      exact List.ne_nil_of_mem ((hmem control).mpr hcounts)
  · intro name value
    rw [← Keyed.get?_eq_some_iff (distinct_formValues doc form), hget, Option.map_eq_some_iff]
    constructor
    · rintro ⟨control, hlast, rfl⟩
      have hcounts := countsLast_of_getLast? ht hf event hlast
      exact ⟨control, hcounts, value_formReport (tag?_ne_form hcounts.1.kind) event⟩
    · rintro ⟨control, hcounts, hvalue⟩
      rw [value_formReport (tag?_ne_form hcounts.1.kind)] at hvalue
      have hm := (mem_filter_takes_iff ht hf event name control).mpr hcounts.1
      obtain ⟨last, hlast⟩ := Option.isSome_iff_exists.mp
        (List.getLast?_isSome.mpr (List.ne_nil_of_mem hm))
      obtain rfl := hcounts.unique ht (countsLast_of_getLast? ht hf event hlast)
      exact ⟨control, hlast, by simpa using hvalue⟩

/-- A form with two fields of one name, two radio buttons of which the first is checked, a select
whose second option is selected, one with no option selected, and a textarea. The later field, the
checked button, the selected option, the first option and the text give the values. -/
theorem form_reports_its_controls_survey :
    let doc := afterOperations [.createElement "form" none, .createElement "input" none,
      .setAttribute 5 "name" none "who", .setAttribute 5 "value" none "a",
      .createElement "div" none, .createElement "input" none, .setAttribute 7 "name" none "who",
      .setAttribute 7 "value" none "b", .appendChildren 6 [7], .createElement "input" none,
      .setAttribute 8 "type" none "radio", .setAttribute 8 "name" none "size",
      .setAttribute 8 "checked" none "", .createElement "input" none,
      .setAttribute 9 "type" none "radio", .setAttribute 9 "name" none "size",
      .setAttribute 9 "value" none "xl", .createElement "select" none,
      .setAttribute 10 "name" none "color", .createElement "option" none, .createText "red",
      .appendChildren 11 [12], .createElement "option" none, .setAttribute 13 "value" none "g",
      .setAttribute 13 "selected" none "", .appendChildren 10 [11, 13],
      .createElement "select" none, .setAttribute 14 "name" none "day",
      .createElement "option" none, .createText "monday", .appendChildren 15 [16],
      .createElement "option" none, .setAttribute 17 "value" none "friday",
      .appendChildren 14 [15, 17], .createElement "textarea" none,
      .setAttribute 18 "name" none "note", .createText "soon", .appendChildren 18 [19],
      .appendChildren 4 [5, 6, 8, 9, 10, 14, 18]]
    doc.tag? 4 = some "form" ∧
      doc.formValues 4 =
        [("who", "b"), ("size", "on"), ("color", "g"), ("day", "monday"), ("note", "soon")] ∧
      ∀ name value, (name, value) ∈ doc.formValues 4 →
        ∃ control, doc.CountsLast "input" 4 name control ∧
          Keyed.get? (doc.formReport "input" control) "value" = some (.string value) := by
  intro doc
  have hr : doc.Reachable := reachable_afterOperations _
  have hf : doc.tag? 4 = some "form" := by decide +kernel
  have hvalues : doc.formValues 4 =
      [("who", "b"), ("size", "on"), ("color", "g"), ("day", "monday"), ("note", "soon")] := by
    decide +kernel
  clear_value doc
  obtain ⟨values, hreport, -, -, hlast⟩ := form_reports_its_controls hr hf "input"
  have hpairs : (doc.formValues 4).map (fun (name, value) => (name, Json.string value)) =
      values.map fun (name, value) => (name, .string value) := by
    rw [formReport_form hf] at hreport
    exact Json.object.inj (Option.some.inj hreport)
  refine ⟨hf, hvalues, fun name value hm => (hlast name value).mp ?_⟩
  have hstring : (name, Json.string value) ∈
      values.map fun (name, value) => (name, Json.string value) :=
    hpairs ▸ List.mem_map.mpr ⟨(name, value), hm, rfl⟩
  obtain ⟨⟨name', value'⟩, hm', he⟩ := List.mem_map.mp hstring
  cases he
  exact hm'

end Document

end PageHost
