import PageHost.Proofs.Page.Kept
/-!
# Inserting edits

Five edits take nodes off the stack, find a node to put them at, carry out an
insertion and end with a step that cannot fail. A sixth moves nodes into a fresh
fragment and goes on from there. `Inserting` and `Saving` list the ways in which
these edits can end, so that no later proof has to follow their steps.
-/

namespace PageHost

/-- How many nodes an edit takes off the stack to insert them; none for an edit
that inserts nothing. -/
def Edit.operandCount? : Edit → Option Nat
  | .appendChildren count | .replaceWith _ count | .insertAfter _ count | .insertBefore _ count
  | .saveTemplate _ count | .replacePlaceholder _ count => some count
  | _ => none

namespace Page

/-- A step that changes nothing. -/
def Reads {α : Type} (step : Step α) : Prop :=
  ∀ page, (∃ e, step page = .error e page) ∨ ∃ a, step page = .ok a page

/-- A lookup changes nothing. -/
theorem reads_lookup (id : NodeId) : Reads (lookup id) := by
  intro page
  unfold lookup
  cases page.bindings.lookup id with
  | error e => exact Or.inl ⟨e, rfl⟩
  | ok node => exact Or.inr ⟨node, rfl⟩

theorem reads_top : Reads top := by
  intro page
  unfold top
  cases page.operands.top with
  | error e => exact Or.inl ⟨e, rfl⟩
  | ok node => exact Or.inr ⟨node, rfl⟩

/-- Steps that change nothing change nothing in sequence. -/
theorem reads_bind {α β : Type} {first : Step α} {next : α → Step β} (h : Reads first)
    (h' : ∀ a, Reads (next a)) : Reads (first >>= next) := by
  intro page
  rcases h page with ⟨e, he⟩ | ⟨a, ha⟩
  · exact Or.inl ⟨e, run_bind_of_error he next⟩
  · rw [run_bind_of_ok ha]
    exact h' a page

/-- Following a path changes nothing. -/
theorem reads_atPath (path : List Nat) : Reads (atPath path) := by
  unfold atPath
  apply reads_bind reads_top
  intro node page
  dsimp only
  cases page.document.atPath node path with
  | none => exact Or.inl ⟨_, rfl⟩
  | some found => exact Or.inr ⟨found, rfl⟩

/-- Operands that are refused stay on the stack. -/
theorem popMany_of_error {page : Page} {count : Nat} {e : EditError}
    (h : page.operands.popMany count = .error e) : popMany count page = .error e page := by
  unfold popMany
  rw [h]

theorem popMany_of_ok {page : Page} {count : Nat} {nodes : List Handle} {operands : Operands}
    (h : page.operands.popMany count = .ok (nodes, operands)) :
    popMany count page = .ok nodes { page with operands := operands } := by
  unfold popMany
  rw [h]

/-- A change of the document that fails is an error of the page, with the document as it was
left. -/
theorem onDocument_of_error {α : Type} (page : Page) {change : Document.Change α} {e : DomError}
    {doc : Document} (h : change page.document = .error e doc) :
    onDocument change page = .error (.dom e) { page with document := doc } := by
  unfold onDocument
  rw [h]

theorem onDocument_of_ok {α : Type} (page : Page) {change : Document.Change α} {a : α}
    {doc : Document} (h : change page.document = .ok a doc) :
    onDocument change page = .ok a { page with document := doc } := by
  unfold onDocument
  rw [h]

/-! ## The five direct edits -/

/-- The ways in which an edit can end that takes `count` nodes off the stack and
inserts them, with `finish` as its last step. -/
inductive Inserting (page : Page) (count : Nat) (finish : Page → Page) :
    EStateM.Result EditError Page Tally → Prop where
  /-- There are too few nodes on the stack. -/
  | short (e : EditError) : Inserting page count finish (.error e page)
  /-- There is no node to put them at. -/
  | unplaced {nodes : List Handle} {operands : Operands} (e : EditError) :
      page.operands.popMany count = .ok (nodes, operands) →
      Inserting page count finish (.error e { page with operands := operands })
  /-- The insertion fails. -/
  | refused {nodes : List Handle} {operands : Operands} {doc : Document} (e : DomError) :
      page.operands.popMany count = .ok (nodes, operands) →
      (page.document.Treelike → Document.Insertion page.document nodes (.error e doc)) →
      doc.rootListeners = page.document.rootListeners →
      Inserting page count finish
        (.error (.dom e) { page with operands := operands, document := doc })
  /-- The insertion is carried out. -/
  | done {nodes : List Handle} {operands : Operands} {doc : Document} (tally : Tally) :
      page.operands.popMany count = .ok (nodes, operands) →
      (page.document.Treelike → Document.Insertion page.document nodes (.ok () doc)) →
      doc.rootListeners = page.document.rootListeners →
      Inserting page count finish
        (.ok tally (finish { page with operands := operands, document := doc }))

/-- Taking off operands, finding a place and changing the document there is an insertion. -/
theorem inserting_of_steps (page : Page) (count : Nat) {find : Step Handle}
    {change : Handle → List Handle → Document.Change Unit} {rest : Step Tally}
    {finish : Page → Page} {tally : Tally} (hfind : Reads find)
    (hchange : ∀ h nodes (doc : Document), doc.Treelike →
      Document.Insertion doc nodes (change h nodes doc))
    (hl : ∀ h nodes, Document.KeepsListeners (change h nodes))
    (hrest : ∀ page, rest page = .ok tally (finish page)) :
    Inserting page count finish ((do
      let nodes ← popMany count
      let h ← find
      onDocument (change h nodes)
      rest : Step Tally) page) := by
  cases hp : page.operands.popMany count with
  | error e =>
    rw [run_bind_of_error (popMany_of_error hp)]
    exact .short e
  | ok popped =>
    obtain ⟨nodes, operands⟩ := popped
    rw [run_bind_of_ok (popMany_of_ok hp)]
    rcases hfind { page with operands := operands } with ⟨e, he⟩ | ⟨h, hh⟩
    · rw [run_bind_of_error he]
      exact .unplaced e hp
    · rw [run_bind_of_ok hh]
      have hinsert := hchange h nodes page.document
      have hkeep := hl h nodes page.document
      cases hc : change h nodes page.document with
      | error e doc =>
        rw [hc] at hinsert hkeep
        rw [run_bind_of_error (onDocument_of_error { page with operands := operands } hc)]
        exact .refused e hp hinsert hkeep
      | ok u doc =>
        rw [hc] at hinsert hkeep
        rw [run_bind_of_ok (onDocument_of_ok { page with operands := operands } hc), hrest]
        exact .done tally hp hinsert hkeep

/-- Appending children inserts and marks the parent. -/
theorem inserting_appendChildren (page : Page) (count : Nat) :
    Inserting page count (fun page => { page with operands := page.operands.markParent })
      (apply (.appendChildren count) page) :=
  inserting_of_steps page count reads_top
    (fun h nodes doc _ => Document.insertion_appendChildren doc h nodes)
    Document.keepsListeners_appendChildren fun _ => rfl

/-- Replacing a node inserts and releases its id. -/
theorem inserting_replaceWith (page : Page) (id : NodeId) (count : Nat) :
    Inserting page count (fun page => (page.release id).2) (apply (.replaceWith id count) page) :=
  inserting_of_steps page count (reads_lookup id)
    (fun h nodes _ ht => Document.insertion_replaceWith ht h nodes)
    Document.keepsListeners_replaceWith fun _ => rfl

theorem inserting_insertAfter (page : Page) (id : NodeId) (count : Nat) :
    Inserting page count (fun page => page) (apply (.insertAfter id count) page) :=
  inserting_of_steps page count (reads_lookup id)
    (fun h nodes _ ht => Document.insertion_insertAfter ht h nodes)
    Document.keepsListeners_insertAfter fun _ => rfl

theorem inserting_insertBefore (page : Page) (id : NodeId) (count : Nat) :
    Inserting page count (fun page => page) (apply (.insertBefore id count) page) :=
  inserting_of_steps page count (reads_lookup id)
    (fun h nodes _ ht => Document.insertion_insertBefore ht h nodes)
    Document.keepsListeners_insertBefore fun _ => rfl

theorem inserting_replacePlaceholder (page : Page) (path : List Nat) (count : Nat) :
    Inserting page count (fun page => page) (apply (.replacePlaceholder path count) page) :=
  inserting_of_steps page count (reads_atPath path)
    (fun h nodes _ ht => Document.insertion_replaceWith ht h nodes)
    Document.keepsListeners_replaceWith fun _ => rfl

/-! ## Saving a template -/

/-- The page without the ids of nodes at or below `top`, and without their registrations. -/
def releaseBelow (page : Page) (top : Handle) : Page :=
  let (released, bindings) := page.bindings.unbindWhere (page.document.descendants top).contains
  released.foldl forget { page with bindings := bindings }

/-- The last step of saving a template: its fragment gets the name, if the name is free or the
template is the same. -/
def registerTemplate (page : Page) (name : String) (fragment : Handle) :
    EStateM.Result EditError Page Unit :=
  match Templates.registerInPlace page.document name fragment page.templates with
  | .error e templates => .error e { page with templates := templates }
  | .ok _ templates => .ok () { page with templates := templates }

/-- The document with the fresh fragment that takes the nodes of a template. -/
def withFragment (page : Page) : Document := (page.document.create .fragment).2

/-- The ways in which saving a template can end. -/
inductive Saving (page : Page) (name : String) (count : Nat) :
    EStateM.Result EditError Page Tally → Prop where
  /-- There are too few nodes on the stack. -/
  | short (e : EditError) : (∀ name, e ≠ .templateRedefinition name) →
      Saving page name count (.error e page)
  /-- The nodes cannot be moved into the fragment. -/
  | refused {nodes : List Handle} {operands : Operands} {doc : Document} (e : DomError) :
      page.operands.popMany count = .ok (nodes, operands) →
      Document.Insertion page.withFragment nodes (.error e doc) →
      doc.rootListeners = page.document.rootListeners →
      Saving page name count
        (.error (.dom e) { page with operands := operands, document := doc })
  /-- The nodes have moved and their ids are released, but another template has the name. -/
  | taken {nodes : List Handle} {operands : Operands} {doc : Document} :
      page.operands.popMany count = .ok (nodes, operands) →
      Document.Insertion page.withFragment nodes (.ok () doc) →
      doc.rootListeners = page.document.rootListeners →
      Saving page name count (.error (.templateRedefinition name)
        ({ page with operands := operands, document := doc }.releaseBelow page.document.size))
  /-- The template is registered. -/
  | done {nodes : List Handle} {operands : Operands} {doc : Document} (templates : Templates) :
      page.operands.popMany count = .ok (nodes, operands) →
      Document.Insertion page.withFragment nodes (.ok () doc) →
      doc.rootListeners = page.document.rootListeners →
      Saving page name count (.ok .plain
        { { page with operands := operands, document := doc }.releaseBelow page.document.size with
          templates := templates })

/-- Operands are refused for an underflow only. -/
theorem popMany_error {stack : Operands} {count : Nat} {e : EditError}
    (h : stack.popMany count = .error e) : e = .stackUnderflow count stack.size := by
  unfold Operands.popMany at h
  split at h
  · cases h
    rfl
  · cases h

/-- A registration fails only because of another template of its name, and then it changes
nothing. -/
theorem registerInPlace_error {templates after : Templates} {doc : Document} {name : String}
    {fragment : Handle} {e : EditError}
    (h : Templates.registerInPlace doc name fragment templates = .error e after) :
    e = .templateRedefinition name ∧ after = templates := by
  unfold Templates.registerInPlace at h
  split at h
  · split at h
    · cases h
    · cases h
      exact ⟨rfl, rfl⟩
  · cases h

/-- A template that is refused leaves the table as it was. -/
theorem atomic_registerInPlace (doc : Document) (name : String) (fragment : Handle) :
    Atomic (Templates.registerInPlace doc name fragment) :=
  fun _ _ _ h => (registerInPlace_error h).2

/-- Registering a fragment, by what it comes to. -/
theorem registerInPlace_eq (templates : Templates) (doc : Document) (name : String)
    (fragment : Handle) :
    Templates.registerInPlace doc name fragment templates =
      match templates.register doc name fragment with
      | .error e => .error e templates
      | .ok (fresh, after) => .ok fresh after := by
  rw [(atomic_registerInPlace doc name fragment).run_eq, Templates.register]
  cases outcome (Templates.registerInPlace doc name fragment) templates <;> rfl

/-- A template is refused as redefined only. -/
theorem register_error {templates : Templates} {doc : Document} {name : String} {fragment : Handle}
    {e : EditError} (h : templates.register doc name fragment = .error e) :
    e = .templateRedefinition name := by
  have hrun := registerInPlace_eq templates doc name fragment
  rw [h] at hrun
  exact (registerInPlace_error hrun).1

/-- The last step of saving a template, by what registering its fragment comes to. -/
theorem registerTemplate_eq (page : Page) (name : String) (fragment : Handle) :
    page.registerTemplate name fragment =
      match page.templates.register page.document name fragment with
      | .error e => .error e page
      | .ok (_, templates) => .ok () { page with templates := templates } := by
  rw [registerTemplate, registerInPlace_eq]
  cases page.templates.register page.document name fragment <;> rfl

/-- The operands leave the stack before it turns out that they cannot move into the fragment. -/
theorem saveTemplate_of_error {page : Page} {count : Nat} {nodes : List Handle}
    {operands : Operands} {e : DomError} {doc : Document}
    (hp : page.operands.popMany count = .ok (nodes, operands))
    (hc : Document.appendChildren page.document.size nodes page.withFragment = .error e doc)
    (name : String) :
    saveTemplate name count page =
      .error (.dom e) { page with operands := operands, document := doc } := by
  let made : Page := { page with operands := operands, document := page.withFragment }
  have hmade : makeNode (fun doc => doc.create .fragment) { page with operands := operands } =
      .ok page.document.size made := rfl
  unfold saveTemplate
  rw [run_bind_of_ok (popMany_of_ok hp), run_bind_of_ok hmade]
  exact run_bind_of_error (onDocument_of_error made hc) _

/-- When the operands have moved into the fragment and the ids inside are released, the fragment is
registered. -/
theorem saveTemplate_of_ok {page : Page} {count : Nat} {nodes : List Handle}
    {operands : Operands} {doc : Document}
    (hp : page.operands.popMany count = .ok (nodes, operands))
    (hc : Document.appendChildren page.document.size nodes page.withFragment = .ok () doc)
    (name : String) :
    saveTemplate name count page =
      (({ page with operands := operands, document := doc } : Page).releaseBelow
        page.document.size).registerTemplate name page.document.size := by
  let made : Page := { page with operands := operands, document := page.withFragment }
  have hmade : makeNode (fun doc => doc.create .fragment) { page with operands := operands } =
      .ok page.document.size made := rfl
  unfold saveTemplate
  rw [run_bind_of_ok (popMany_of_ok hp), run_bind_of_ok hmade]
  exact run_bind_of_ok (onDocument_of_ok made hc) _

/-- Saving a template gathers the operands and registers what was gathered. -/
theorem saving_saveTemplate (page : Page) (name : String) (count : Nat) :
    Saving page name count (apply (.saveTemplate name count) page) := by
  show Saving page name count ((saveTemplate name count >>= fun _ => pure .plain : Step Tally) page)
  cases hp : page.operands.popMany count with
  | error e =>
    have hrun : saveTemplate name count page = .error e page := by
      unfold saveTemplate
      rw [run_bind_of_error (popMany_of_error hp)]
    rw [run_bind_of_error hrun]
    refine .short e ?_
    rw [popMany_error hp]
    exact nofun
  | ok popped =>
    obtain ⟨nodes, operands⟩ := popped
    have hinsert := Document.insertion_appendChildren page.withFragment page.document.size nodes
    have hkeep := Document.keepsListeners_appendChildren page.document.size nodes page.withFragment
    cases hc : Document.appendChildren page.document.size nodes page.withFragment with
    | error e doc =>
      rw [hc] at hinsert hkeep
      rw [run_bind_of_error (saveTemplate_of_error hp hc name)]
      exact .refused e hp hinsert hkeep
    | ok u doc =>
      rw [hc] at hinsert hkeep
      have hsteps := saveTemplate_of_ok hp hc name
      rw [registerTemplate_eq] at hsteps
      split at hsteps
      · rename_i e he
        rw [run_bind_of_error hsteps, register_error he]
        exact .taken hp hinsert hkeep
      · rename_i templates _
        rw [run_bind_of_ok hsteps]
        exact .done templates hp hinsert hkeep

end Page

end PageHost
