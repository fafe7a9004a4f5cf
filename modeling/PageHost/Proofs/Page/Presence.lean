import PageHost.Proofs.Document.Presence
import PageHost.Proofs.Page.Cause
import PageHost.Proofs.Page.Upkeep
/-!
# Nodes that a page refers to

Bound nodes, operands and the fragments of templates exist, and so does all that lies
above them and below them: a page only comes to refer to a node that it has found, and
no node is ever freed. So no edit fails for want of a node, and removing an id, taking a
registration back and stamping a root of a template never fail at all.
-/

namespace PageHost

/-- The error says that a node does not exist. -/
def EditError.isMissing : EditError → Bool
  | .dom cause => cause.isMissing
  | _ => false

/-- An error that is neither of the document nor of the stack reports no node missing. -/
theorem EditError.isMissing_of_isOwn {e : EditError} (h : e.isOwn = true) :
    e.isMissing = false := by
  cases e with
  | dom cause => cases h
  | _ => rfl

namespace Page

variable {α β : Type}

/-- The step does not miss a node: if it fails, then for another reason. -/
def MissesNone (step : Step α) (page : Page) : Prop :=
  ∀ e after, step page = .error e after → e.isMissing = false

/-- Steps that report no node missing report none in sequence. -/
theorem MissesNone.bind {first : Step α} {next : α → Step β} {page : Page}
    (h : MissesNone first page)
    (h' : ∀ a middle, first page = .ok a middle → MissesNone (next a) middle) :
    MissesNone (first >>= next) page := by
  intro e after he
  cases hr : first page with
  | ok a middle =>
    rw [run_bind_of_ok hr] at he
    exact h' a middle hr e after he
  | error cause failed =>
    rw [run_bind_of_error hr] at he
    cases he
    exact h e after hr

/-- A step that fails in other ways only reports no node missing. -/
theorem FailsIn.missesNone {step : Step α} (h : FailsIn (fun e => e.isMissing = false) step)
    (page : Page) : MissesNone step page := h page

/-- A change of the document that reports no node missing reports none to the page. -/
theorem missesNone_onDocument {change : Document.Change α} {page : Page}
    (h : Document.MissesNone change page.document) : MissesNone (onDocument change) page := by
  intro e after he
  unfold onDocument at he
  cases hr : change page.document with
  | ok a doc =>
    rw [hr] at he
    cases he
  | error cause doc =>
    rw [hr] at he
    cases he
    exact h cause doc hr

/-! ## Steps that find a node -/

/-- The step changes nothing, misses none, and finds a node that exists. -/
structure Finds (step : Step Handle) : Prop where
  reads : Reads step
  missesNone : FailsIn (fun e => e.isMissing = false) step
  exist : ∀ page h after, page.WellFormed → step page = .ok h after → h < page.document.size

/-- A lookup finds nodes that exist. -/
theorem finds_lookup (id : NodeId) : Finds (lookup id) where
  reads := reads_lookup id
  missesNone := failsIn_lookup (fun _ => EditError.isMissing_of_isOwn) id
  exist page h after hw hr := by
    unfold lookup Bindings.lookup at hr
    cases hl : page.bindings.lookup? id with
    | none =>
      rw [hl] at hr
      cases hr
    | some node =>
      rw [hl] at hr
      cases hr
      exact hw.bound id h hl

theorem finds_top : Finds top where
  reads := reads_top
  missesNone page e after he := by
    cases hs : page.operands.slots with
    | nil =>
      rw [top_of_nil hs] at he
      cases he
      rfl
    | cons slot rest =>
      rw [top_of_slots hs] at he
      cases he
  exist page h after hw hr := by
    cases hs : page.operands.slots with
    | nil =>
      rw [top_of_nil hs] at hr
      cases hr
    | cons slot rest =>
      rw [top_of_slots hs] at hr
      cases hr
      exact hw.stacked slot (hs ▸ List.mem_cons_self)

theorem finds_target (id : NodeId) : Finds (target id) := by
  unfold target
  split
  · exact finds_top
  · exact finds_lookup id

/-- A path leads to a node that exists. -/
theorem finds_atPath (path : List Nat) : Finds (atPath path) where
  reads := reads_atPath path
  missesNone := by
    apply failsIn_bind finds_top.missesNone
    intro node page e after he
    dsimp only at he
    split at he
    · cases he
      rfl
    · cases he
  exist page h after hw hr := by
    rcases reads_top page with ⟨e, he⟩ | ⟨start, hstart⟩
    · have hrun : atPath path page = .error e page := run_bind_of_error he _
      rw [hrun] at hr
      cases hr
    · have hs := finds_top.exist page start page hw hstart
      rw [atPath_of_top hstart] at hr
      split at hr
      · cases hr
      · rename_i hfound
        cases hr
        exact lt_size_of_atPath hw.tree hs hfound

/-- What is done to a node that is found may rely on its existence. -/
theorem Finds.bind {find : Step Handle} (hf : Finds find) {page : Page} (hw : page.WellFormed)
    {next : Handle → Step α} (h : ∀ node, node < page.document.size → MissesNone (next node) page) :
    MissesNone (find >>= next) page := by
  apply (hf.missesNone.missesNone page).bind
  intro node middle hr
  have hs := hf.exist page node middle hw hr
  rcases hf.reads page with ⟨e, he⟩ | ⟨found, hfound⟩
  · rw [he] at hr
    cases hr
  · rw [hfound] at hr
    cases hr
    exact h node hs

/-- What is done to operands may rely on their existence. -/
theorem missesNone_popMany {page : Page} (hw : page.WellFormed) (count : Nat)
    {next : List Handle → Step α}
    (h : ∀ nodes operands, WellFormed { page with operands := operands } →
      (∀ x ∈ nodes, x < page.document.size) →
      MissesNone (next nodes) { page with operands := operands }) :
    MissesNone (popMany count >>= next) page := by
  cases hp : page.operands.popMany count with
  | error e =>
    intro cause after he
    rw [run_bind_of_error (popMany_of_error hp)] at he
    cases he
    rw [popMany_error hp]
    rfl
  | ok popped =>
    obtain ⟨nodes, operands⟩ := popped
    intro cause after he
    rw [run_bind_of_ok (popMany_of_ok hp)] at he
    exact h nodes operands (hw.withOperands hp) (fun x hx => lt_size_of_popMany hw hp hx) cause
      after he

/-! ## Edits -/

/-- A node that exists is changed, and then the edit ends. -/
theorem missesNone_changing {change : Document.Change α} {page : Page}
    (h : Document.MissesNone change page.document) {rest : α → Step Tally}
    (hrest : ∀ a, FailsIn (fun e => e.isMissing = false) (rest a)) :
    MissesNone (onDocument change >>= rest) page :=
  (missesNone_onDocument h).bind fun a _ _ => (hrest a).missesNone _

/-- Operands that exist are put at a node that is found. -/
theorem missesNone_inserting {page : Page} (hw : page.WellFormed) (count : Nat)
    {find : Step Handle} (hf : Finds find) {change : Handle → List Handle → Document.Change Unit}
    (hchange : ∀ node nodes, node < page.document.size →
      (∀ x ∈ nodes, x < page.document.size) →
      Document.MissesNone (change node nodes) page.document)
    {rest : Step Tally} (hrest : FailsIn (fun e => e.isMissing = false) rest) :
    MissesNone (do
      let nodes ← popMany count
      let node ← find
      onDocument (change node nodes)
      rest) page := by
  apply missesNone_popMany hw
  intro nodes operands hw hn
  apply hf.bind hw
  intro node hs
  refine missesNone_changing ?_ fun _ => hrest
  exact hchange node nodes hs hn

/-- Saving a template reports no node missing. -/
theorem missesNone_saveTemplate {page : Page} (hw : page.WellFormed) (name : String)
    (count : Nat) : MissesNone (saveTemplate name count) page := by
  apply missesNone_popMany hw
  intro nodes operands hw hn
  refine ((failsIn_makeNode _).missesNone _).bind fun fragment made hmade => ?_
  cases hmade
  have hfresh : page.document.size < page.withFragment.size := by
    show page.document.size < (page.document.push _).size
    rw [Document.size_push]
    exact Nat.lt_succ_self _
  have hgather := Document.missesNone_appendChildren (treelike_withFragment hw) _ nodes hfresh
    fun x hx => Nat.lt_trans (hn x hx) hfresh
  refine (missesNone_onDocument hgather).bind fun _ _ _ e after he => ?_
  dsimp only at he
  split at he
  · rename_i cause templates hr
    rw [(registerInPlace_error hr).1] at he
    cases he
    rfl
  · cases he

/-- A root of a template can be stamped. -/
theorem exists_stampRoot {page : Page} (hw : page.WellFormed) {name : String}
    {template : Template} (ht : Keyed.get? page.templates.entries name = some template)
    {index : Nat} {original : Handle}
    (hi : (page.document.children template.fragment)[index]? = some original) :
    ∃ node doc, page.document.Makes node doc ∧
      stampRoot name index page = .ok node { page with document := doc } := by
  have hs := hw.tree.child_lt_size (List.mem_of_getElem? hi)
  obtain ⟨copy, doc, hc⟩ := Document.exists_deepClone hw.tree hs
  refine ⟨copy, doc, .copied hc, ?_⟩
  unfold stampRoot Templates.stampRoot Templates.find Templates.copyNode
  rw [ht]
  dsimp only
  rw [hi]
  dsimp only
  rw [hc]

theorem missesNone_stampRoot {page : Page} (hw : page.WellFormed) (name : String) (index : Nat) :
    MissesNone (stampRoot name index) page := by
  intro e after he
  cases ht : Keyed.get? page.templates.entries name with
  | none =>
    unfold stampRoot Templates.stampRoot Templates.find at he
    rw [ht] at he
    cases he
    rfl
  | some template =>
    cases hi : (page.document.children template.fragment)[index]? with
    | none =>
      unfold stampRoot Templates.stampRoot Templates.find at he
      rw [ht] at he
      dsimp only at he
      rw [hi] at he
      cases he
      rfl
    | some original =>
      obtain ⟨node, doc, -, hok⟩ := exists_stampRoot hw ht hi
      rw [hok] at he
      cases he

/-- A page that is in order removes what an id names, or does nothing for an unbound one. -/
theorem exists_remove {page : Page} (hw : page.WellFormed) (id : NodeId) :
    ∃ found after, remove id page = .ok found after := by
  cases hl : page.bindings.lookup? id with
  | none =>
    unfold remove
    rw [release_of_unbound hl]
    exact ⟨false, page, rfl⟩
  | some node =>
    have hs : node < (page.release id).2.document.size := by
      rw [(Document.alike_of_nodes (nodes_release page id)).size]
      exact hw.bound id node hl
    obtain ⟨found, doc, hd⟩ := Document.exists_detach hs
    unfold remove
    rw [release_of_bound hl] at hd ⊢
    exact ⟨found, _, onDocument_of_ok _ hd⟩

theorem missesNone_setAttribute {page : Page} (hw : page.WellFormed) (id : NodeId) (name : String)
    (value : Payload) (space : Option String) :
    MissesNone (setAttribute id name value space) page := by
  apply (finds_target id).bind hw
  intro node hs e after he
  dsimp only at he
  cases hv : value.attributeText with
  | error cause =>
    rw [hv] at he
    cases he
    cases value <;> cases hv
    rfl
  | ok text =>
    rw [hv] at he
    cases text with
    | some text =>
      exact missesNone_onDocument (Document.missesNone_setAttribute hs name space text) e after he
    | none =>
      dsimp only at he
      split at he
      · rename_i hr
        cases he
        exact missesNone_onDocument (Document.missesNone_removeAttribute hs name space) _ _ hr
      · cases he

/-- On a page that is in order no edit fails for want of a node. -/
theorem missesNone_apply {page : Page} (hw : page.WellFormed) (edit : Edit) :
    MissesNone (apply edit) page := by
  have hown : ∀ e : EditError, e.isOwn = true → e.isMissing = false :=
    fun _ => EditError.isMissing_of_isOwn
  have hmade : ∀ (id : NodeId) (make : Document → Handle × Document), MissesNone (do
      let node ← makeNode make
      bindAndPush id node
      return Tally.creation) page :=
    fun id make => (failsIn_bound hown (failsIn_makeNode make) id).missesNone page
  cases edit with
  | createElement tag id => exact hmade id _
  | createElementNs tag id space => exact hmade id _
  | createTextNode text id => exact hmade id _
  | createPlaceholder id => exact hmade id _
  | loadTemplate name index id =>
    exact (missesNone_stampRoot hw name index).bind fun node middle _ =>
      (failsIn_binding hown id node).missesNone middle
  | setNode id value =>
    exact (failsIn_bind (failsIn_setNode hown id value) fun _ => failsIn_pure _).missesNone page
  | pushRoot id => exact (failsIn_pushRoot hown id).missesNone page
  | popRoot => exact missesNone_popMany hw 1 fun _ _ _ _ => (failsIn_pure _).missesNone _
  | appendChildren count =>
    exact missesNone_inserting hw count finds_top (Document.missesNone_appendChildren hw.tree)
      (failsIn_bind (failsIn_modify _) fun _ => failsIn_pure _)
  | replaceWith id count =>
    exact missesNone_inserting hw count (finds_lookup id) (Document.missesNone_replaceWith hw.tree)
      (failsIn_bind (failsIn_modify _) fun _ => failsIn_pure _)
  | insertAfter id count =>
    exact missesNone_inserting hw count (finds_lookup id) (Document.missesNone_insertAfter hw.tree)
      (failsIn_pure _)
  | insertBefore id count =>
    exact missesNone_inserting hw count (finds_lookup id) (Document.missesNone_insertBefore hw.tree)
      (failsIn_pure _)
  | replacePlaceholder path count =>
    exact missesNone_inserting hw count (finds_atPath path) (Document.missesNone_replaceWith hw.tree)
      (failsIn_pure _)
  | remove id =>
    obtain ⟨found, after, hr⟩ := exists_remove hw id
    intro e failed he
    have hrun : apply (.remove id) page = _ := run_bind_of_ok hr _
    rw [hrun] at he
    cases he
  | setText id text =>
    apply (finds_target id).bind hw
    exact fun node hs =>
      missesNone_changing (Document.missesNone_setText hs text) fun _ => failsIn_pure _
  | setAttribute id name value space =>
    exact (missesNone_setAttribute hw id name value space).bind fun _ middle _ =>
      (failsIn_pure _).missesNone middle
  | removeAttribute id name space =>
    apply (finds_target id).bind hw
    exact fun node hs =>
      missesNone_changing (Document.missesNone_removeAttribute hs name space) fun _ =>
        failsIn_pure _
  | newEventListener name id handler =>
    exact (failsIn_newEventListener hown name id handler).missesNone page
  | removeEventListener id name =>
    exact (failsIn_bind (failsIn_modify _) fun _ => failsIn_pure _).missesNone page
  | saveTemplate name count =>
    exact (missesNone_saveTemplate hw name count).bind fun _ middle _ =>
      (failsIn_pure _).missesNone middle
  | assignId path id =>
    refine (failsIn_bind (finds_atPath path).missesNone fun node => ?_).missesNone page
    exact failsIn_bind (failsIn_bindId hown id node) fun _ => failsIn_pure _

/-! ## Fragments of templates -/

/-- Templates are registered with fragments. -/
def Stocked (page : Page) : Prop :=
  ∀ name template, Keyed.get? page.templates.entries name = some template →
    page.document.kind? template.fragment = some .fragment

/-- An edit leaves the templates alone, or adds one whose fragment it has made. -/
theorem templates_apply {page : Page} (hw : page.WellFormed) (edit : Edit) :
    (left (apply edit page)).templates = page.templates ∨
      ∃ name slots, (left (apply edit page)).templates =
          ⟨Keyed.set page.templates.entries name ⟨page.document.size, slots⟩⟩ ∧
        (left (apply edit page)).document.kind? page.document.size = some .fragment := by
  have hends := ends_apply page edit
  generalize apply edit page = result at hends ⊢
  cases hends with
  | moved id value _ _ =>
    refine Or.inl ?_
    show Page.templates (if _ then _ else _) = page.templates
    split <;> rfl
  | inserted _ _ _ _ => exact Or.inl (templates_finish edit _)
  | removed id _ _ _ => exact Or.inl (templates_release page id)
  | missing id _ _ => exact Or.inl (templates_release page id)
  | taken _ _ _ _ _ => exact Or.inl (templates_forgetAll _ _)
  | known _ _ _ _ _ => exact Or.inl (templates_forgetAll _ _)
  | @registered nodes _ doc name _ slots _ hc _ =>
    refine Or.inr ⟨name, slots, rfl, ?_⟩
    have hinsert := Document.insertion_appendChildren page.withFragment page.document.size nodes
    rw [hc] at hinsert
    have hmade : page.withFragment.kind? page.document.size = some .fragment := by
      show (page.document.push _).kind? page.document.size = _
      rw [Document.kind?_eq, Document.content?_push, if_pos rfl]
      rfl
    have hkind := hinsert.keepsKinds (treelike_withFragment hw) _ _ hmade
    exact ((Document.alike_of_nodes (nodes_forgetAll _ _)).kind _).trans hkind
  | _ => exact Or.inl rfl

/-- Every edit leaves the templates stocked. -/
theorem stocked_apply {page : Page} (hw : page.WellFormed) (h : page.Stocked) (edit : Edit) :
    (left (apply edit page)).Stocked := by
  intro name template ht
  have hold : Keyed.get? page.templates.entries name = some template →
      (left (apply edit page)).document.kind? template.fragment = some .fragment := fun ht =>
    lasting_apply (Document.lasting_kind template.fragment .fragment) hw (h name template ht) edit
  rcases templates_apply hw edit with hsame | ⟨added, slots, hadded, hmade⟩
  · rw [hsame] at ht
    exact hold ht
  · rw [hadded, Keyed.get?_set] at ht
    split at ht
    · cases ht
      exact hmade
    · exact hold ht

/-! ## Every page of a run -/

/-- All that a page refers to exists, and templates are fragments. -/
structure Supplied (page : Page) : Prop where
  wellFormed : page.WellFormed
  sound : page.bindings.Sound
  stocked : page.Stocked

/-- Every edit leaves the page supplied. -/
theorem Supplied.apply {page : Page} (h : page.Supplied) (edit : Edit) :
    (left (Page.apply edit page)).Supplied where
  wellFormed := (settles_apply h.wellFormed edit).wellFormed
  sound := sound_apply h.sound edit
  stocked := stocked_apply h.wellFormed h.stocked edit

theorem Supplied.clearOperands {page : Page} (h : page.Supplied) : page.clearOperands.Supplied :=
  ⟨h.wellFormed.clearOperands, h.sound, h.stocked⟩

/-- A page that is reached is supplied. -/
theorem Reached.supplied {page : Page} (hr : page.Reached) : page.Supplied := by
  refine hr.invariant (P := Supplied) ?_ (fun _ edit h => h.apply edit) fun _ h => h.clearOperands
  intro operations names strict
  have hstart := Reached.start operations names strict
  exact ⟨hstart.wellFormed, hstart.sound, nofun⟩

/-- Every page that batches pass is supplied. -/
theorem supplied_of_passes {start page : Page} (hr : start.Reached) {batches : List (List Edit)}
    (hp : page ∈ passes start batches) : page.Supplied :=
  passes_invariant (P := Supplied) (fun _ edit h => h.apply edit) (fun _ h => h.clearOperands)
    hr.supplied batches page hp

/-- A canonical copy is that of a registered template. -/
theorem exists_template {templates : Templates} {name : String} {fragment : Handle}
    (hc : templates.canonical name = .ok fragment) :
    ∃ template, Keyed.get? templates.entries name = some template ∧
      template.fragment = fragment := by
  unfold Templates.canonical Templates.find at hc
  cases ht : Keyed.get? templates.entries name with
  | none =>
    rw [ht] at hc
    cases hc
  | some template =>
    rw [ht] at hc
    cases hc
    exact ⟨template, rfl, rfl⟩

/-- On every page that batches pass, in the middle of a batch too, bound nodes, operands and the
fragments of templates exist with all that is above them and below them. So no edit fails for want
of a node, an id can always be removed, a registration can always be taken back, and each root of a
template can be stamped under a free id. -/
theorem handles_exist {start : Page} (hr : start.Reached) (batches : List (List Edit))
    {page : Page} (hp : page ∈ passes start batches) :
    (∀ id node, page.bindings.lookup? id = some node ∨ id ∈ page.bindings.idsOf node →
      page.document.Grounded node) ∧
    (∀ slot ∈ page.operands.slots, page.document.Grounded slot.node) ∧
    (∀ name fragment, page.templates.canonical name = .ok fragment →
      page.document.Grounded fragment) ∧
    (∀ edit e after, apply edit page = .error e after → ∀ h, e ≠ .dom (.missingNode h)) ∧
    (∀ id, ∃ tally after, apply (.remove id) page = .ok tally after) ∧
    (∀ id name, ∃ tally after, apply (.removeEventListener id name) page = .ok tally after) ∧
    (∀ name fragment index id, page.templates.canonical name = .ok fragment →
      index < (page.document.children fragment).length → id ≠ reservedId →
      page.bindings.contains id = false →
      ∃ after, apply (.loadTemplate name index id) page = .ok .creation after) := by
  have hs := supplied_of_passes hr hp
  have hw := hs.wellFormed
  refine ⟨?_, ?_, ?_, ?_, ?_, ?_, ?_⟩
  · rintro id node (hl | hm)
    · exact hw.tree.grounded (hw.bound id node hl)
    · exact hw.tree.grounded (hw.bound id node ((hs.sound.mem_idsOf_iff id node).mp hm))
  · exact fun slot hm => hw.tree.grounded (hw.stacked slot hm)
  · intro name fragment hc
    obtain ⟨template, ht, rfl⟩ := exists_template hc
    exact hw.tree.grounded (Document.lt_size_of_kind? (hs.stocked name template ht))
  · intro edit e after he h hmissing
    have hfalse := missesNone_apply hw edit e after he
    rw [hmissing] at hfalse
    cases hfalse
  · intro id
    obtain ⟨found, after, hr⟩ := exists_remove hw id
    exact ⟨_, after, run_bind_of_ok hr _⟩
  · exact fun id name => ⟨.plain, _, rfl⟩
  · intro name fragment index id hc hi hid hfree
    obtain ⟨template, ht, rfl⟩ := exists_template hc
    obtain ⟨node, doc, hmade, hstamp⟩ := exists_stampRoot hw ht (List.getElem?_eq_getElem hi)
    have hlookup : page.bindings.lookup? id = none := by
      unfold Bindings.contains at hfree
      exact Option.not_isSome_iff_eq_none.mp (Bool.not_eq_true _ ▸ hfree)
    obtain ⟨after, hbind⟩ : ∃ after,
        bindAndPush id node { page with document := doc } = .ok () after :=
      ⟨_, bindAndPush_of_free { page with document := doc } hid hlookup node⟩
    have hrest : (do
        bindAndPush id node
        return Tally.creation) { page with document := doc } = .ok Tally.creation after :=
      run_bind_of_ok hbind _
    have hrun : apply (.loadTemplate name index id) page = _ := run_bind_of_ok hstamp _
    exact ⟨after, hrun.trans hrest⟩

/-- A card is registered and an element removed, and then a batch fails in its middle. The id that
it has bound can still be removed, and the card stamped. -/
theorem handles_exist_card :
    let start := ofDocument .blank true
    let batches : List (List Edit) :=
      [[.createElement "p" 1, .saveTemplate "card" 1, .createElement "q" 2, .remove 2, .popRoot],
        [.createElement "p" 1, .pushRoot 9]]
    let page := afterBatches start batches
    page.bindings.lookup? 1 = some 7 ∧ page.document.Grounded 7 ∧
      (∃ tally after, apply (.remove 1) page = .ok tally after) ∧
      ∃ after, apply (.loadTemplate "card" 0 2) page = .ok .creation after := by
  intro start batches page
  have hstart : start.Reached := .start [] [] true
  have hm : page ∈ passes start batches := afterBatches_mem_passes start batches
  have hbound : page.bindings.lookup? 1 = some 7 := by decide +kernel
  obtain ⟨hbindings, -, -, -, hremove, -, hload⟩ := handles_exist hstart batches hm
  refine ⟨hbound, hbindings 1 7 (.inl hbound), hremove 1, ?_⟩
  have hcanonical : page.templates.canonical "card" = .ok 5 := by decide +kernel
  refine hload "card" 5 0 2 hcanonical ?_ ?_ ?_ <;> decide +kernel

end Page

end PageHost
