import PageHost.Proofs.Delegation.Balance
import PageHost.Proofs.Page.Insert
/-!
# Releasing ids

Some edits release ids or move an id to another node, and with the binding goes
every registration of the id. `Forgets` says for which ids that has happened and
that nothing else has changed about bound ids and registrations. But for the two
edits that are about registrations it holds of every edit, carried out or not.
-/

namespace PageHost

namespace Page

/-- Registrations, root counts and root listeners agree. -/
def Balanced (page : Page) : Prop := page.delegation.Balanced page.document

/-- The registrations of ids are taken back, one id after the other. -/
def forgetAll (page : Page) (ids : List NodeId) : Page := ids.foldl forget page

section ForgetAll

variable (page : Page) (ids : List NodeId)

/-- Forgetting ids leaves the bindings as they are. -/
theorem bindings_forgetAll : (page.forgetAll ids).bindings = page.bindings := by
  induction ids generalizing page with
  | nil => rfl
  | cons id rest ih => exact ih (page.forget id)

theorem operands_forgetAll : (page.forgetAll ids).operands = page.operands := by
  induction ids generalizing page with
  | nil => rfl
  | cons id rest ih => exact ih (page.forget id)

theorem nodes_forgetAll : (page.forgetAll ids).document.nodes = page.document.nodes := by
  induction ids generalizing page with
  | nil => rfl
  | cons id rest ih =>
    exact (ih (page.forget id)).trans (Delegation.nodes_forget page.delegation page.document id)

/-- The forgotten ids have no registrations, and all others keep theirs. -/
theorem interest?_forgetAll (id : NodeId) (name : String) :
    (page.forgetAll ids).delegation.interest? id name =
      if id ∈ ids then none else page.delegation.interest? id name := by
  induction ids generalizing page with
  | nil => simp [forgetAll]
  | cons first rest ih =>
    have hfirst : (page.forget first).delegation.interest? id name =
        if id = first then none else page.delegation.interest? id name :=
      Delegation.interest?_forget page.delegation page.document first id name
    have hrest := ih (page.forget first)
    rw [hfirst] at hrest
    by_cases hid : id = first
    · simpa [hid, forgetAll] using hrest
    · simpa [hid, forgetAll] using hrest

/-- Forgetting ids keeps the balance. -/
theorem balanced_forgetAll {page : Page} (h : page.Balanced) : (page.forgetAll ids).Balanced := by
  induction ids generalizing page with
  | nil => exact h
  | cons id rest ih =>
    have hfirst : (page.forget id).Balanced := Delegation.balanced_forget h id
    exact ih hfirst

end ForgetAll

/-! ## What is forgotten -/

/-- The page came from `start`, and exactly these ids have lost their bindings or
moved to other nodes, with all their registrations. -/
structure Forgets (start : Page) (ids : List NodeId) (page : Page) : Prop where
  sound : start.bindings.Sound → page.bindings.Sound
  balanced : start.Balanced → page.Balanced
  interest : ∀ id name, page.delegation.interest? id name =
    if id ∈ ids then none else start.delegation.interest? id name
  stays : ∀ id, id ∉ ids → ∀ node, start.bindings.lookup? id = some node →
    page.bindings.lookup? id = some node
  goes : ∀ id ∈ ids, ∃ node, start.bindings.lookup? id = some node ∧
    page.bindings.lookup? id ≠ some node

/-- Whatever has become of the bindings: the registrations of the ids that lost theirs
are taken back. -/
theorem forgets_forgetAll {start page : Page} {ids : List NodeId}
    (hd : page.delegation = start.delegation)
    (hl : page.document.rootListeners = start.document.rootListeners)
    (hs : start.bindings.Sound → page.bindings.Sound)
    (hstays : ∀ id, id ∉ ids → ∀ node, start.bindings.lookup? id = some node →
      page.bindings.lookup? id = some node)
    (hgoes : ∀ id ∈ ids, ∃ node, start.bindings.lookup? id = some node ∧
      page.bindings.lookup? id ≠ some node) : Forgets start ids (page.forgetAll ids) := by
  refine ⟨?_, ?_, ?_, ?_, ?_⟩
  · rw [bindings_forgetAll]
    exact hs
  · intro hb
    apply balanced_forgetAll
    have hsame : page.delegation.Balanced start.document := by
      rw [hd]
      exact hb
    exact hsame.congr hl
  · intro id name
    rw [interest?_forgetAll, hd]
  · rw [bindings_forgetAll]
    exact hstays
  · rw [bindings_forgetAll]
    exact hgoes

/-- A page that is kept forgets nothing. -/
theorem Kept.forgets {start page : Page} (h : Kept start page) : Forgets start [] page :=
  forgets_forgetAll h.delegation h.listeners h.sound (fun id _ => h.lookup id) nofun

/-- What is forgotten does not depend on the nodes. -/
theorem Forgets.withDocument {start page : Page} {ids : List NodeId} (h : Forgets start ids page)
    {doc : Document} (hl : doc.rootListeners = page.document.rootListeners) :
    Forgets start ids { page with document := doc } :=
  ⟨h.sound, fun hb => (h.balanced hb).congr hl, h.interest, h.stays, h.goes⟩

theorem Forgets.withTemplates {start page : Page} {ids : List NodeId} (h : Forgets start ids page)
    (templates : Templates) : Forgets start ids { page with templates := templates } :=
  ⟨h.sound, h.balanced, h.interest, h.stays, h.goes⟩

/-- A page with the nodes and operands of another one and no new bindings. -/
theorem evolves_of_nodes {start page : Page} (hn : page.document.nodes = start.document.nodes)
    (hb : ∀ id node, page.bindings.lookup? id = some node →
      start.bindings.lookup? id = some node)
    (ho : page.operands = start.operands) : Evolves start page := by
  intro hw
  have ha := Document.alike_of_nodes hn
  have hsize : page.document.size = start.document.size := ha.size
  refine ⟨⟨ha.treelike hw.tree, ?_, ?_, ?_⟩, ⟨Nat.le_of_eq hsize.symm, ha.treelike hw.tree, ha.allListed⟩⟩
  · rw [hsize]
    exact hw.rooted
  · intro id node hl
    rw [hsize]
    exact hw.bound id node (hb id node hl)
  · rw [ho, hsize]
    exact hw.stacked

/-! ## Releasing an id -/

/-- Releasing an id that names nothing changes nothing. -/
theorem release_of_unbound {page : Page} {id : NodeId} (h : page.bindings.lookup? id = none) :
    page.release id = (none, page) := by
  unfold release Bindings.unbind
  rw [h]

/-- Releasing a bound id takes its binding back and forgets it. -/
theorem release_of_bound {page : Page} {id : NodeId} {node : Handle}
    (h : page.bindings.lookup? id = some node) :
    page.release id = (some node,
      { page with bindings := (page.bindings.unbind id).2 }.forgetAll [id]) := by
  unfold release Bindings.unbind
  rw [h]
  rfl

/-- A page evolves when an id is released. -/
theorem evolves_release (page : Page) (id : NodeId) : Evolves page (page.release id).2 := by
  cases hl : page.bindings.lookup? id with
  | none =>
    rw [release_of_unbound hl]
    exact .refl page
  | some node =>
    rw [release_of_bound hl]
    apply evolves_of_nodes
    · exact nodes_forgetAll _ _
    · intro other named h
      rw [bindings_forgetAll, Bindings.lookup?_unbind] at h
      split at h
      · cases h
      · exact h
    · exact operands_forgetAll _ _

/-- An id is released on a page that has the bindings and registrations of `start`. -/
theorem forgets_release {start page : Page} (hb : page.bindings = start.bindings)
    (hd : page.delegation = start.delegation)
    (hl : page.document.rootListeners = start.document.rootListeners) (id : NodeId) :
    ∃ ids, Forgets start ids (page.release id).2 := by
  cases hlookup : page.bindings.lookup? id with
  | none =>
    rw [release_of_unbound hlookup]
    refine ⟨[], forgets_forgetAll hd hl ?_ ?_ nofun⟩
    · rw [hb]
      exact fun h => h
    · rw [hb]
      exact fun _ _ _ h => h
  | some node =>
    rw [release_of_bound hlookup]
    rw [hb] at hlookup
    refine ⟨[id], forgets_forgetAll hd hl ?_ ?_ ?_⟩
    · intro hs
      rw [hb]
      exact Bindings.sound_unbind hs id
    · intro other ho named hn
      have hne : id ≠ other := fun he => ho (List.mem_singleton.mpr he.symm)
      rw [hb, Bindings.lookup?_unbind, if_neg hne, hn]
    · intro other ho
      rw [List.mem_singleton.mp ho]
      refine ⟨node, hlookup, ?_⟩
      rw [hb, Bindings.lookup?_unbind, if_pos rfl]
      exact nofun

/-! ## Edits that release -/

/-- The page came from `start` without the loss of a node, and some ids lost their
bindings with all their registrations. -/
structure Changes (start page : Page) : Prop where
  evolves : Evolves start page
  forgets : ∃ ids, Forgets start ids page

/-- A page that is kept changes as an edit may. -/
theorem Kept.changes {start page : Page} (h : Kept start page) : Changes start page :=
  ⟨h.evolves, [], h.forgets⟩

/-- A step that changes nothing adds nothing to what the next one changes. -/
theorem changes_bind {α β : Type} (page : Page) {first : Step α} {next : α → Step β}
    (hfirst : Reads first)
    (hnext : ∀ a, first page = .ok a page → Changes page (left (next a page))) :
    Changes page (left ((first >>= next) page)) := by
  rcases hfirst page with ⟨e, he⟩ | ⟨a, ha⟩
  · rw [run_bind_of_error he]
    exact (Kept.refl page).changes
  · rw [run_bind_of_ok ha]
    exact hnext a ha

/-- A change of the document is all that it leaves behind on the page. -/
theorem left_onDocument {α : Type} (change : Document.Change α) (page : Page) :
    left (onDocument change page) = { page with document := left (change page.document) } := by
  unfold onDocument
  cases change page.document <;> rfl

/-- Removing a node changes the page as an edit may. -/
theorem changes_remove (page : Page) (id : NodeId) : Changes page (left (remove id page)) := by
  cases hl : page.bindings.lookup? id with
  | none =>
    have hrun : remove id page = .ok false page := by
      unfold remove
      rw [release_of_unbound hl]
    rw [hrun]
    exact (Kept.refl page).changes
  | some node =>
    have hreleased := evolves_release page id
    have hforgotten : ∃ ids, Forgets page ids (page.release id).2 := forgets_release rfl rfl rfl id
    obtain ⟨ids, hforgets⟩ := hforgotten
    have hrun : remove id page = onDocument (Document.detach node) (page.release id).2 := by
      unfold remove
      rw [release_of_bound hl]
    have hdetached : Kept (page.release id).2
        (left (onDocument (Document.detach node) (page.release id).2)) :=
      (ensures_onDocument (fun doc ht => Document.advances_detach ht node)
        (Document.keepsListeners_detach node)).left (.refl _)
    rw [hrun]
    refine ⟨hreleased.trans hdetached.evolves, ids, ?_⟩
    rw [left_onDocument]
    exact hforgets.withDocument (Document.keepsListeners_detach node _)

/-- Finding a node for a payload changes nothing. -/
theorem reads_seed (value : Payload) : Reads (seed value) := by
  intro page
  unfold seed
  cases value with
  | handle node =>
    dsimp only
    by_cases hc : page.document.contains node = true
    · rw [if_pos hc]
      exact Or.inr ⟨node, rfl⟩
    · rw [if_neg hc]
      exact Or.inl ⟨_, rfl⟩
  | text id =>
    dsimp only
    cases page.document.elementById id with
    | none => exact Or.inl ⟨_, rfl⟩
    | some node => exact Or.inr ⟨node, rfl⟩
  | _ => exact Or.inl ⟨_, rfl⟩

/-- A bound id is moved to an existing node, and if that is another one it loses its
registrations. -/
theorem changes_rebind {page : Page} {id : NodeId} {node previous : Handle} {table : Bindings}
    (hexist : page.WellFormed → node < page.document.size)
    (hr : page.bindings.rebind id node = .ok (previous, table)) :
    Changes page (if previous = node then { page with bindings := table }
      else { page with bindings := table }.forget id) := by
  obtain ⟨hlookup, -⟩ := Bindings.rebind_ok hr
  have hview := Bindings.lookup?_rebind hr
  have hevolves : Evolves page { page with bindings := table } := by
    intro hw
    refine ⟨⟨hw.tree, hw.rooted, ?_, hw.stacked⟩, .refl hw.tree⟩
    intro other named hl
    replace hl : table.lookup? other = some named := hl
    rw [hview] at hl
    split at hl
    · cases hl
      exact hexist hw
    · exact hw.bound other named hl
  have hsound : page.bindings.Sound → table.Sound := fun hs => Bindings.sound_rebind hs hr
  split
  · rename_i he
    refine ⟨hevolves, [], forgets_forgetAll rfl rfl hsound ?_ nofun⟩
    intro other _ named hl
    show table.lookup? other = some named
    rw [hview]
    split
    · rename_i ho
      subst ho
      rw [hlookup, he] at hl
      exact hl
    · exact hl
  · rename_i hne
    constructor
    · apply hevolves.trans
      exact evolves_of_nodes (nodes_forgetAll _ [id]) (fun _ _ h => h) rfl
    · refine ⟨[id], forgets_forgetAll rfl rfl hsound ?_ ?_⟩
      · intro other ho named hl
        show table.lookup? other = some named
        rw [hview, if_neg fun he => ho (List.mem_singleton.mpr he.symm)]
        exact hl
      · intro other ho
        rw [List.mem_singleton.mp ho]
        refine ⟨previous, hlookup, ?_⟩
        show table.lookup? id ≠ some previous
        rw [hview, if_pos rfl]
        exact fun he => hne (Option.some.inj he).symm

/-- Setting the node of an id changes the page as an edit may. -/
theorem changes_setNode (page : Page) (id : NodeId) (value : Payload) :
    Changes page (left (setNode id value page)) := by
  unfold setNode
  apply changes_bind page (reads_seed value)
  intro node hn
  have hexist : page.WellFormed → node < page.document.size := by
    have hgives := ensures_seed value page (Kept.refl page)
    rw [hn] at hgives
    exact hgives.exist
  split
  · exact (Kept.refl page).changes
  · split
    · rw [rebind_eq]
      cases hr : page.bindings.rebind id node with
      | error e => exact (Kept.refl page).changes
      | ok result =>
        obtain ⟨previous, table⟩ := result
        exact changes_rebind hexist hr
    · have hbound := ensures_bindId id node page ⟨Kept.refl page, hexist⟩
      cases hb : bind id node page with
      | ok u page' =>
        rw [hb] at hbound
        exact hbound.kept.changes
      | error e page' =>
        rw [hb] at hbound
        exact hbound.changes

/-! ## Edits that insert -/

/-- Releasing the ids below a node releases those of its descendants. -/
theorem bindings_releaseBelow (page : Page) (top : Handle) :
    (page.releaseBelow top).bindings =
      (page.bindings.unbindWhere (page.document.descendants top).contains).2 :=
  bindings_forgetAll _ _

/-- The ids of the nodes below a node are released on a page that has the bindings and
registrations of `start`. -/
theorem forgets_releaseBelow {start : Page} (page : Page) (hs : start.bindings.Sound)
    (hb : page.bindings = start.bindings) (hd : page.delegation = start.delegation)
    (hl : page.document.rootListeners = start.document.rootListeners) (top : Handle) :
    ∃ ids, Forgets start ids (page.releaseBelow top) := by
  let test : Handle → Bool := (page.document.descendants top).contains
  have hlookup : ∀ id, (page.bindings.unbindWhere test).2.lookup? id =
      (start.bindings.lookup? id).filter fun node => !test node := by
    intro id
    rw [hb]
    exact Bindings.lookup?_unbindWhere hs test id
  have hmem : ∀ id, id ∈ (page.bindings.unbindWhere test).1 ↔
      ∃ node, start.bindings.lookup? id = some node ∧ test node := by
    intro id
    rw [hb]
    exact Bindings.mem_unbindWhere_iff hs test id
  refine ⟨(page.bindings.unbindWhere test).1, forgets_forgetAll hd hl ?_ ?_ ?_⟩
  · intro _
    show (page.bindings.unbindWhere test).2.Sound
    rw [hb]
    exact Bindings.sound_unbindWhere hs test
  · intro id hid node hn
    show (page.bindings.unbindWhere test).2.lookup? id = some node
    have hkeep : test node = false := by
      cases ht : test node with
      | false => rfl
      | true => exact absurd ((hmem id).mpr ⟨node, hn, ht⟩) hid
    rw [hlookup, hn, Option.filter_some, hkeep]
    rfl
  · intro id hid
    obtain ⟨node, hn, ht⟩ := (hmem id).mp hid
    refine ⟨node, hn, ?_⟩
    show (page.bindings.unbindWhere test).2.lookup? id ≠ some node
    rw [hlookup, hn, Option.filter_some, ht]
    exact nofun

/-- A page with the same bindings and registrations has forgotten nothing. -/
theorem forgets_of_same {start page : Page} (hb : page.bindings = start.bindings)
    (hd : page.delegation = start.delegation)
    (hl : page.document.rootListeners = start.document.rootListeners) :
    ∃ ids, Forgets start ids page := by
  refine ⟨[], forgets_forgetAll hd hl ?_ ?_ nofun⟩
  · rw [hb]
    exact fun h => h
  · rw [hb]
    exact fun _ _ _ h => h

/-- An insertion forgets what its last step forgets. -/
theorem Inserting.forgets {page : Page} {count : Nat} {finish : Page → Page}
    {result : EStateM.Result EditError Page Tally} (h : Inserting page count finish result)
    (hfinish : ∀ reached : Page, reached.bindings = page.bindings →
      reached.delegation = page.delegation →
      reached.document.rootListeners = page.document.rootListeners →
      ∃ ids, Forgets page ids (finish reached)) : ∃ ids, Forgets page ids (left result) := by
  cases h with
  | short e => exact forgets_of_same rfl rfl rfl
  | unplaced e _ => exact forgets_of_same rfl rfl rfl
  | refused e _ _ hl => exact forgets_of_same rfl rfl hl
  | done tally _ _ hl => exact hfinish _ rfl rfl hl

/-- Saving a template forgets the ids of what was gathered. -/
theorem Saving.forgets {page : Page} (hs : page.bindings.Sound) {name : String} {count : Nat}
    {result : EStateM.Result EditError Page Tally} (h : Saving page name count result) :
    ∃ ids, Forgets page ids (left result) := by
  cases h with
  | short e _ => exact forgets_of_same rfl rfl rfl
  | refused e _ _ hl => exact forgets_of_same rfl rfl hl
  | @taken nodes operands doc _ _ hl =>
    exact forgets_releaseBelow { page with operands := operands, document := doc } hs rfl rfl hl _
  | @done nodes operands doc templates _ _ hl =>
    obtain ⟨ids, hforgets⟩ := forgets_releaseBelow
      { page with operands := operands, document := doc } hs rfl rfl hl page.document.size
    exact ⟨ids, hforgets.withTemplates templates⟩

end Page

/-! ## All edits -/

/-- An edit that adds or takes back a registration. -/
def Edit.isListening : Edit → Bool
  | .newEventListener .. | .removeEventListener .. => true
  | _ => false

namespace Page

/-- What is computed from the value of a step at its end changes nothing. -/
theorem left_bind_pure {α β : Type} (step : Step α) (f : α → β) (page : Page) :
    left ((step >>= fun a => pure (f a) : Step β) page) = left (step page) := by
  cases hr : step page with
  | ok a reached =>
    rw [run_bind_of_ok hr]
    rfl
  | error e reached =>
    rw [run_bind_of_error hr]
    rfl

theorem changes_apply_setNode (page : Page) (id : NodeId) (value : Payload) :
    Changes page (left (apply (.setNode id value) page)) := by
  have hleft : left (apply (.setNode id value) page) = left (setNode id value page) :=
    left_bind_pure (setNode id value) (fun _ => Tally.plain) page
  rw [hleft]
  exact changes_setNode page id value

theorem changes_apply_remove (page : Page) (id : NodeId) :
    Changes page (left (apply (.remove id) page)) := by
  have hleft : left (apply (.remove id) page) = left (remove id page) :=
    left_bind_pure (remove id) (fun moved => if moved then Tally.removal else Tally.plain) page
  rw [hleft]
  exact changes_remove page id

/-- But for edits about registrations, an edit drops bindings and registrations together. -/
theorem forgets_apply {page : Page} (hs : page.bindings.Sound) {edit : Edit}
    (he : edit.isListening = false) : ∃ ids, Forgets page ids (left (apply edit page)) := by
  by_cases hq : edit.isQuiet = true
  · exact (kept_apply page hq).changes.forgets
  · cases edit with
    | setNode id value => exact (changes_apply_setNode page id value).forgets
    | remove id => exact (changes_apply_remove page id).forgets
    | appendChildren count =>
      exact (inserting_appendChildren page count).forgets fun _ hb hd hl =>
        forgets_of_same hb hd hl
    | replaceWith id count =>
      exact (inserting_replaceWith page id count).forgets fun _ hb hd hl =>
        forgets_release hb hd hl id
    | insertAfter id count =>
      exact (inserting_insertAfter page id count).forgets fun _ hb hd hl =>
        forgets_of_same hb hd hl
    | insertBefore id count =>
      exact (inserting_insertBefore page id count).forgets fun _ hb hd hl =>
        forgets_of_same hb hd hl
    | replacePlaceholder path count =>
      exact (inserting_replacePlaceholder page path count).forgets fun _ hb hd hl =>
        forgets_of_same hb hd hl
    | saveTemplate name count => exact (saving_saveTemplate page name count).forgets hs
    | newEventListener _ _ _ | removeEventListener _ _ => cases he
    | createElement _ _ | createElementNs _ _ _ | createTextNode _ _ | createPlaceholder _
    | pushRoot _ | popRoot | setText _ _ | setAttribute _ _ _ _ | removeAttribute _ _ _
    | loadTemplate _ _ _ | assignId _ _ => exact absurd rfl hq

/-- The page with one registration more. -/
def withListener (page : Page) (id : NodeId) (name : String) (handler : Payload) : Page :=
  { page with
    delegation := (page.delegation.listen page.document id name handler).2.1
    document := (page.delegation.listen page.document id name handler).2.2 }

/-- A registration is refused or comes from a bound id. -/
theorem apply_newEventListener (page : Page) (name : String) (id : NodeId) (handler : Payload) :
    (∃ e, apply (.newEventListener name id handler) page = .error e page) ∨
      page.bindings.contains id = true ∧
        apply (.newEventListener name id handler) page =
          .ok .plain (page.withListener id name handler) := by
  rcases reads_lookup id page with ⟨e, he⟩ | ⟨node, hn⟩
  · exact Or.inl ⟨e, run_bind_of_error he _⟩
  · refine Or.inr ⟨?_, run_bind_of_ok hn _⟩
    unfold lookup Bindings.lookup at hn
    unfold Bindings.contains
    cases hl : page.bindings.lookup? id with
    | none =>
      rw [hl] at hn
      cases hn
    | some named => rfl

/-- A page evolves when a listener is registered. -/
theorem evolves_listen (page : Page) (name : String) (id : NodeId) (handler : Payload) :
    Evolves page (left (apply (.newEventListener name id handler) page)) := by
  rcases apply_newEventListener page name id handler with ⟨e, hrun⟩ | ⟨-, hrun⟩
  · rw [hrun]
    exact .refl page
  · rw [hrun]
    exact evolves_of_nodes (Delegation.nodes_listen _ _ _ _ _) (fun _ _ h => h) rfl

theorem evolves_unlisten (page : Page) (id : NodeId) (name : String) :
    Evolves page (left (apply (.removeEventListener id name) page)) :=
  evolves_of_nodes (Delegation.nodes_unlisten page.delegation page.document id name)
    (fun _ _ h => h) rfl

/-- An edit that inserts nothing loses no node. -/
theorem evolves_apply (page : Page) {edit : Edit} (he : edit.operandCount? = none) :
    Evolves page (left (apply edit page)) := by
  by_cases hq : edit.isQuiet = true
  · exact (kept_apply page hq).evolves
  · cases edit with
    | setNode id value => exact (changes_apply_setNode page id value).evolves
    | remove id => exact (changes_apply_remove page id).evolves
    | newEventListener name id handler => exact evolves_listen page name id handler
    | removeEventListener id name => exact evolves_unlisten page id name
    | appendChildren _ | replaceWith _ _ | insertAfter _ _ | insertBefore _ _
    | saveTemplate _ _ | replacePlaceholder _ _ => cases he
    | createElement _ _ | createElementNs _ _ _ | createTextNode _ _ | createPlaceholder _
    | pushRoot _ | popRoot | setText _ _ | setAttribute _ _ _ _ | removeAttribute _ _ _
    | loadTemplate _ _ _ | assignId _ _ => exact absurd rfl hq

end Page

end PageHost
