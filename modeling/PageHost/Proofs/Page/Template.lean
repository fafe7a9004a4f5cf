import PageHost.Document.Markup
import PageHost.Proofs.Page.Exposure
/-!
# Registered templates

After a template is registered its tree stays as it is through every run, and every
use of it copies the same tree, exactly if the page that registered it does not
expose it. The nodes that ids name are never the reason as long as no node of the
page is lost; what is left are operands on the stack.
-/

namespace PageHost.Page

open Document

/-! ## The page that registers a template -/

/-- What saving a template under a new name has made of the page. -/
theorem registered_of_apply {page saved : Page} {name : String} {count : Nat} {tally : Tally}
    (h : apply (.saveTemplate name count) page = .ok tally saved)
    (hnew : Keyed.get? page.templates.entries name = none) :
    ∃ nodes operands doc slots, page.operands.popMany count = .ok (nodes, operands) ∧
      appendChildren page.document.size nodes page.withFragment = .ok () doc ∧
      saved = { page.gathered operands doc with
        templates := ⟨Keyed.set page.templates.entries name ⟨page.document.size, slots⟩⟩ } := by
  have hends := ends_apply page (.saveTemplate name count)
  rw [h] at hends
  cases hends with
  | created hid => cases hid
  | written hid => cases hid
  | inserted _ _ hplace => cases hplace
  | known _ _ _ _ hg =>
    rw [hnew] at hg
    cases hg
  | registered _ _ slots hp hc _ => exact ⟨_, _, _, slots, hp, hc, rfl⟩

/-- A template that has just been registered: its fragment is fresh, stands nowhere and is not
held, and no id names a node below it. -/
structure Fresh (saved : Page) (name : String) (template : Template) : Prop where
  entry : Keyed.get? saved.templates.entries name = some template
  exist : template.fragment < saved.document.size
  parentless : saved.document.parent? template.fragment = none
  unheld : ¬ saved.Holds template.fragment
  unnamed : ∀ id x, saved.bindings.lookup? id = some x →
    ¬ saved.document.Below template.fragment x

/-- A template that is saved under a new name is fresh. -/
theorem exists_fresh {page saved : Page} (hw : page.WellFormed) (hs : page.bindings.Sound)
    {name : String} {count : Nat} {tally : Tally}
    (h : apply (.saveTemplate name count) page = .ok tally saved)
    (hnew : Keyed.get? page.templates.entries name = none) :
    ∃ template, Fresh saved name template := by
  have hsaved : saved.WellFormed := by
    have hsettled := (settles_apply hw (.saveTemplate name count)).wellFormed
    rwa [h] at hsettled
  obtain ⟨nodes, operands, doc, slots, hp, hc, rfl⟩ := registered_of_apply h hnew
  have hmade : page.withFragment.Treelike := (advances_create hw.tree .fragment).treelike
  have hinsert := insertion_appendChildren page.withFragment page.document.size nodes
  rw [hc] at hinsert
  have htree : doc.Treelike := hinsert.treelike hmade
  have hgrown : page.withFragment.size ≤ doc.size := hinsert.size_le hmade
  have hsize : page.document.size < doc.size := by
    have hpush : page.withFragment.size = page.document.size + 1 := size_push _ _
    rw [hpush] at hgrown
    exact hgrown
  have hnodes : (page.gathered operands doc).document.nodes = doc.nodes := nodes_forgetAll _ _
  have halike := alike_of_nodes hnodes
  refine ⟨⟨page.document.size, slots⟩, ?_, ?_, ?_, ?_, ?_⟩
  · show Keyed.get? (Keyed.set page.templates.entries name _) name = _
    rw [Keyed.get?_set, if_pos rfl]
  · show page.document.size < (page.gathered operands doc).document.size
    rw [halike.size]
    exact hsize
  · show (page.gathered operands doc).document.parent? page.document.size = none
    rw [halike.parent, parent?_appendChildren_self hmade hc]
    show (page.document.push _).parent? page.document.size = none
    rw [parent?_push, if_pos rfl]
  · intro hheld
    have hgathered : ({ page with operands, document := doc } : Page).Holds page.document.size :=
      holds_releaseBelow hheld
    have hbefore : page.Holds page.document.size := holds_popMany hp hgathered
    rcases hbefore with ⟨slot, hm, he⟩ | ⟨id, hl⟩
    · have hlt := hw.stacked slot hm
      rw [he] at hlt
      exact Nat.lt_irrefl _ hlt
    · exact Nat.lt_irrefl _ (hw.bound id _ hl)
  · intro id x hl hbelow
    have hlookup : (page.gathered operands doc).bindings =
        (page.bindings.unbindWhere (doc.descendants page.document.size).contains).2 :=
      bindings_releaseBelow _ _
    replace hl : (page.gathered operands doc).bindings.lookup? id = some x := hl
    rw [hlookup, Bindings.lookup?_unbindWhere hs, Option.filter_eq_some_iff] at hl
    have hin : x ∈ doc.descendants page.document.size := by
      rw [mem_descendants_iff htree hsize]
      exact halike.symm.below hbelow
    simp [hin] at hl

/-! ## Whether it is exposed -/

/-- A template that is not exposed where it is registered is guarded. -/
theorem Fresh.guards {saved : Page} {name : String} {template : Template}
    (h : Fresh saved name template) (ht : saved.document.Treelike)
    (hex : ¬ saved.Exposes template.fragment) : Guards saved.document name template saved where
  tree := ht
  spares := .refl (closed_below ht h.exist h.parentless)
  held x hx := by
    constructor
    · exact fun hb => hex ⟨x, hx, Or.inl hb⟩
    · exact fun p hp hb => hex ⟨x, hx, Or.inr ⟨p, hp, hb⟩⟩
  entry := h.entry

/-- Where no node is lost, a template is exposed by operands only. -/
theorem Fresh.exposes_iff {saved : Page} {name : String} {template : Template}
    (h : Fresh saved name template) (ha : saved.document.AllListed) :
    saved.Exposes template.fragment ↔
      ∃ slot ∈ saved.operands.slots, saved.document.Below template.fragment slot.node := by
  constructor
  · rintro ⟨x, hx, hin⟩
    have hbelow : saved.document.Below template.fragment x := by
      rcases hin with hb | ⟨p, hp, hb⟩
      · exact hb
      · exact hb.child (ha p x hp)
    rcases hx with ⟨slot, hm, rfl⟩ | ⟨id, hl⟩
    · exact ⟨slot, hm, hbelow⟩
    · exact absurd hbelow (h.unnamed id x hl)
  · rintro ⟨slot, hm, hb⟩
    exact ⟨slot.node, holds_of_mem hm, Or.inl hb⟩

/-! ## Using a template -/

/-- Every use of the name gives a fresh copy of a child of the tree: under a free id for a child
that exists, and an error for one that does not. -/
def Loads (page : Page) (name : String) (tree : Tree) : Prop :=
  ∀ index id,
    (tree.children[index]? = none → apply (.loadTemplate name index id) page =
      .error (.templateRootOutOfRange name index) page) ∧
    ∀ child, tree.children[index]? = some child → id ≠ reservedId →
      page.bindings.lookup? id = none →
      ∃ copy loaded, apply (.loadTemplate name index id) page = .ok .creation loaded ∧
        loaded.bindings.lookup? id = some copy ∧ page.document.size ≤ copy ∧
        loaded.document.parent? copy = none ∧ loaded.document.tree? copy = some child

/-- A guarded template is used as it was registered. -/
theorem Guards.loads {origin : Document} {name : String} {template : Template} {page : Page}
    (h : Guards origin name template page) (ho : origin.Treelike) {tree : Tree}
    (htree : origin.tree? template.fragment = some tree) : page.Loads name tree := by
  have hshown := (shows_iff h.tree _ tree).mpr (h.tree? ho htree)
  obtain ⟨content, children⟩ := tree
  have hall : page.document.ShowsAll (page.document.children template.fragment) children := hshown.2
  have hfind : page.templates.find name = .ok template := by
    unfold Templates.find
    rw [h.entry]
  intro index id
  constructor
  · intro hnone
    replace hnone : children[index]? = none := hnone
    have hout : (page.document.children template.fragment)[index]? = none := by
      rw [List.getElem?_eq_none_iff] at hnone ⊢
      rw [hall.length_eq]
      exact hnone
    have hrun : stampRoot name index page = .error (.templateRootOutOfRange name index) page := by
      unfold stampRoot Templates.stampRoot
      rw [hfind]
      dsimp only
      rw [hout]
    exact run_bind_of_error hrun _
  · intro child hchild hid hfree
    replace hchild : children[index]? = some child := hchild
    obtain ⟨original, horiginal⟩ :
        ∃ original, (page.document.children template.fragment)[index]? = some original := by
      have hlt := (List.getElem?_eq_some_iff.mp hchild).1
      rw [← hall.length_eq] at hlt
      exact ⟨_, List.getElem?_eq_getElem hlt⟩
    obtain ⟨shown, hshown, hstands⟩ := hall.getElem? horiginal
    rw [hchild] at hshown
    cases hshown
    rw [shows_iff h.tree] at hstands
    obtain ⟨copy, after, hclone⟩ := exists_deepClone h.tree (lt_size_of_tree? h.tree hstands)
    let copied : Page := { page with document := after }
    have hstamp : stampRoot name index page = .ok copy copied := by
      unfold stampRoot Templates.stampRoot Templates.copyNode
      rw [hfind]
      dsimp only
      rw [horiginal]
      dsimp only
      rw [hclone]
    have hpush := bindAndPush_of_free copied hid hfree copy
    have hplanted := planted_deepClone h.tree hclone
    obtain ⟨hle, -, hparent⟩ := hplanted.fresh _ (List.mem_singleton.mpr rfl)
    have hload : Page.apply (.loadTemplate name index id) page = .ok .creation
        { copied with
          bindings := copied.bindings.assign id copy
          operands := copied.operands.push copy } := by
      have hbound := run_bind_of_ok hpush fun _ => (pure .creation : Step Tally)
      exact (run_bind_of_ok hstamp _).trans hbound
    refine ⟨copy, _, hload, ?_, hle, hparent, ?_⟩
    · show (page.bindings.assign id _).lookup? id = _
      rw [Bindings.lookup?_assign, if_pos rfl]
    · show after.tree? copy = some child
      rw [← shows_iff hplanted.treelike]
      exact shows_deepClone h.tree hclone hstands

/-! ## Runs -/

/-- A new template is registered at some point of a batch on a reached page. Its tree is the same
on every page that a run passes from there on, exactly if the page that registers it does not
expose it, and then every use of it copies that tree. Where no node is lost, what exposes it is an
operand that is still on the stack. -/
theorem template_stays_iff_not_exposed {start page saved : Page} (hr : start.Reached)
    {earlier : List Edit} {done : Tally} (hrun : applyEach earlier start = .ok done page)
    {name : String} {count : Nat} {tally : Tally}
    (hsave : apply (.saveTemplate name count) page = .ok tally saved)
    (hnew : page.templates.contains name = false) :
    ∃ fragment tree, saved.templates.canonical name = .ok fragment ∧
      saved.document.tree? fragment = some tree ∧
      ((∀ batches, ∀ reached ∈ passes saved batches,
        reached.templates.canonical name = .ok fragment ∧
          reached.document.tree? fragment = some tree) ↔ ¬ saved.Exposes fragment) ∧
      (¬ saved.Exposes fragment →
        ∀ batches, ∀ reached ∈ passes saved batches, reached.Loads name tree) ∧
      (saved.document.AllListed → (saved.Exposes fragment ↔
        ∃ slot ∈ saved.operands.slots, saved.document.Below fragment slot.node)) := by
  have hw : page.WellFormed := hr.wellFormed.applyEach hrun
  have hs : page.bindings.Sound :=
    applyEach_invariant (P := fun page => page.bindings.Sound)
      (fun _ edit hs => sound_apply hs edit) hrun hr.sound
  have hnone : Keyed.get? page.templates.entries name = none := by
    unfold Templates.contains Keyed.has at hnew
    simpa using hnew
  have ht : saved.document.Treelike := by
    have hsettled := (settles_apply hw (.saveTemplate name count)).wellFormed
    rw [hsave] at hsettled
    exact hsettled.tree
  obtain ⟨template, hfresh⟩ := exists_fresh hw hs hsave hnone
  obtain ⟨tree, htree⟩ := tree?_isSome ht hfresh.exist
  have hcanonical : saved.templates.canonical name = .ok template.fragment := by
    unfold Templates.canonical Templates.find
    rw [hfresh.entry]
  have hguards : ¬ saved.Exposes template.fragment → ∀ batches, ∀ reached ∈ passes saved batches,
      Guards saved.document name template reached := fun hex =>
    passes_invariant (P := Guards saved.document name template) (fun _ edit h => h.apply edit)
      (fun _ h => h.clearOperands) (hfresh.guards ht hex)
  refine ⟨template.fragment, tree, hcanonical, htree, ⟨fun hstays hex => ?_, fun hex => ?_⟩,
    fun hex batches reached hm => ?_, hfresh.exposes_iff⟩
  · obtain ⟨edits, later, reached, hedits, hspoiled⟩ := hex.spoils ht hfresh.unheld htree
    exact hspoiled (hstays [edits] reached (mem_passes_of_applyEach hedits)).2
  · intro batches reached hm
    have h := hguards hex batches reached hm
    exact ⟨h.canonical, h.tree? ht htree⟩
  · exact (hguards hex batches reached hm).loads ht htree

/-- A paragraph that was created and not pushed again is registered as a card: nothing on the
page refers to it any more, and no run changes it. -/
theorem saved_card_stays :
    let page := left (applyEach [.createElement "p" 1] (ofDocument .blank true))
    let saved := left (apply (.saveTemplate "card" 1) page)
    page.templates.contains "card" = false ∧
      ∃ fragment tree, saved.templates.canonical "card" = .ok fragment ∧
        saved.document.tree? fragment = some tree ∧
        ∀ batches, ∀ reached ∈ passes saved batches,
          reached.templates.canonical "card" = .ok fragment ∧
            reached.document.tree? fragment = some tree ∧ reached.Loads "card" tree := by
  intro page saved
  have hcreated : applyEach [.createElement "p" 1] (ofDocument .blank true) =
      .ok .creation page := eq_ok_of_given (by decide +kernel)
  have hsaved : apply (.saveTemplate "card" 1) page = .ok .plain saved :=
    eq_ok_of_given (by decide +kernel)
  have hnew : page.templates.contains "card" = false := by decide +kernel
  have hstart : (ofDocument .blank true).Reached := .start [] [] true
  obtain ⟨fragment, tree, hcanonical, htree, hstays, hloads, -⟩ :=
    template_stays_iff_not_exposed hstart hcreated hsaved hnew
  have hslots : saved.operands.slots = [] := by decide +kernel
  have hnames : saved.bindings.nodes = [] := by decide +kernel
  have hhidden : ¬ saved.Exposes fragment := by
    rintro ⟨x, ⟨slot, hm, -⟩ | ⟨id, hl⟩, -⟩
    · rw [hslots] at hm
      cases hm
    · unfold Bindings.lookup? at hl
      rw [hnames] at hl
      cases hl
  refine ⟨hnew, fragment, tree, hcanonical, htree, fun batches reached hm => ?_⟩
  have ⟨hc, ht⟩ := hstays.mpr hhidden batches reached hm
  exact ⟨hc, ht, hloads hhidden batches reached hm⟩

/-- The paragraph was pushed once more before it was registered. The operand that is left leads
into the template, and an edit of the top of the stack writes there. -/
theorem saved_card_is_rewritten :
    let edits : List Edit := [.createElement "p" 1, .pushRoot 1, .saveTemplate "card" 1]
    let saved := left (applyEach edits (ofDocument .blank true))
    let page := afterBatches (ofDocument .blank true)
      [edits ++ [.setText 0 "changed", .popRoot]]
    (Keyed.get? saved.templates.entries "card").map (·.fragment) = some 5 ∧
      (Keyed.get? page.templates.entries "card").map (·.fragment) = some 5 ∧
      saved.document.outerHtml 5 = "<p></p>" ∧ page.document.outerHtml 5 = "<p>changed</p>" := by
  decide +kernel

end PageHost.Page
