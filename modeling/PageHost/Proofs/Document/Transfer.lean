import PageHost.Proofs.Document.Detach
/-!
# What moves and what stays

An insertion moves nodes under one container. `Transfer` describes the document that is
left: the list of the container, the parent of the nodes that have moved, and that every
other node that was there keeps its parent and keeps its list but for the moved nodes.

Only `input` elements that come onto the page get more children. `Filled` keeps track of
these while the nodes are adopted one after the other: they are fresh and stand at the end
of their lists, and the `input` elements are at or below a node that moves.
-/

namespace PageHost.Document

/-! ## The nodes that move -/

/-- The nodes that move when the given ones are put somewhere: a fragment stands for its
children. -/
def dissolved (doc : Document) (nodes : List Handle) : List Handle :=
  nodes.flatMap fun h => if doc.kind? h = some .fragment then doc.children h else [h]

/-- Flattening replaces every fragment by its children. -/
theorem eq_dissolved_of_flatten {doc : Document} {nodes moved : List Handle}
    (h : doc.flatten nodes = .ok moved) : moved = doc.dissolved nodes := by
  induction nodes generalizing moved with
  | nil =>
    cases h
    rfl
  | cons n rest ih =>
    rw [flatten] at h
    split at h
    · cases h
    · rename_i kind hk
      rw [kindOf_ok_iff] at hk
      split at h
      · cases h
      · rename_i later hl
        cases h
        rw [ih hl, dissolved, dissolved, List.flatMap_cons, hk]
        simp only [Option.some.injEq]

/-- The children of a named fragment are among the nodes to be moved. -/
theorem mem_dissolved_of_fragment {doc : Document} {nodes : List Handle} {f c : Handle}
    (hf : f ∈ nodes) (hk : doc.kind? f = some .fragment) (hc : c ∈ doc.children f) :
    c ∈ doc.dissolved nodes := by
  apply List.mem_flatMap.mpr
  refine ⟨f, hf, ?_⟩
  rw [if_pos hk]
  exact hc

/-! ## Lists without a node -/

theorem decide_ne_of_not_mem {h : Handle} {list : List Handle} (hm : h ∉ list) {c : Handle}
    (hc : c ∈ list) : (!decide (c = h)) = true := by
  simpa using fun he : c = h => hm (he ▸ hc)

theorem filter_ne_of_not_mem {h : Handle} {list : List Handle} (hm : h ∉ list) :
    list.filter (fun c => !decide (c = h)) = list :=
  List.filter_eq_self.mpr fun _ hc => decide_ne_of_not_mem hm hc

/-- Nodes go in before an anchor that is not among those before it. -/
theorem spliceBefore_append {anchor : Handle} {before : List Handle} (h : anchor ∉ before)
    (nodes later : List Handle) :
    spliceBefore anchor nodes (before ++ anchor :: later) =
      before ++ nodes ++ anchor :: later := by
  have hother := fun c hc => decide_ne_of_not_mem (c := c) h hc
  unfold spliceBefore
  rw [List.takeWhile_append_of_pos hother, List.dropWhile_append_of_pos hother]
  simp

/-- The sibling after a node is the first of those after it. -/
theorem nextSibling?_eq {doc : Document} {parent reference : Handle} {before later : List Handle}
    (h : reference ∉ before) (hl : doc.children parent = before ++ reference :: later) :
    doc.nextSibling? parent reference = later[0]? := by
  have hother := fun c hc => decide_ne_of_not_mem (c := c) h hc
  unfold nextSibling?
  rw [hl, List.dropWhile_append_of_pos hother]
  simp

/-! ## Lists that get fresh nodes -/

/-- `b` is `base` with fresh nodes at the end of lists: below fresh nodes, and below `input`
elements of a region. -/
structure Filled (region : Handle → Prop) (base b : Document) : Prop where
  size_le : base.size ≤ b.size
  content : ∀ x, x < base.size → b.content? x = base.content? x
  children : ∀ x, x < base.size → ∃ own, b.children x = base.children x ++ own ∧
    ∀ c ∈ own, base.size ≤ c ∧ base.tag? x = some "input" ∧ region x
  fresh : ∀ x, base.size ≤ x → ∀ c ∈ b.children x, base.size ≤ c

namespace Filled

variable {region : Handle → Prop} {base b : Document}

theorem refl (region : Handle → Prop) (doc : Document) : Filled region doc doc where
  size_le := Nat.le_refl _
  content _ _ := rfl
  children x _ := ⟨[], (List.append_nil _).symm, by simp⟩
  fresh x hx c hc := by
    rw [children_of_size_le hx] at hc
    cases hc

/-- Parents and what is live do not matter. -/
theorem congr {c : Document} (h : Filled region base b) (hc : ∀ x, c.content? x = b.content? x)
    (hl : ∀ x, c.children x = b.children x) : Filled region base c where
  size_le := by
    rw [size_eq_of_content? hc]
    exact h.size_le
  content x hx := (hc x).trans (h.content x hx)
  children x hx := by
    rw [hl]
    exact h.children x hx
  fresh x hx := by
    rw [hl]
    exact h.fresh x hx

theorem createBelow (h : Filled region base b) {p : Handle} (hs : p < b.size)
    (hp : base.size ≤ p ∨ base.tag? p = some "input" ∧ region p) (content : Content) :
    Filled region base (b.createBelow p content).2 where
  size_le := by
    rw [size_createBelow]
    exact Nat.le_succ_of_le h.size_le
  content x hx := by
    rw [content?_createBelow, if_neg (Nat.ne_of_lt (Nat.lt_of_lt_of_le hx h.size_le)),
      h.content x hx]
  children x hx := by
    obtain ⟨own, he, hown⟩ := h.children x hx
    rw [children_createBelow b content hs]
    split
    · rename_i hpx
      subst hpx
      refine ⟨own ++ [b.size], by rw [he, List.append_assoc], fun c hc => ?_⟩
      rcases List.mem_append.mp hc with hc | hc
      · exact hown c hc
      · rw [List.mem_singleton.mp hc]
        exact ⟨h.size_le, hp.resolve_left (Nat.not_le.mpr hx)⟩
    · exact ⟨own, he, hown⟩
  fresh x hx c hc := by
    rw [children_createBelow b content hs] at hc
    split at hc
    · rcases List.mem_append.mp hc with hc | hc
      · exact h.fresh x hx c hc
      · rw [List.mem_singleton.mp hc]
        exact h.size_le
    · exact h.fresh x hx c hc

theorem fillControl (h : Filled region base b) {x : Handle} (hx : base.size ≤ x ∨ region x) :
    Filled region base (b.fillControl x) := by
  unfold Document.fillControl
  split
  · rename_i htag
    obtain ⟨name, attributes, hc, -⟩ := content?_of_tag? htag
    have hs : x < b.size := (lt_size_iff b x).mpr ⟨_, hc⟩
    have hin : base.size ≤ x ∨ base.tag? x = some "input" ∧ region x := by
      rcases Nat.lt_or_ge x base.size with hold | hfresh
      · refine Or.inr ⟨?_, hx.resolve_left (Nat.not_le.mpr hold)⟩
        rw [tag?_eq, ← h.content x hold, ← tag?_eq]
        exact htag
      · exact Or.inl hfresh
    split
    · split
      · split
        · exact h
        · exact h.createBelow hs hin _
      · split
        · have hbutton := h.createBelow hs hin
            (.element ⟨"button", none⟩ [ownAttribute "type" "button", ownAttribute "tabindex" "-1"])
          have hlabel := hbutton.createBelow (Nat.lt_of_lt_of_eq (Nat.lt_succ_of_lt hs)
            (size_createBelow b _ x).symm) hin (.element ⟨"label", none⟩ [])
          have hnote := hlabel.createBelow
            (Nat.lt_of_lt_of_eq (Nat.lt_succ_self _) (size_createBelow _ _ x).symm)
            (Or.inl hbutton.size_le) (.text "No File Selected")
          refine hnote.createBelow ?_ (Or.inl h.size_le) (.text "Browse")
          simp only [size_createBelow]
          exact Nat.lt_add_of_pos_right (Nat.succ_pos 2)
        · exact h
    · exact h
  · exact h

/-- What is below a node is fresh or was below it. -/
theorem below (h : Filled region base b) {top x : Handle} (hb : b.Below top x) :
    base.size ≤ x ∨ base.Below top x := by
  induction hb with
  | here => exact Or.inr .here
  | @child p c _ hc ih =>
    rcases Nat.lt_or_ge p base.size with hold | hfresh
    · obtain ⟨own, he, hown⟩ := h.children p hold
      rw [he] at hc
      rcases List.mem_append.mp hc with hc | hc
      · exact Or.inr ((ih.resolve_left (Nat.not_le.mpr hold)).child hc)
      · exact Or.inl (hown c hc).1
    · exact Or.inl (h.fresh p hfresh c hc)

/-- A node of which all that is at or below it is in the region fills the region when it comes onto
the page. -/
theorem enter (h : Filled region base b) {top : Handle}
    (htop : ∀ x, base.Below top x → region x) : Filled region base (b.enter top) := by
  have hfold : ∀ (nodes : List Handle) (b : Document), Filled region base b →
      (∀ x ∈ nodes, base.size ≤ x ∨ region x) →
        Filled region base (nodes.foldl Document.fillControl b) := by
    intro nodes
    induction nodes with
    | nil => exact fun _ h _ => h
    | cons x rest ih =>
      intro b h hin
      exact ih _ (h.fillControl (hin x List.mem_cons_self))
        fun y hy => hin y (List.mem_cons_of_mem x hy)
  have halike := alike_markLive b top true
  refine hfold _ _ (h.congr halike.content halike.children) fun x hx => ?_
  exact (h.below (below_of_mem_descendants hx)).imp_right (htop x)

/-- Nodes without parents are adopted one after the other. -/
theorem foldl_adopt (h : Filled region base b) (parent : Handle) {nodes : List Handle}
    (hn : nodes.Nodup) (hexist : ∀ c ∈ nodes, c < b.size)
    (hnone : ∀ c ∈ nodes, b.parent? c = none)
    (hin : ∀ c ∈ nodes, ∀ x, base.Below c x → region x) :
    Filled region base (nodes.foldl (adopt parent) b) := by
  induction nodes generalizing b with
  | nil => exact h
  | cons c rest ih =>
    obtain ⟨hc, hrest⟩ := List.nodup_cons.mp hn
    have hcs := hexist c List.mem_cons_self
    have hgrows : Grows (settle parent b c) (adopt parent b c) := grows_adopt .refl parent hcs
    have hone : Filled region base (adopt parent b c) := by
      have hmoved : Filled region base (b.setParent c (some parent)) :=
        h.congr (content?_setParent b c · _) (children_setParent b c · _)
      unfold adopt
      rw [hnone c List.mem_cons_self]
      dsimp only
      split
      · exact hmoved.enter (hin c List.mem_cons_self)
      · exact hmoved
    refine ih hone hrest (fun d hd => ?_) (fun d hd => ?_)
      fun d hd => hin d (List.mem_cons_of_mem c hd)
    · have hds := hexist d (List.mem_cons_of_mem c hd)
      rw [← size_settle parent b c] at hds
      exact Nat.lt_of_lt_of_le hds hgrows.size_le
    · have hds := hexist d (List.mem_cons_of_mem c hd)
      have hne : c ≠ d := fun he => hc (he ▸ hd)
      rw [hgrows.parent?_eq (by rwa [size_settle]), parent?_settle parent hcs, if_neg hne]
      exact hnone d (List.mem_cons_of_mem c hd)

end Filled

/-- Linking fills `input` elements at or below the nodes that are linked, and none if the
container is not live. The container is not below a node that moves, so its new list leads
nowhere from there. -/
theorem filled_link {doc : Document} (ht : doc.Treelike) {parent : Handle} {moved : List Handle}
    (h : doc.Placeable parent moved) (hn : moved.Nodup)
    (hstill : ∀ c ∈ moved, doc.live c = false) (place : List Handle → List Handle) :
    Filled (fun x => doc.live parent = true ∧ ∃ m ∈ moved, doc.Below m x)
      (doc.mapChildren parent place) (doc.link parent place moved) := by
  obtain ⟨kind, hk, -⟩ := h.container
  have hps : parent < doc.size := lt_size_of_kind? hk
  by_cases hlive : doc.live parent = true
  · refine (Filled.refl _ _).foldl_adopt parent hn (fun c hc => ?_) (fun c hc => ?_) ?_
    · rw [size_mapChildren]
      exact h.exist c hc
    · rw [parent?_mapChildren]
      exact h.parentless c hc
    · intro m hm x hx
      refine ⟨hlive, m, hm, ?_⟩
      induction hx with
      | here => exact .here
      | @child p c _ hc ih =>
        have hne : parent ≠ p := by
          rintro rfl
          exact (ih.above ht).elim (fun he => (h.free m hm).1 he.symm) (h.free m hm).2
        rw [children_mapChildren hps, if_neg hne] at hc
        exact ih.child hc
  · obtain ⟨hrelinked, -⟩ := relinked_of_still h place (Bool.eq_false_iff.mpr hlive) hstill
    refine (Filled.refl _ _).congr (fun x => ?_) fun x => ?_
    · rw [hrelinked.content, content?_mapChildren]
    · rw [hrelinked.children, children_mapChildren hps]
      split
      · apply List.filter_eq_self.mpr
        intro c _
        have hcount := List.nodup_iff_count.mp hn c
        simpa using Nat.lt_succ_of_le hcount
      · rfl

/-! ## The document afterwards -/

/-- A fresh child that an `input` element gets when it comes onto the page with a node that moves
under the container. -/
structure Furnished (doc : Document) (container : Handle) (moved : List Handle) (x own : Handle) :
    Prop where
  fresh : doc.contains own = false
  input : doc.tag? x = some "input"
  live : doc.live container = true
  inside : ∃ m ∈ moved, x ∈ doc.descendants m

/-- `b` is `a` after the nodes have moved under the container, whose list then is `order`. The nodes
in `out` are left without a parent. -/
structure Transfer (a : Document) (container : Handle) (nodes out order : List Handle)
    (b : Document) : Prop where
  list : b.children container = order
  moved : ∀ c ∈ a.dissolved nodes, b.parent? c = some container
  freed : ∀ c ∈ out, b.parent? c = none
  parent : ∀ x, a.contains x = true → x ∉ a.dissolved nodes → x ∉ out → b.parent? x = a.parent? x
  /-- Every other list loses the moved nodes and no others. -/
  children : ∀ x, a.contains x = true → x ≠ container → ∃ own,
    b.children x = (a.children x).filter (fun c => !decide (c ∈ a.dissolved nodes)) ++ own ∧
      ∀ c ∈ own, a.Furnished container (a.dissolved nodes) x c
  emptied : ∀ f ∈ nodes, a.kind? f = some .fragment → f ≠ container → b.children f = []

section Transfer

variable {doc after : Document} {parent reference : Handle} {nodes moved : List Handle}

/-- The container is not below a node that moves, so it gets no such child. -/
theorem Furnished.ne_container {x own : Handle} (h : doc.Furnished parent moved x own)
    (ht : doc.Treelike) (hm : doc.movable parent nodes = .ok moved) : x ≠ parent := by
  rintro rfl
  obtain ⟨-, -, hmay⟩ := (movable_ok_iff doc x nodes moved).mp hm
  rw [mayAllMove_ok_iff] at hmay
  obtain ⟨m, hmm, hbelow⟩ := h.inside
  obtain ⟨⟨kind, hk, -⟩, hne, hfree⟩ := hmay m hmm
  rw [mem_descendants_iff ht (lt_size_of_kind? hk)] at hbelow
  rw [ht.mem_ancestors_iff] at hfree
  exact (hbelow.above ht).elim (fun he => hne he.symm) hfree

/-- A node that is furnished is no fragment. -/
theorem Furnished.not_fragment {x own : Handle} (h : doc.Furnished parent moved x own) :
    doc.kind? x ≠ some .fragment := by
  obtain ⟨name, attributes, hcontent, -⟩ := content?_of_tag? h.input
  rw [kind?_eq, hcontent]
  exact nofun

/-- After nodes have left their places and are linked, the lists have lost them, the container has
them where they were put, and elements that come onto the page with them are furnished. -/
theorem exists_children_link (ht : doc.Treelike) (hs : doc.Standing)
    (hm : doc.movable parent nodes = .ok moved) (hn : moved.Nodup)
    (place : List Handle → List Handle) {x : Handle} (hx : x < doc.size) :
    ∃ own, ((doc.unlinkAll moved).link parent place moved).children x =
      (if parent = x then place ((doc.children x).filter fun c => !decide (c ∈ moved))
        else (doc.children x).filter fun c => !decide (c ∈ moved)) ++ own ∧
      ∀ c ∈ own, doc.Furnished parent moved x c := by
  have hplace := placeable_of_movable ht hm
  have hcut := loosened_unlinkAll ht moved
  obtain ⟨⟨kind, hk, -⟩, -, hmay⟩ := (movable_ok_iff doc parent nodes moved).mp hm
  rw [mayAllMove_ok_iff] at hmay
  have hps : parent < (doc.unlinkAll moved).size := by
    rw [hcut.lt_size_iff]
    exact lt_size_of_kind? hk
  have hfilled := filled_link (hcut.treelike ht) hplace hn
    (fun c hc => live_unlinkAll_of_movable hs ht hm hc) place
  obtain ⟨own, he, hown⟩ := hfilled.children x (by rwa [size_mapChildren, hcut.size])
  rw [children_mapChildren hps, hcut.children] at he
  refine ⟨own, he, fun c hc => ?_⟩
  obtain ⟨hfresh, hin, hlive, m, hmm, hbelow⟩ := hown c hc
  rw [size_mapChildren, hcut.size] at hfresh
  rw [tag?_eq, content?_mapChildren, hcut.content, ← tag?_eq] at hin
  obtain ⟨⟨kind, hk, -⟩, -, -⟩ := hmay m hmm
  refine ⟨?_, hin, (live_foldl_unlink ht hlive).2, m, hmm, ?_⟩
  · rw [Bool.eq_false_iff, ne_eq, contains_iff]
    exact Nat.not_lt.mpr hfresh
  · exact (mem_descendants_iff ht (lt_size_of_kind? hk) x).mpr (hcut.below hbelow)

/-- The moved nodes have the new parent, and all others keep theirs. -/
theorem parent?_link (ht : doc.Treelike) (hm : doc.movable parent nodes = .ok moved)
    (place : List Handle → List Handle) {x : Handle} (hx : x < doc.size) :
    ((doc.unlinkAll moved).link parent place moved).parent? x =
      if x ∈ moved then some parent else doc.parent? x := by
  have hcut := loosened_unlinkAll ht moved
  obtain ⟨b, hb, hgrows⟩ := exists_relinked (placeable_of_movable ht hm) place
  rw [hgrows.parent?_eq (by rwa [hb.size, hcut.size]), hb.parent, hcut.parent]
  split <;> rfl

/-- Linking nodes that have left their places is a transfer. -/
theorem transfer_link (ht : doc.Treelike) (hs : doc.Standing)
    (hm : doc.movable parent nodes = .ok moved) (hn : moved.Nodup)
    (place : List Handle → List Handle) :
    Transfer doc parent nodes []
      (place ((doc.children parent).filter fun c => !decide (c ∈ moved)))
      ((doc.unlinkAll moved).link parent place moved) := by
  obtain ⟨⟨kind, hk, -⟩, hflat, hmay⟩ := (movable_ok_iff doc parent nodes moved).mp hm
  rw [mayAllMove_ok_iff] at hmay
  obtain rfl := eq_dissolved_of_flatten hflat
  constructor
  case list =>
    obtain ⟨own, he, hown⟩ := exists_children_link ht hs hm hn place (lt_size_of_kind? hk)
    have hnone : own = [] := List.eq_nil_iff_forall_not_mem.mpr fun c hc =>
      (hown c hc).ne_container ht hm rfl
    rw [he, hnone, List.append_nil, if_pos rfl]
  case moved =>
    intro c hc
    obtain ⟨⟨own, hown, -⟩, -⟩ := hmay c hc
    rw [parent?_link ht hm place (lt_size_of_kind? hown), if_pos hc]
  case freed =>
    intro c hc
    cases hc
  case parent =>
    intro x hx hout _
    rw [parent?_link ht hm place ((contains_iff doc x).mp hx), if_neg hout]
  case children =>
    intro x hx hne
    obtain ⟨own, he, hown⟩ := exists_children_link ht hs hm hn place ((contains_iff doc x).mp hx)
    rw [if_neg (Ne.symm hne)] at he
    exact ⟨own, he, hown⟩
  case emptied =>
    intro f hf hfk hne
    obtain ⟨own, he, hown⟩ := exists_children_link ht hs hm hn place (lt_size_of_kind? hfk)
    have hnone : own = [] := List.eq_nil_iff_forall_not_mem.mpr fun c hc =>
      (hown c hc).not_fragment hfk
    have hall : (doc.children f).filter (fun c => !decide (c ∈ doc.dissolved nodes)) = [] := by
      apply List.filter_eq_nil_iff.mpr
      intro c hc
      simpa using mem_dissolved_of_fragment hf hfk hc
    rw [he, hnone, List.append_nil, if_neg (Ne.symm hne), hall]

/-- A node of the container's list that did not move can be taken out of it, since no list but that
of its parent names it. -/
theorem Transfer.unlink {order : List Handle} (h : Transfer doc parent nodes [] order after)
    (ht : after.Treelike) (hup : after.parent? reference = some parent)
    (hout : reference ∉ doc.dissolved nodes) :
    Transfer doc parent nodes [reference] (order.filter fun c => !decide (c = reference))
      (after.unlink reference) := by
  have hcut := loosened_unlink ht reference
  have hlists : ∀ x, (after.unlink reference).children x =
      (after.children x).filter fun c => !decide (c = reference) := by
    intro x
    rw [hcut.children]
    simp only [List.mem_singleton]
  have hkeep : ∀ x, x ≠ parent → (after.unlink reference).children x = after.children x := by
    intro x hx
    rw [hlists, filter_ne_of_not_mem]
    intro hm
    rw [ht.parent_of_mem x reference hm] at hup
    exact hx (Option.some.inj hup)
  constructor
  case list => rw [hlists, h.list]
  case moved =>
    intro c hc
    have hne : c ∉ [reference] := by
      rw [List.mem_singleton]
      exact fun he => hout (he ▸ hc)
    rw [hcut.parent, if_neg hne]
    exact h.moved c hc
  case freed =>
    intro c hc
    rw [hcut.parent, if_pos hc]
  case parent =>
    intro x hx hm hne
    rw [hcut.parent, if_neg hne]
    exact h.parent x hx hm List.not_mem_nil
  case children =>
    intro x hx hne
    rw [hkeep x hne]
    exact h.children x hx hne
  case emptied =>
    intro f hf hk hne
    rw [hkeep f hne]
    exact h.emptied f hf hk hne

/-! ## The operations -/

/-- Appending children transfers the nodes to the end of the list. -/
theorem transfer_appendChildren (ht : doc.Treelike) (hs : doc.Standing)
    (hn : (doc.dissolved nodes).Nodup) (h : appendChildren parent nodes doc = .ok () after) :
    Transfer doc parent nodes []
      ((doc.children parent).filter (fun c => !decide (c ∈ doc.dissolved nodes)) ++
        doc.dissolved nodes) after := by
  obtain ⟨moved, hm, rfl⟩ := appendChildren_ok h
  obtain rfl := eq_dissolved_of_flatten ((movable_ok_iff doc parent nodes moved).mp hm).2.1
  exact transfer_link ht hs hm hn (· ++ doc.dissolved nodes)

/-- An operation beside a reference node that ends well has passed its checks. -/
theorem beside_ok {finish : Handle → List Handle → Change Unit}
    (h : (do
      let parent ← check fun doc => doc.anchorParent reference nodes
      let moved ← prepare parent nodes
      finish parent moved : Change Unit) doc = .ok () after) :
    ∃ parent, doc.parent? reference = some parent ∧
      doc.movable parent nodes = .ok (doc.dissolved nodes) ∧
      finish parent (doc.dissolved nodes) (doc.unlinkAll (doc.dissolved nodes)) = .ok () after := by
  cases ha : doc.anchorParent reference nodes with
  | error e =>
    rw [run_bind_of_error (check_of_error ha)] at h
    cases h
  | ok parent =>
    rw [run_bind_of_ok (check_of_ok ha)] at h
    cases hm : doc.movable parent nodes with
    | error e =>
      rw [run_bind_of_error (prepare_of_error hm)] at h
      cases h
    | ok moved =>
      rw [run_bind_of_ok (prepare_of_ok hm)] at h
      obtain rfl := eq_dissolved_of_flatten ((movable_ok_iff doc parent nodes moved).mp hm).2.1
      exact ⟨parent, (anchorParent_ok ha).1, hm, h⟩

section Beside

/-! The list of the container without the nodes that move is split at the reference node. -/

variable {before later : List Handle} (ht : doc.Treelike) (hs : doc.Standing)
  (hn : (doc.dissolved nodes).Nodup) (hup : doc.parent? reference = some parent)
  (hout : reference ∉ doc.dissolved nodes)
  (hsplit : (doc.children parent).filter (fun c => !decide (c ∈ doc.dissolved nodes)) =
    before ++ reference :: later)
include ht hs hn hup hsplit

omit hs hn hup in
/-- The list of the container when the nodes have left their places. -/
theorem listed_unlinkAll :
    (doc.unlinkAll (doc.dissolved nodes)).children parent = before ++ reference :: later ∧
      (before ++ reference :: later).Nodup := by
  rw [(loosened_unlinkAll ht _).children, ← hsplit]
  exact ⟨rfl, (ht.nodup parent).filter _⟩

omit hs hn hup in
/-- The reference stands once among its siblings. -/
theorem not_mem_before : reference ∉ before := by
  intro hm
  have hnodup := (listed_unlinkAll ht hsplit).2
  exact (List.nodup_append.mp hnodup).2.2 reference hm reference List.mem_cons_self rfl

include hout in
omit hs hn in
/-- What an insertion that succeeds has made of the document. -/
theorem linkBefore_unlinkAll_ok {after : Document}
    (h : linkBefore reference (doc.dissolved nodes) (doc.unlinkAll (doc.dissolved nodes)) =
      .ok () after) :
    after = (doc.unlinkAll (doc.dissolved nodes)).link parent
      (spliceBefore reference (doc.dissolved nodes)) (doc.dissolved nodes) := by
  have hmem : reference ∈ (doc.unlinkAll (doc.dissolved nodes)).children parent := by
    rw [(listed_unlinkAll ht hsplit).1]
    exact List.mem_append_right _ List.mem_cons_self
  have hup' : (doc.unlinkAll (doc.dissolved nodes)).parent? reference = some parent := by
    rw [(loosened_unlinkAll ht _).parent, if_neg hout]
    exact hup
  rw [linkBefore_of_mem _ hup' hmem] at h
  cases h
  rfl

include hout in
/-- Inserting before a reference transfers the nodes to the place before it. -/
theorem transfer_insertBefore (h : insertBefore reference nodes doc = .ok () after) :
    Transfer doc parent nodes [] (before ++ doc.dissolved nodes ++ reference :: later) after := by
  obtain ⟨p, hp, hm, hfinish⟩ := beside_ok h
  obtain rfl := Option.some.inj (hup.symm.trans hp)
  rw [linkBefore_unlinkAll_ok ht hup hout hsplit hfinish]
  have hlink := transfer_link ht hs hm hn (spliceBefore reference (doc.dissolved nodes))
  rwa [hsplit, spliceBefore_append (not_mem_before ht hsplit)] at hlink

/-- Inserting after a reference transfers the nodes to the place after it. -/
theorem transfer_insertAfter (h : insertAfter reference nodes doc = .ok () after) :
    Transfer doc parent nodes [] (before ++ reference :: (doc.dissolved nodes ++ later)) after := by
  obtain ⟨p, hp, hm, hfinish⟩ := beside_ok h
  obtain rfl := Option.some.inj (hup.symm.trans hp)
  obtain ⟨hlist, hnodup⟩ := listed_unlinkAll ht hsplit
  have hget : (get : Change Document) (doc.unlinkAll (doc.dissolved nodes)) =
      .ok (doc.unlinkAll (doc.dissolved nodes)) (doc.unlinkAll (doc.dissolved nodes)) := rfl
  rw [run_bind_of_ok hget, nextSibling?_eq (not_mem_before ht hsplit) hlist] at hfinish
  cases later with
  | nil =>
    cases hfinish
    have hlink := transfer_link ht hs hm hn (· ++ doc.dissolved nodes)
    rw [hsplit] at hlink
    simpa using hlink
  | cons next rest =>
    have hregroup : before ++ reference :: next :: rest = (before ++ [reference]) ++ next :: rest := by
      simp
    rw [hregroup] at hsplit hlist hnodup
    have hnext : next ∉ before ++ [reference] := fun hmem =>
      (List.nodup_append.mp hnodup).2.2 next hmem next List.mem_cons_self rfl
    have hmem : next ∈ (doc.unlinkAll (doc.dissolved nodes)).children parent := by
      rw [hlist]
      exact List.mem_append_right _ List.mem_cons_self
    have hup' := ((loosened_unlinkAll ht _).treelike ht).parent_of_mem parent next hmem
    rw [List.getElem?_cons_zero] at hfinish
    dsimp only at hfinish
    rw [linkBefore_of_mem _ hup' hmem] at hfinish
    cases hfinish
    have hlink := transfer_link ht hs hm hn (spliceBefore next (doc.dissolved nodes))
    rw [hsplit, spliceBefore_append hnext] at hlink
    simpa using hlink

include hout in
/-- Replacing a reference transfers the nodes to its place and takes the reference out. Among the
nodes of the new list only the reference itself is dropped. -/
theorem transfer_replaceWith (h : replaceWith reference nodes doc = .ok () after) :
    Transfer doc parent nodes [reference] (before ++ doc.dissolved nodes ++ later) after := by
  obtain ⟨p, hp, hm, hfinish⟩ := beside_ok h
  obtain rfl := Option.some.inj (hup.symm.trans hp)
  rw [run_bind] at hfinish
  cases hlinked : linkBefore reference (doc.dissolved nodes)
      (doc.unlinkAll (doc.dissolved nodes)) with
  | error e failed =>
    rw [hlinked] at hfinish
    cases hfinish
  | ok u linked =>
    rw [hlinked] at hfinish
    cases hfinish
    obtain rfl := linkBefore_unlinkAll_ok ht hup hout hsplit hlinked
    have hlink := transfer_link ht hs hm hn (spliceBefore reference (doc.dissolved nodes))
    have htree := treelike_link ((loosened_unlinkAll ht _).treelike ht)
      (placeable_of_movable ht hm) (perm_spliceBefore reference (doc.dissolved nodes) _)
    have hup' := (hlink.parent reference ((contains_iff doc _).mpr (lt_size_of_parent? hup)) hout
      List.not_mem_nil).trans hup
    have hcut := hlink.unlink htree hup' hout
    rw [hsplit, spliceBefore_append (not_mem_before ht hsplit)] at hcut
    have hdrop : (before ++ doc.dissolved nodes ++ reference :: later).filter
        (fun c => !decide (c = reference)) = before ++ doc.dissolved nodes ++ later := by
      have hnodup := (listed_unlinkAll ht hsplit).2
      rw [List.nodup_append, List.nodup_cons] at hnodup
      rw [List.filter_append, List.filter_append,
        filter_ne_of_not_mem (not_mem_before ht hsplit), filter_ne_of_not_mem hout]
      simpa using filter_ne_of_not_mem hnodup.2.1.1
    rwa [hdrop] at hcut

end Beside

end Transfer

end PageHost.Document
