import PageHost.Proofs.Document.Treelike
/-!
# Relinking and growth

`Treelike.relink` is the one argument for all changes of the tree: nodes that
neither are nor stand above a container may get it for their parent. A fresh node
and an exchanged list are the simplest cases of it. `Grows` says
that a document came from another by making nodes below elements that were
`input` elements or fresh themselves, which is all that entering the page does.
A document that has grown keeps the contents and parents of its old nodes, their
child lists up to fresh children at the end, and whatever made it treelike.
-/

namespace PageHost.Document

/-! ## Relinking -/

/-- Going up still ends when nodes get a parent that they do not stand above. -/
theorem rises_relink {a b : Document} (moved : List Handle) (parent : Handle)
    (hr : WellFounded fun p c => a.parent? c = some p)
    (hp : ∀ c p, b.parent? c = some p → (c ∈ moved ∧ p = parent) ∨ (c ∉ moved ∧ a.parent? c = some p))
    (hfree : ∀ c ∈ moved, c ≠ parent ∧ ¬ a.Above parent c) :
    WellFounded fun p c => b.parent? c = some p := by
  have hself : ∀ y, y = parent ∨ a.Above parent y →
      Acc (fun p c => b.parent? c = some p) y := by
    intro y
    induction y using hr.induction with
    | _ y ih =>
      intro hy
      constructor
      intro p hpy
      rcases hp y p hpy with ⟨hm, -⟩ | ⟨-, hold⟩
      · rcases hy with rfl | hy
        · exact absurd rfl (hfree y hm).1
        · exact absurd hy (hfree y hm).2
      · apply ih p hold
        rcases hy with rfl | hy
        · exact Or.inr (.parent hold)
        · exact Or.inr (hy.trans (.parent hold))
  constructor
  intro c
  induction c using hr.induction with
  | _ c ih =>
    constructor
    intro p hpc
    rcases hp c p hpc with ⟨-, rfl⟩ | ⟨-, hold⟩
    · exact hself p (Or.inl rfl)
    · exact ih p hold

/-- A change is treelike if its old nodes keep their kinds, some nodes get one
container for their parent that they do not stand above, all others keep or lose
their parent, and the child lists fit the parents. -/
theorem Treelike.relink {a b : Document} (ht : a.Treelike) (moved : List Handle) (parent : Handle)
    (hk : ∀ h, h < a.size → b.kind? h = a.kind? h)
    (hp : ∀ c p, b.parent? c = some p → (c ∈ moved ∧ p = parent) ∨ (c ∉ moved ∧ a.parent? c = some p))
    (hm : ∀ c ∈ moved, (∃ kind, b.kind? parent = some kind ∧ kind.holdsChildren) ∧
      b.kind? c ≠ some .document ∧ b.kind? c ≠ some .fragment ∧ c ≠ parent ∧ ¬ a.Above parent c)
    (hlist : ∀ p c, c ∈ b.children p → b.parent? c = some p)
    (hnodup : ∀ p, (b.children p).Nodup) : b.Treelike where
  parent_of_mem := hlist
  nodup := hnodup
  rises := rises_relink moved parent ht.rises hp fun c hc => (hm c hc).2.2.2
  holder c p h := by
    rcases hp c p h with ⟨hc, rfl⟩ | ⟨-, hold⟩
    · exact (hm c hc).1
    · rw [hk p (ht.parent_lt_size hold)]
      exact ht.holder c p hold
  inner c p h := by
    rcases hp c p h with ⟨hc, -⟩ | ⟨-, hold⟩
    · exact ⟨(hm c hc).2.1, (hm c hc).2.2.1⟩
    · rw [hk c (lt_size_of_parent? hold)]
      exact ht.inner c p hold

/-! ## One fresh node -/

/-- A fresh node without children fits below no node or below a container. -/
theorem treelike_push {doc : Document} (ht : doc.Treelike) {content : Content}
    {parent : Option Handle} (live : Bool)
    (hp : ∀ p, parent = some p → (∃ kind, doc.kind? p = some kind ∧ kind.holdsChildren) ∧
      content.kind ≠ .document ∧ content.kind ≠ .fragment) :
    (doc.push ⟨content, parent, [], live⟩).Treelike := by
  have hold : ∀ x, x < doc.size →
      (doc.push ⟨content, parent, [], live⟩).kind? x = doc.kind? x := by
    intro x hx
    rw [kind?_eq, content?_push, if_neg (Nat.ne_of_lt hx), ← kind?_eq]
  have hlist : ∀ p c, c ∈ (doc.push ⟨content, parent, [], live⟩).children p →
      (doc.push ⟨content, parent, [], live⟩).parent? c = some p := by
    intro p c hc
    rw [children_push_nil] at hc
    rw [parent?_push, if_neg (Nat.ne_of_lt (ht.child_lt_size hc))]
    exact ht.parent_of_mem p c hc
  have hnodup : ∀ p, ((doc.push ⟨content, parent, [], live⟩).children p).Nodup := by
    intro p
    rw [children_push_nil]
    exact ht.nodup p
  cases parent with
  | none =>
    refine ht.relink [] 0 hold ?_ (by simp) hlist hnodup
    intro c p h
    rw [parent?_push] at h
    split at h
    · cases h
    · exact Or.inr ⟨List.not_mem_nil, h⟩
  | some p =>
    obtain ⟨⟨kind, hk, hholds⟩, hd, hf⟩ := hp p rfl
    have hps : p < doc.size := lt_size_of_kind? hk
    refine ht.relink [doc.size] p hold ?_ ?_ hlist hnodup
    · intro c q h
      rw [parent?_push] at h
      rw [List.mem_singleton]
      split at h
      · rename_i hc
        exact Or.inl ⟨hc, (Option.some.inj h).symm⟩
      · rename_i hc
        exact Or.inr ⟨hc, h⟩
    · intro c hc
      rw [List.mem_singleton.mp hc, kind?_eq, kind?_eq, content?_push, content?_push, if_pos rfl,
        if_neg (Nat.ne_of_lt hps), ← kind?_eq]
      refine ⟨⟨kind, hk, hholds⟩, by simpa using hd, by simpa using hf, (Nat.ne_of_lt hps).symm, ?_⟩
      exact fun ha => Nat.lt_irrefl _ (ht.above_lt_size ha)

/-- A list may be exchanged for one of nodes that have the lister for their parent. -/
theorem treelike_mapChildren {doc : Document} (ht : doc.Treelike) {p : Handle}
    {f : List Handle → List Handle} (hn : (f (doc.children p)).Nodup)
    (hp : ∀ c ∈ f (doc.children p), doc.parent? c = some p) : (doc.mapChildren p f).Treelike := by
  have hchildren : ∀ q, (doc.mapChildren p f).children q = f (doc.children p) ∧ q = p ∨
      (doc.mapChildren p f).children q = doc.children q := by
    intro q
    by_cases hs : p < doc.size
    · rw [children_mapChildren hs]
      by_cases hq : p = q
      · simp [hq]
      · simp [hq]
    · have hle : doc.size ≤ p := Nat.le_of_not_lt hs
      rw [children_eq, mapChildren, node?_update]
      by_cases hq : p = q
      · subst hq
        rw [children_of_size_le hle]
        simp [(node?_eq_none_iff doc p).mpr hle]
      · rw [if_neg hq, ← children_eq]
        exact Or.inr rfl
  refine ht.relink [] 0 (fun x _ => ?_) (fun c q h => ?_) (by simp) (fun q c hc => ?_) (fun q => ?_)
  · rw [kind?_eq, content?_mapChildren, ← kind?_eq]
  · rw [parent?_mapChildren] at h
    exact Or.inr ⟨List.not_mem_nil, h⟩
  · rw [parent?_mapChildren]
    rcases hchildren q with ⟨he, rfl⟩ | he
    · rw [he] at hc
      exact hp c hc
    · rw [he] at hc
      exact ht.parent_of_mem q c hc
  · rcases hchildren q with ⟨he, -⟩ | he
    · rw [he]
      exact hn
    · rw [he]
      exact ht.nodup q

/-! ## A node made below another -/

section CreateBelow

variable (doc : Document) {p : Handle} (content : Content)

/-- A node that is made below another is one more. -/
@[simp] theorem size_createBelow (p : Handle) :
    (doc.createBelow p content).2.size = doc.size + 1 := by simp [createBelow]

/-- A node that is made below another is a fresh one with an entry at the end of the list. -/
theorem createBelow_snd (p : Handle) : (doc.createBelow p content).2 =
    (doc.push ⟨content, some p, [], true⟩).mapChildren p (· ++ [doc.size]) := rfl

theorem content?_createBelow (p x : Handle) : (doc.createBelow p content).2.content? x =
    if x = doc.size then some content else doc.content? x := by
  rw [createBelow_snd, content?_mapChildren, content?_push]

theorem parent?_createBelow (p x : Handle) : (doc.createBelow p content).2.parent? x =
    if x = doc.size then some p else doc.parent? x := by
  rw [createBelow_snd, parent?_mapChildren, parent?_push]

theorem children_createBelow (hp : p < doc.size) (x : Handle) :
    (doc.createBelow p content).2.children x =
      if p = x then doc.children x ++ [doc.size] else doc.children x := by
  have hs : p < (doc.push ⟨content, some p, [], true⟩).size := by
    rw [size_push]
    exact Nat.lt_succ_of_lt hp
  rw [createBelow_snd, children_mapChildren hs, children_push_nil]

end CreateBelow

/-- A node that is made below a container keeps the tree in order. -/
theorem treelike_createBelow {doc : Document} (ht : doc.Treelike) {p : Handle} {content : Content}
    {kind : Kind} (hp : doc.kind? p = some kind) (hk : kind.holdsChildren)
    (hd : content.kind ≠ .document) (hf : content.kind ≠ .fragment) :
    (doc.createBelow p content).2.Treelike := by
  have hpush : (doc.push ⟨content, some p, [], true⟩).Treelike := by
    apply treelike_push ht true
    intro q hq
    cases hq
    exact ⟨⟨kind, hp, hk⟩, hd, hf⟩
  rw [createBelow_snd]
  apply treelike_mapChildren hpush
  · rw [children_push_nil, List.nodup_append]
    refine ⟨ht.nodup p, List.nodup_cons.mpr ⟨List.not_mem_nil, List.nodup_nil⟩, ?_⟩
    intro x hx y hy
    rw [List.mem_singleton.mp hy]
    exact Nat.ne_of_lt (ht.child_lt_size hx)
  · intro c hc
    rw [children_push_nil] at hc
    rw [parent?_push]
    rcases List.mem_append.mp hc with hc | hc
    · rw [if_neg (Nat.ne_of_lt (ht.child_lt_size hc))]
      exact ht.parent_of_mem p c hc
    · rw [if_pos (List.mem_singleton.mp hc)]

/-! ## Growth -/

/-- A document that came from `base` by making nodes below elements that are
either `input` elements or fresh. -/
inductive Grows (base : Document) : Document → Prop where
  | refl : Grows base base
  | alike {b c : Document} : Grows base b → b.Alike c → Grows base c
  | made {b : Document} {p : Handle} {name : ElementName} {attributes : List Attribute}
      {content : Content} : Grows base b → b.content? p = some (.element name attributes) →
      (name.tag = "input" ∨ base.size ≤ p) → content.kind ≠ .document → content.kind ≠ .fragment →
      Grows base (b.createBelow p content).2

namespace Grows

variable {base b : Document}

/-- A document that has grown is not smaller. -/
theorem size_le (h : Grows base b) : base.size ≤ b.size := by
  induction h with
  | refl => exact Nat.le_refl _
  | alike _ ha ih => rwa [ha.size]
  | made _ _ _ _ _ ih =>
    rw [size_createBelow]
    exact Nat.le_succ_of_le ih

/-- Old nodes keep their parents. -/
theorem parent?_eq (h : Grows base b) {x : Handle} (hx : x < base.size) :
    b.parent? x = base.parent? x := by
  induction h with
  | refl => rfl
  | alike _ ha ih => rw [ha.parent, ih]
  | made hg _ _ _ _ ih =>
    rw [parent?_createBelow, if_neg (Nat.ne_of_lt (Nat.lt_of_lt_of_le hx hg.size_le)), ih]

/-- Old nodes get fresh children at the end of their lists at most. -/
theorem children_eq_append (h : Grows base b) (x : Handle) :
    ∃ fresh, b.children x = base.children x ++ fresh ∧ ∀ y ∈ fresh, base.size ≤ y := by
  induction h with
  | refl => exact ⟨[], (List.append_nil _).symm, by simp⟩
  | alike _ ha ih =>
    obtain ⟨fresh, he, hf⟩ := ih
    exact ⟨fresh, by rw [ha.children, he], hf⟩
  | @made b p _ _ _ hg hp _ _ _ ih =>
    obtain ⟨fresh, he, hf⟩ := ih
    have hps : p < b.size := (lt_size_iff b p).mpr ⟨_, hp⟩
    rw [children_createBelow b _ hps]
    split
    · refine ⟨fresh ++ [b.size], by rw [he, List.append_assoc], ?_⟩
      intro y hy
      rcases List.mem_append.mp hy with hy | hy
      · exact hf y hy
      · rw [List.mem_singleton.mp hy]
        exact hg.size_le
    · exact ⟨fresh, he, hf⟩

/-- A node that was listed is still listed. -/
theorem mem_children (h : Grows base b) {x y : Handle} (hm : y ∈ base.children x) :
    y ∈ b.children x := by
  obtain ⟨fresh, he, -⟩ := h.children_eq_append x
  rw [he]
  exact List.mem_append_left _ hm

/-- Every fresh node is listed by its parent. -/
theorem listed_of_fresh (h : Grows base b) {x : Handle} (hx : base.size ≤ x) (hb : x < b.size) :
    ∃ p, b.parent? x = some p ∧ x ∈ b.children p := by
  induction h with
  | refl => exact absurd hx (Nat.not_le.mpr hb)
  | alike _ ha ih =>
    rw [ha.size] at hb
    obtain ⟨p, hp, hm⟩ := ih hb
    exact ⟨p, by rw [ha.parent, hp], by rwa [ha.children]⟩
  | @made b q _ _ _ hg hq _ _ _ ih =>
    have hqs : q < b.size := (lt_size_iff b q).mpr ⟨_, hq⟩
    by_cases he : x = b.size
    · subst he
      refine ⟨q, by rw [parent?_createBelow, if_pos rfl], ?_⟩
      rw [children_createBelow b _ hqs, if_pos rfl]
      exact List.mem_append_right _ (List.mem_singleton.mpr rfl)
    · rw [size_createBelow] at hb
      obtain ⟨p, hp, hm⟩ := ih (Nat.lt_of_le_of_ne (Nat.le_of_lt_succ hb) he)
      refine ⟨p, by rw [parent?_createBelow, if_neg he, hp], ?_⟩
      rw [children_createBelow b _ hqs]
      split
      · exact List.mem_append_left _ hm
      · exact hm

/-- A treelike document grows into a treelike one. -/
theorem treelike (h : Grows base b) (ht : base.Treelike) : b.Treelike := by
  induction h with
  | refl => exact ht
  | alike _ ha ih => exact ha.treelike ih
  | @made b p name attributes content _ hp _ hd hf ih =>
    have hk : b.kind? p = some .element := by
      rw [kind?_eq, hp]
      rfl
    exact treelike_createBelow ih hk rfl hd hf

end Grows

/-! ## Coming onto the page -/

/-- A node with a tag is an element of that tag. -/
theorem content?_of_tag? {doc : Document} {h : Handle} {tag : String} (ht : doc.tag? h = some tag) :
    ∃ name attributes, doc.content? h = some (.element name attributes) ∧ name.tag = tag := by
  rw [tag?_eq] at ht
  obtain ⟨name, hn, rfl⟩ := Option.map_eq_some_iff.mp ht
  obtain ⟨content, hc, he⟩ := Option.bind_eq_some_iff.mp hn
  cases content with
  | element own attributes =>
    cases he
    exact ⟨name, attributes, hc, rfl⟩
  | _ => cases he

/-- A node stays what it is when another one is made. -/
theorem content?_createBelow_of_some {doc : Document} {p x : Handle} {content own : Content}
    (h : doc.content? x = some own) : (doc.createBelow p content).2.content? x = some own := by
  have hs : x < doc.size := (lt_size_iff doc x).mpr ⟨own, h⟩
  rw [content?_createBelow, if_neg (Nat.ne_of_lt hs), h]

/-- The fresh node has the content that it was made with. -/
theorem content?_createBelow_size (doc : Document) (p : Handle) (content : Content) :
    (doc.createBelow p content).2.content? doc.size = some content := by
  rw [content?_createBelow, if_pos rfl]

/-- Filling a control makes nodes below it and below the nodes just made. -/
theorem grows_fillControl {base doc : Document} (hg : Grows base doc) (h : Handle) :
    Grows base (doc.fillControl h) := by
  unfold fillControl
  split
  · rename_i htag
    obtain ⟨name, attributes, hc, hn⟩ := content?_of_tag? htag
    split
    · split
      · split
        · exact hg
        · exact hg.made hc (Or.inl hn) nofun nofun
      · split
        · let button : Content :=
            .element ⟨"button", none⟩ [ownAttribute "type" "button", ownAttribute "tabindex" "-1"]
          let label : Content := .element ⟨"label", none⟩ []
          let withButton := (doc.createBelow h button).2
          let withLabel := (withButton.createBelow h label).2
          have hb : withButton.content? doc.size = some button :=
            content?_createBelow_size doc h button
          have hl : withLabel.content? withButton.size = some label :=
            content?_createBelow_size withButton h label
          have h1 : Grows base withButton := hg.made hc (Or.inl hn) nofun nofun
          have h2 : Grows base withLabel :=
            h1.made (content?_createBelow_of_some hc) (Or.inl hn) nofun nofun
          have h3 : Grows base (withLabel.createBelow withButton.size (.text "No File Selected")).2 :=
            h2.made hl (Or.inr h1.size_le) nofun nofun
          exact h3.made (content?_createBelow_of_some (content?_createBelow_of_some hb))
            (Or.inr hg.size_le) nofun nofun
        · exact hg
    · exact hg
  · exact hg

theorem grows_foldl_fillControl {base doc : Document} (hg : Grows base doc) (nodes : List Handle) :
    Grows base (nodes.foldl fillControl doc) := by
  induction nodes generalizing doc with
  | nil => exact hg
  | cons h rest ih => exact ih (grows_fillControl hg h)

/-- A document grows when a node comes onto the page. -/
theorem grows_enter {base doc : Document} (hg : Grows base doc) (h : Handle) :
    Grows base (doc.enter h) :=
  grows_foldl_fillControl (hg.alike (alike_markLive doc h true)) _

/-! ## Growing and relinking do not disturb each other -/

/-- Alike documents stay alike when a parent is set in both. -/
theorem Alike.setParent {a b : Document} (h : a.Alike b) {x : Handle} (hx : x < a.size)
    (parent : Option Handle) : (a.setParent x parent).Alike (b.setParent x parent) where
  content y := by simp [h.content]
  parent y := by
    have hb : x < b.size := by rwa [h.size]
    rw [parent?_setParent hb, parent?_setParent hx, h.parent]
  children y := by simp [h.children]

theorem Alike.dropChild {a b : Document} (h : a.Alike b) (p c : Handle) :
    (a.dropChild p c).Alike (b.dropChild p c) where
  content y := by simp [h.content]
  parent y := by simp [h.parent]
  children y := by rw [children_dropChild, children_dropChild, h.children]

/-- Growth goes through when a parent is set in both documents. -/
theorem Grows.setParent {base b : Document} (h : Grows base b) {x : Handle} (hx : x < base.size)
    (parent : Option Handle) : Grows (base.setParent x parent) (b.setParent x parent) := by
  induction h with
  | refl => exact .refl
  | alike hg ha ih => exact ih.alike (ha.setParent (Nat.lt_of_lt_of_le hx hg.size_le) parent)
  | @made b p name attributes content hg hp hin hd hf ih =>
    have hxs : x < b.size := Nat.lt_of_lt_of_le hx hg.size_le
    have hps : p < b.size := (lt_size_iff b p).mpr ⟨_, hp⟩
    have hstep : Grows (base.setParent x parent)
        ((b.setParent x parent).createBelow p content).2 :=
      ih.made ((content?_setParent _ _ _ _).trans hp) (by simpa using hin) hd hf
    apply hstep.alike
    refine ⟨fun y => ?_, fun y => ?_, fun y => ?_⟩
    · simp [content?_createBelow]
    · have hxs' : x < (b.createBelow p content).2.size := by
        rw [size_createBelow]
        exact Nat.lt_succ_of_lt hxs
      rw [parent?_setParent hxs', parent?_createBelow, parent?_createBelow, size_setParent,
        parent?_setParent hxs]
      by_cases hy : y = b.size
      · simp [hy, Nat.ne_of_lt hxs]
      · simp [hy]
    · rw [children_setParent, children_createBelow _ _ hps, children_createBelow _ _ (by simpa),
        size_setParent, children_setParent]

theorem Grows.dropChild {base b : Document} (h : Grows base b) (q : Handle) {c : Handle}
    (hc : c < base.size) : Grows (base.dropChild q c) (b.dropChild q c) := by
  induction h with
  | refl => exact .refl
  | alike _ ha ih => exact ih.alike (ha.dropChild q c)
  | @made b p name attributes content hg hp hin hd hf ih =>
    have hcs : b.size ≠ c := (Nat.ne_of_lt (Nat.lt_of_lt_of_le hc hg.size_le)).symm
    have hps : p < b.size := (lt_size_iff b p).mpr ⟨_, hp⟩
    have hstep : Grows (base.dropChild q c) ((b.dropChild q c).createBelow p content).2 :=
      ih.made ((content?_dropChild _ _ _ _).trans hp) (by simpa using hin) hd hf
    apply hstep.alike
    refine ⟨fun y => ?_, fun y => ?_, fun y => ?_⟩
    · simp [content?_createBelow]
    · simp [parent?_createBelow]
    · rw [children_dropChild, children_createBelow _ _ hps, children_createBelow _ _ (by simpa),
        size_dropChild, children_dropChild]
      by_cases hq : q = y <;> by_cases hy : p = y <;> simp [hq, hy, hcs]

end PageHost.Document
