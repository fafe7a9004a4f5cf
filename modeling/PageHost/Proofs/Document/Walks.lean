import PageHost.Proofs.Document.Shape
/-!
# The two walks of a copy

The first walk copies what the store keeps, the second one carries over what is noted
beside it. Planting the tree of the original does in one walk what the two do one after
the other. The first walk leaves the store that planting leaves. While the second one is
on its way, each fresh node either has the content that planting gives it or is not
noted at all, and a node that has its content keeps it. In the end the second walk has
come to every fresh node, so the nodes are those that planting leaves.
-/

namespace PageHost

/-! ## Tables that are carried over -/

namespace Markers

variable {markers : Markers} {h x source copy : Handle}

/-- Tables that say the same of two nodes mention both or neither. -/
theorem SameAt.mentions_eq {others : Markers} {other : Handle}
    (hs : markers.SameAt h others other) : markers.mentions h = others.mentions other := by
  simp [mentions, Keyed.has, hs.fragment, hs.placeholder, hs.comment]

/-- Only the copy is noted. -/
theorem sameAt_carry_of_ne (hne : x ≠ copy) : (markers.carry source copy).SameAt x markers x where
  fragment := by
    rw [carry]
    split
    · simp [hne]
    · rfl
  placeholder := by
    rw [carry]
    dsimp only
    split
    · simp [hne]
    · rfl
  comment := by
    rw [carry]
    dsimp only
    split
    · rfl
    · rw [Keyed.get?_set, if_neg (Ne.symm hne)]

/-- Of a copy the same is said as of its original once the tables are carried over, if that was
so before or if nothing was said of it. -/
theorem sameAt_carry (hc : markers.SameAt copy markers source ∨ markers.mentions copy = false) :
    (markers.carry source copy).SameAt copy markers source where
  fragment := by
    rw [carry]
    split
    · rename_i hs
      exact iff_of_true List.mem_insert_self hs
    · rename_i hs
      refine iff_of_false (fun hm => ?_) hs
      rcases hc with hc | hc
      · exact hs (hc.fragment.mp hm)
      · exact (mentions_eq_false_iff.mp hc).1 hm
  placeholder := by
    rw [carry]
    dsimp only
    split
    · rename_i hs
      exact iff_of_true List.mem_insert_self hs
    · rename_i hs
      refine iff_of_false (fun hm => ?_) hs
      rcases hc with hc | hc
      · exact hs (hc.placeholder.mp hm)
      · exact (mentions_eq_false_iff.mp hc).2.1 hm
  comment := by
    rw [carry]
    dsimp only
    split
    · rename_i hs
      rcases hc with hc | hc
      · exact hc.comment
      · rw [hs, (mentions_eq_false_iff.mp hc).2.2]
    · rename_i data hs
      rw [Keyed.get?_set, if_pos rfl, hs]

end Markers

/-! ## The height of a tree -/

namespace Tree

mutual

/-- The number of levels of a tree. -/
def height : Tree → Nat
  | .node _ children => heightAll children + 1

/-- The number of levels of the highest of several trees. -/
def heightAll : List Tree → Nat
  | [] => 0
  | t :: rest => max (height t) (heightAll rest)

end

/-- Trees of bounded height are bounded together. -/
theorem heightAll_le {trees : List Tree} {depth : Nat} (h : ∀ t ∈ trees, t.height ≤ depth) :
    heightAll trees ≤ depth := by
  induction trees with
  | nil => exact Nat.zero_le depth
  | cons t rest ih =>
    obtain ⟨ht, hrest⟩ := List.forall_mem_cons.mp h
    exact Nat.max_le.mpr ⟨ht, ih hrest⟩

end Tree

namespace Document

/-- A tree that is read to a depth has no more levels. -/
theorem height_le_of_treeWithin {doc : Document} {depth : Nat} {h : Handle} {t : Tree}
    (ht : doc.treeWithin depth h = some t) : t.height ≤ depth := by
  induction depth generalizing h t with
  | zero => cases ht
  | succ depth ih =>
    rw [treeWithin] at ht
    cases hn : doc.node? h with
    | none =>
      rw [hn] at ht
      cases ht
    | some node =>
      rw [hn] at ht
      cases ht
      refine Nat.succ_le_succ (Tree.heightAll_le fun t hm => ?_)
      obtain ⟨c, -, hc⟩ := List.mem_filterMap.mp hm
      exact ih hc

/-! ## The first walk -/

/-- What the store keeps of a node is determined by the node. -/
theorem record?_eq (doc : Document) (x : Handle) :
    doc.nodes.records[x]? = (doc.node? x).map fun node => ⟨node.content.data, node.place⟩ := by
  rw [node?]
  cases hr : doc.nodes.records[x]? with
  | none => rfl
  | some record =>
    rw [Option.map_some, Option.map_some, doc.nodes.data_content x hr]

variable {doc : Document}

/-- Nodes that are the same have the same record. -/
theorem record?_of_node?_eq {a b : Document} {x : Handle} (h : b.node? x = a.node? x) :
    b.nodes.records[x]? = a.nodes.records[x]? := by
  rw [record?_eq, record?_eq, h]

theorem data?_of_node?_eq {a b : Document} {x : Handle} (h : b.node? x = a.node? x) :
    b.nodes.data? x = a.nodes.data? x := congrArg (Option.map Record.data) (record?_of_node?_eq h)

/-- The tables tell the content of a node from what the store keeps of it. -/
theorem content_data_of_node? {doc : Document} {x : Handle} {node : Node}
    (hn : doc.node? x = some node) :
    doc.nodes.markers.content x node.content.data = node.content := by
  rw [node?] at hn
  obtain ⟨record, hr, rfl⟩ := Option.map_eq_some_iff.mp hn
  exact congrArg (doc.nodes.markers.content x) (doc.nodes.data_content x hr)

/-- A node at which a tree stands, as the store has it. -/
theorem Shows.record? {h : Handle} {content : Content} {children : List Tree}
    (hs : doc.Shows h (.node content children)) :
    ∃ place, doc.nodes.records[h]? = some ⟨content.data, place⟩ ∧ doc.children h = place.children := by
  obtain ⟨node, hn, rfl⟩ := Option.map_eq_some_iff.mp hs.1
  refine ⟨node.place, ?_, by rw [Document.children, hn]⟩
  rw [record?_eq, hn]
  rfl

/-- The store keeps the same of two nodes at which one tree stands. -/
theorem Shows.data?_eq {x y : Handle} {t : Tree} (hx : doc.Shows x t) (hy : doc.Shows y t) :
    doc.nodes.data? x = doc.nodes.data? y := by
  obtain ⟨content, children⟩ := t
  obtain ⟨place, hx, -⟩ := hx.record?
  obtain ⟨place', hy, -⟩ := hy.record?
  rw [Nodes.data?, Nodes.data?, hx, hy]
  rfl

/-- The records after an update depend on the records before it only. -/
theorem records_update {a b : Document} (hr : a.nodes.records = b.nodes.records) (x : Handle)
    (f : Place → Place) : (a.update x f).nodes.records = (b.update x f).nodes.records := by
  have hwrite : ∀ doc : Document, (doc.update x f).nodes.records =
      doc.nodes.records.modify x fun record => { record with place := f record.place } :=
    fun _ => rfl
  rw [hwrite, hwrite, hr]

mutual

/-- The first walk from a node leaves the store that planting its tree leaves. -/
theorem copyWithin_plant {a b : Document} {depth : Nat} (parent : Option Handle) {h : Handle}
    (hrecords : a.nodes.records = b.nodes.records)
    (hold : ∀ x, x < doc.size → b.node? x = doc.node? x) :
    (t : Tree) → doc.Shows h t → t.height ≤ depth →
      ∃ copied, copyWithin depth parent a h = some ((b.plant parent t).1, copied) ∧
        copied.nodes.records = (b.plant parent t).2.nodes.records ∧
        copied.nodes.markers = a.nodes.markers
  | .node content children, hs, hd => by
    obtain ⟨depth, rfl⟩ : ∃ less, depth = less + 1 := Nat.exists_eq_add_of_le' (by
      rw [Tree.height] at hd
      omega)
    obtain ⟨place, hrecord, hchildren⟩ := hs.record?
    have hread : a.nodes.records[h]? = some ⟨content.data, place⟩ := by
      rw [hrecords, record?_of_node?_eq (hold h (shows_lt_size hs)), hrecord]
    have hsize : a.size = b.size := congrArg Array.size hrecords
    have hpushed : (a.pushRecord ⟨content.data, parent, [], false⟩).nodes.records =
        (b.push ⟨content, parent, [], false⟩).nodes.records := by
      rw [push, mark, Nodes.records_mark]
      exact congrArg (Array.push · _) hrecords
    have hold' : ∀ x, x < doc.size →
        (b.push ⟨content, parent, [], false⟩).node? x = doc.node? x := by
      intro x hx
      have hlt : x < b.size := by
        apply Nat.lt_of_not_le
        rw [← node?_eq_none_iff, hold x hx, node?_eq_none_iff]
        exact Nat.not_le.mpr hx
      rw [node?_push, if_neg (Nat.ne_of_lt hlt), hold x hx]
    have hall : doc.ShowsAll place.children children := hchildren ▸ hs.2
    obtain ⟨copied, hrun, hcopied, hmarkers⟩ :=
      copyEach_plantAll b.size hpushed hold' children hall (Nat.le_of_succ_le_succ hd)
    rw [copyWithin, hread]
    dsimp only
    rw [hsize, hrun]
    let below := ((b.push ⟨content, parent, [], false⟩).plantAll b.size children).1
    refine ⟨copied.update b.size fun place => { place with children := below }, rfl, ?_, hmarkers⟩
    exact records_update hcopied b.size fun place => { place with children := below }

/-- The same for nodes that are copied one after the other. -/
theorem copyEach_plantAll {a b : Document} {depth : Nat} (top : Handle) {nodes : List Handle}
    (hrecords : a.nodes.records = b.nodes.records)
    (hold : ∀ x, x < doc.size → b.node? x = doc.node? x) :
    (trees : List Tree) → doc.ShowsAll nodes trees → Tree.heightAll trees ≤ depth →
      ∃ copied, copyEach (copyWithin depth (some top)) a nodes = ((b.plantAll top trees).1, copied) ∧
        copied.nodes.records = (b.plantAll top trees).2.nodes.records ∧
        copied.nodes.markers = a.nodes.markers
  | [], hall, _ => by
    cases nodes with
    | nil => exact ⟨a, rfl, hrecords, rfl⟩
    | cons x rest => exact hall.elim
  | t :: trees, hall, hd => by
    cases nodes with
    | nil => exact hall.elim
    | cons x rest =>
      obtain ⟨hd, hd'⟩ := Nat.max_le.mp hd
      obtain ⟨first, hrun, hfirst, hmarkers⟩ :=
        copyWithin_plant (some top) hrecords hold t hall.1 hd
      have hframe := (sprouts_plant b (some top) t).frame
      have hold' : ∀ x, x < doc.size → (b.plant (some top) t).2.node? x = doc.node? x := by
        intro x hx
        have hlt : x < b.size := by
          apply Nat.lt_of_not_le
          rw [← node?_eq_none_iff, hold x hx, node?_eq_none_iff]
          exact Nat.not_le.mpr hx
        rw [hframe x hlt, hold x hx]
      obtain ⟨copied, hrest, hcopied, hmarkers'⟩ :=
        copyEach_plantAll top hfirst hold' trees hall.2 hd'
      rw [copyEach, hrun]
      dsimp only
      rw [hrest]
      exact ⟨copied, rfl, hcopied, hmarkers'.trans hmarkers⟩

end

/-! ## Pairs of nodes -/

/-- The nodes to which the same child positions lead from `source` and from `copy`. -/
inductive Paired (doc : Document) (source copy : Handle) : Handle → Handle → Prop where
  | here : Paired doc source copy source copy
  | child {s c s' c' : Handle} {i : Nat} : Paired doc source copy s c →
      (doc.children s)[i]? = some s' → (doc.children c)[i]? = some c' →
      Paired doc source copy s' c'

variable {source copy s s' c c' : Handle}

/-- Paths from source and copy can be prolonged in step. -/
theorem Paired.trans {b : Document} (h : b.Paired source copy s c) (h' : b.Paired s c s' c') :
    b.Paired source copy s' c' := by
  induction h' with
  | here => exact h
  | child _ hs hc ih => exact ih.child hs hc

/-- Pairs depend on the child lists only. -/
theorem Paired.congr {a b : Document} (h : a.Paired source copy s c)
    (hc : ∀ x, b.children x = a.children x) : b.Paired source copy s c := by
  induction h with
  | here => exact .here
  | child _ hs hc' ih => exact ih.child ((hc _).symm ▸ hs) ((hc _).symm ▸ hc')

/-- A pair is the first one or comes from a pair of children. -/
theorem Paired.cases_first {b : Document} (h : b.Paired source copy s c) :
    (s = source ∧ c = copy) ∨ ∃ (i : Nat) (s' c' : Handle), (b.children source)[i]? = some s' ∧
      (b.children copy)[i]? = some c' ∧ b.Paired s' c' s c := by
  induction h with
  | here => exact Or.inl ⟨rfl, rfl⟩
  | child _ hs hc ih =>
    rcases ih with ⟨rfl, rfl⟩ | ⟨i, s', c', hs', hc', hp⟩
    · exact Or.inr ⟨_, _, _, hs, hc, .here⟩
    · exact Or.inr ⟨i, s', c', hs', hc', hp.child hs hc⟩

/-- The source of a pair is below the source of the copy. -/
theorem Paired.below_source {b : Document} (h : b.Paired source copy s c) : b.Below source s := by
  induction h with
  | here => exact .here
  | child _ hs _ ih => exact ih.child (List.mem_of_getElem? hs)

/-- The copy of a pair is below the copy. -/
theorem Paired.below_copy {b : Document} (h : b.Paired source copy s c) : b.Below copy c := by
  induction h with
  | here => exact .here
  | child _ _ hc ih => exact ih.child (List.mem_of_getElem? hc)

/-- Where a tree stands at both nodes, one stands at both nodes of each pair. -/
theorem Paired.shows {b : Document} {t : Tree} (h : b.Paired source copy s c)
    (hs : b.Shows source t) (hc : b.Shows copy t) : ∃ t', b.Shows s t' ∧ b.Shows c t' := by
  induction h with
  | here => exact ⟨t, hs, hc⟩
  | child _ hi hi' ih =>
    obtain ⟨⟨content, children⟩, hs, hc⟩ := ih
    obtain ⟨t', ht', hs'⟩ := hs.2.getElem? hi
    obtain ⟨t'', ht'', hc'⟩ := hc.2.getElem? hi'
    rw [ht'] at ht''
    cases ht''
    exact ⟨t', hs', hc'⟩

/-- Where a tree stands at both nodes, all that is below the second one is in a pair. -/
theorem exists_paired {b : Document} {t : Tree} (hs : b.Shows source t) (hc : b.Shows copy t)
    (h : b.Below copy c) : ∃ s, b.Paired source copy s c := by
  induction h with
  | here => exact ⟨source, .here⟩
  | child _ hm ih =>
    obtain ⟨s, hp⟩ := ih
    obtain ⟨⟨content, children⟩, hs', hc'⟩ := hp.shows hs hc
    obtain ⟨i, hi⟩ := List.mem_iff_getElem?.mp hm
    have hlt := (List.getElem?_eq_some_iff.mp hi).1
    rw [hc'.2.length_eq, ← hs'.2.length_eq] at hlt
    exact ⟨_, hp.child (List.getElem?_eq_getElem hlt) hi⟩

/-- Below a node that stands nowhere each node is in one pair only. -/
theorem Paired.unique {b : Document} (ht : b.Treelike) (hcopy : b.parent? copy = none)
    (h : b.Paired source copy s c) (h' : b.Paired source copy s' c) : s = s' := by
  have hloose : ∀ p, copy ∉ b.children p := by
    intro p hm
    rw [ht.parent_of_mem p copy hm] at hcopy
    cases hcopy
  induction h generalizing s' with
  | here =>
    cases h' with
    | here => rfl
    | child _ _ hc => exact absurd (List.mem_of_getElem? hc) (hloose _)
  | @child s c _ c' i _ hs hc ih =>
    cases h' with
    | here => exact absurd (List.mem_of_getElem? hc) (hloose _)
    | @child s₂ c₂ _ _ j h₂ hs₂ hc₂ =>
      have hparent := ht.parent_of_mem c c' (List.mem_of_getElem? hc)
      rw [ht.parent_of_mem c₂ c' (List.mem_of_getElem? hc₂)] at hparent
      cases hparent
      have hlt := (List.getElem?_eq_some_iff.mp hc).1
      have hij : i = j := (List.getElem?_inj hlt (ht.nodup c)).mp (hc.trans hc₂.symm)
      subst hij
      cases ih h₂
      exact Option.some.inj (hs.symm.trans hs₂)

/-- The child positions of a path lead to a pair. -/
theorem paired_of_atPath {b : Document} {path : List Nat} (hs : b.atPath source path = some s)
    (hc : b.atPath copy path = some c) : b.Paired source copy s c := by
  induction path generalizing source copy with
  | nil =>
    cases hs
    cases hc
    exact .here
  | cons i rest ih =>
    rw [atPath] at hs hc
    obtain ⟨s', hs', hs⟩ := Option.bind_eq_some_iff.mp hs
    obtain ⟨c', hc', hc⟩ := Option.bind_eq_some_iff.mp hc
    exact (Paired.here.child hs' hc').trans (ih hs hc)

/-! ## The second walk -/

/-- A node is made of its record and of what the tables say of it. -/
theorem node?_eq_of_record? {a b : Document} {x : Handle}
    (hr : a.nodes.records[x]? = b.nodes.records[x]?)
    (hs : a.nodes.markers.SameAt x b.nodes.markers x) : a.node? x = b.node? x := by
  rw [node?, node?, hr]
  exact congrArg (Option.map · _) (funext fun record =>
    congrArg (Node.mk · record.place) (hs.content_eq record.data))

/-- The child lists are in the records. -/
theorem children_of_records {a b : Document} (hr : a.nodes.records = b.nodes.records) (x : Handle) :
    a.children x = b.children x :=
  children_of_place?_eq (by rw [place?, place?, hr])

/-- Carrying markers over leaves the records as they are. -/
@[simp] theorem records_carryMarkers (doc : Document) (source copy : Handle) :
    (doc.carryMarkers source copy).nodes.records = doc.nodes.records := by
  unfold carryMarkers Nodes.carry
  split <;> rfl

/-- The tables after the second walk to a depth, when nothing is asked about what the store keeps of
a copy and its original. -/
def carryBelow (children : Handle → List Handle) : Nat → Markers → Handle → Handle → Markers
  | 0, markers, _, _ => markers
  | depth + 1, markers, source, copy =>
    ((children source).zip (children copy)).foldl
      (fun markers pair => carryBelow children depth markers pair.1 pair.2)
      (markers.carry source copy)

/-- The tables of `a` say of a copy what those of `doc` say of its original. -/
abbrev Carried (doc a : Document) (source copy : Handle) : Prop :=
  a.nodes.markers.SameAt copy doc.nodes.markers source

/-- `a` is on the second walk from `original` and `copy`: it has the store of the finished `b`, and
of each node to which the walk comes the tables say all or nothing. -/
structure Halfway (doc b : Document) (original copy : Handle) (a : Document) : Prop where
  records : a.nodes.records = b.nodes.records
  /-- Of the old nodes the tables say what they said. -/
  old : ∀ x, x < doc.size → doc.Carried a x x
  fresh : ∀ s c, b.Paired original copy s c →
    doc.Carried a s c ∨ a.nodes.markers.mentions c = false

/-- A step of the second walk: what has been carried over stays so. -/
structure Advancing (doc b : Document) (original copy : Handle) (a a' : Document) : Prop where
  halfway : Halfway doc b original copy a'
  keeps : ∀ s c, b.Paired original copy s c → doc.Carried a s c → doc.Carried a' s c

/-- What the second walk relies on: its pairs lead from old nodes to fresh ones with the same
data, and no fresh node is in two of them. -/
structure Lockstep (doc b : Document) (original copy : Handle) : Prop where
  old : ∀ s c, b.Paired original copy s c → s < doc.size
  fresh : ∀ s c, b.Paired original copy s c → doc.size ≤ c
  same : ∀ s c, b.Paired original copy s c → b.nodes.data? c = b.nodes.data? s
  unique : ∀ s s' c, b.Paired original copy s c → b.Paired original copy s' c → s = s'

/-- A copy of which the tables of `a` say what those of `doc` say of its original is the node
that stands there in `made`, where the tree of the original stands at both. -/
theorem Carried.node?_eq {doc a made : Document} {t : Tree} (hc : doc.Carried a s c)
    (hr : a.nodes.records = made.nodes.records) (hold : made.node? s = doc.node? s)
    (hs : made.Shows s t) (ht : made.Shows c t) : a.node? c = made.node? c := by
  obtain ⟨content, children⟩ := t
  obtain ⟨place, hrecord, -⟩ := ht.record?
  obtain ⟨original, ho, rfl⟩ := Option.map_eq_some_iff.mp hs.1
  obtain ⟨copied, hm, hcontent⟩ := Option.map_eq_some_iff.mp ht.1
  have hplace : place = copied.place := by
    rw [record?_eq, hm] at hrecord
    exact (congrArg Record.place (Option.some.inj hrecord)).symm
  rw [node?, hr, hrecord, Option.map_some, hm, hc.content_eq, hplace,
    content_data_of_node? (hold.symm.trans ho), ← hcontent]

variable {b : Document} {original : Handle}

/-- Two advances of the second walk are one. -/
theorem Advancing.trans {a a' a'' : Document} (h : Advancing doc b original copy a a')
    (h' : Advancing doc b original copy a' a'') : Advancing doc b original copy a a'' :=
  ⟨h'.halfway, fun s c hp hc => h'.keeps s c hp (h.keeps s c hp hc)⟩

/-- The store keeps the same data of both nodes of a pair, so the tables are carried over. -/
theorem Halfway.markers_carryMarkers {a : Document} (h : Halfway doc b original copy a)
    (hl : Lockstep doc b original copy) (hp : b.Paired original copy s c) :
    (a.carryMarkers s c).nodes.markers = a.nodes.markers.carry s c := by
  have hdata : a.nodes.data? c = a.nodes.data? s := by
    rw [Nodes.data?, Nodes.data?, h.records]
    exact hl.same s c hp
  rw [Document.carryMarkers, Nodes.carry, dif_pos hdata]

/-- Carrying over the tables for one pair. -/
theorem Halfway.carryMarkers {a : Document} (h : Halfway doc b original copy a)
    (hl : Lockstep doc b original copy) (hp : b.Paired original copy s c) :
    Advancing doc b original copy a (a.carryMarkers s c) ∧
      doc.Carried (a.carryMarkers s c) s c := by
  have hmarkers := h.markers_carryMarkers hl hp
  have hold := h.old s (hl.old s c hp)
  have hstate : a.nodes.markers.SameAt c a.nodes.markers s ∨ a.nodes.markers.mentions c = false :=
    (h.fresh s c hp).imp_left fun hc => hc.trans hold.symm
  have hdone : doc.Carried (a.carryMarkers s c) s c := by
    rw [Carried, hmarkers]
    exact (Markers.sameAt_carry hstate).trans hold
  have hsame : ∀ x, x ≠ c → (a.carryMarkers s c).nodes.markers.SameAt x a.nodes.markers x := by
    intro x hx
    rw [hmarkers]
    exact Markers.sameAt_carry_of_ne hx
  refine ⟨⟨⟨(records_carryMarkers a s c).trans h.records, fun x hx => ?_, fun s' c' hp' => ?_⟩,
    fun s' c' hp' hc' => ?_⟩, hdone⟩
  · have hlt := Nat.lt_of_lt_of_le hx (hl.fresh s c hp)
    exact (hsame x (Nat.ne_of_lt hlt)).trans (h.old x hx)
  · by_cases hc : c' = c
    · subst hc
      exact Or.inl (hl.unique s s' c' hp hp' ▸ hdone)
    · rw [(hsame c' hc).mentions_eq]
      exact (h.fresh s' c' hp').imp_left (hsame c' hc).trans
  · by_cases hc : c' = c
    · subst hc
      exact hl.unique s s' c' hp hp' ▸ hdone
    · exact (hsame c' hc).trans hc'

mutual

/-- The second walk from a pair at which one tree stands carries over the tables for all pairs
that it leads to. -/
theorem Halfway.walk {a : Document} (h : Halfway doc b original copy a)
    (hl : Lockstep doc b original copy) {depth : Nat} {s c : Handle}
    (hp : b.Paired original copy s c) :
    (t : Tree) → b.Shows s t → b.Shows c t → t.height ≤ depth →
      Advancing doc b original copy a (copyMarkers depth a s c) ∧
        (copyMarkers depth a s c).nodes.markers =
          carryBelow b.children depth a.nodes.markers s c ∧
        ∀ s' c', b.Paired s c s' c' → doc.Carried (copyMarkers depth a s c) s' c'
  | .node content children, hs, hc, hd => by
    obtain ⟨depth, rfl⟩ : ∃ less, depth = less + 1 := Nat.exists_eq_add_of_le' (by
      rw [Tree.height] at hd
      omega)
    obtain ⟨htop, hdone⟩ := h.carryMarkers hl hp
    obtain ⟨hbelow, htables, hall⟩ := htop.halfway.walkEach hl
      (fun _ _ _ hi hi' => hp.child hi hi') children hs.2 hc.2 (Nat.le_of_succ_le_succ hd)
    rw [h.markers_carryMarkers hl hp] at htables
    rw [copyMarkers, children_of_records h.records, children_of_records h.records]
    refine ⟨htop.trans hbelow, htables, fun s' c' hpaired => ?_⟩
    rcases hpaired.cases_first with ⟨rfl, rfl⟩ | ⟨i, x, y, hx, hy, hrest⟩
    · exact hbelow.keeps _ _ hp hdone
    · exact hall i x y hx hy s' c' hrest

/-- The same for lists of nodes whose pairs are taken one after the other. -/
theorem Halfway.walkEach {a : Document} (h : Halfway doc b original copy a)
    (hl : Lockstep doc b original copy) {depth : Nat} {sources copies : List Handle}
    (hp : ∀ (i : Nat) s c, sources[i]? = some s → copies[i]? = some c →
      b.Paired original copy s c) :
    (trees : List Tree) → b.ShowsAll sources trees → b.ShowsAll copies trees →
      Tree.heightAll trees ≤ depth →
      Advancing doc b original copy a ((sources.zip copies).foldl
          (fun doc pair => copyMarkers depth doc pair.1 pair.2) a) ∧
        ((sources.zip copies).foldl
          (fun doc pair => copyMarkers depth doc pair.1 pair.2) a).nodes.markers =
          (sources.zip copies).foldl
            (fun markers pair => carryBelow b.children depth markers pair.1 pair.2)
            a.nodes.markers ∧
        ∀ (i : Nat) s c, sources[i]? = some s → copies[i]? = some c →
          ∀ s' c', b.Paired s c s' c' → doc.Carried ((sources.zip copies).foldl
            (fun doc pair => copyMarkers depth doc pair.1 pair.2) a) s' c'
  | [], hsources, hcopies, _ => by
    cases copies with
    | nil =>
      rw [List.zip_nil_right]
      exact ⟨⟨h, fun _ _ _ hc => hc⟩, rfl, fun _ _ _ _ hc => absurd hc (by simp)⟩
    | cons c rest => exact hcopies.elim
  | t :: trees, hsources, hcopies, hd => by
    cases sources with
    | nil => exact hsources.elim
    | cons source sources =>
      cases copies with
      | nil => exact hcopies.elim
      | cons target copies =>
        obtain ⟨hd, hd'⟩ := Nat.max_le.mp hd
        have htop := hp 0 source target rfl rfl
        obtain ⟨hfirst, htables, hbelow⟩ := h.walk hl htop t hsources.1 hcopies.1 hd
        obtain ⟨hrest, htables', hall⟩ := hfirst.halfway.walkEach hl (fun i => hp (i + 1)) trees
          hsources.2 hcopies.2 hd'
        rw [htables] at htables'
        rw [List.zip_cons_cons, List.foldl_cons, List.foldl_cons]
        refine ⟨hfirst.trans hrest, htables', fun i s c hs hc s' c' hpaired => ?_⟩
        cases i with
        | zero =>
          cases Option.some.inj hs
          cases Option.some.inj hc
          exact hrest.keeps s' c' (htop.trans hpaired) (hbelow s' c' hpaired)
        | succ i => exact hall i s c hs hc s' c' hpaired

end

/-! ## Both walks -/

/-- What is below an old node is old. -/
theorem lt_size_of_below {a b : Document} (ha : a.Treelike)
    (hold : ∀ x, x < a.size → b.node? x = a.node? x) {top x : Handle} (hs : top < a.size)
    (hb : b.Below top x) : x < a.size := by
  induction hb with
  | here => exact hs
  | child _ hc ih =>
    rw [children_of_node?_eq (hold _ ih)] at hc
    exact ha.child_lt_size hc

/-- What is below a fresh top is fresh. -/
theorem Sprouts.size_le_of_below {a b : Document} {tops : List Handle} (h : Sprouts a tops b)
    {top x : Handle} (ht : top ∈ tops) (hb : b.Below top x) : a.size ≤ x := by
  induction hb with
  | here => exact h.fresh _ ht
  | child _ hc ih => exact h.inward _ ih _ hc

/-- All fresh nodes are below the top that is planted. -/
theorem Planted.below {a b : Document} {parent : Option Handle} {top : Handle}
    (h : Planted a parent [top] b) (ha : a.Treelike) {x : Handle} (hle : a.size ≤ x)
    (hlt : x < b.size) : b.Below top x := by
  induction x using h.treelike.rises.induction with
  | _ x ih =>
    by_cases hx : x = top
    · rw [hx]
      exact .here
    · obtain ⟨p, hp, hm⟩ := h.listed x hle hlt (by simpa using hx)
      have hfresh : a.size ≤ p := by
        apply Nat.le_of_not_lt
        intro hold
        rw [children_of_node?_eq (h.frame p hold)] at hm
        exact absurd (ha.child_lt_size hm) (Nat.not_lt.mpr hle)
      exact (ih p hp hfresh (lt_size_of_mem_children hm)).child hm

section Both

variable {made : Document} {h : Handle} {t : Tree}

/-- Between a tree and its planted copy the second walk keeps step. -/
theorem Planted.lockstep (hplanted : Planted doc none [copy] made)
    (hsprouts : Sprouts doc [copy] made) (ht : doc.Treelike) (hshows : doc.Shows h t)
    (hcopy : made.Shows copy t) : Lockstep doc made h copy where
  old _ _ hp := lt_size_of_below ht hplanted.frame (shows_lt_size hshows) hp.below_source
  fresh _ _ hp := hsprouts.size_le_of_below (List.mem_singleton_self _) hp.below_copy
  same s c hp := by
    obtain ⟨t', hs, hc⟩ := hp.shows (hshows.of_frame hplanted.frame) hcopy
    exact hc.data?_eq hs
  unique _ _ _ hp hp' :=
    hp.unique hplanted.treelike (hplanted.fresh _ (List.mem_singleton_self _)).2.2 hp'

/-- The first walk leaves the tables as they were, which say nothing of a fresh node. -/
theorem Lockstep.halfway (hl : Lockstep doc made h copy) {copied : Document}
    (hrecords : copied.nodes.records = made.nodes.records)
    (hmarkers : copied.nodes.markers = doc.nodes.markers) : Halfway doc made h copy copied where
  records := hrecords
  old x _ := by
    rw [Carried, hmarkers]
    exact .rfl
  fresh s c hp := Or.inr (by
    rw [hmarkers]
    exact doc.nodes.mentions_of_size_le c (hl.fresh s c hp))

/-- When the tables have been carried over for every pair, the nodes are those that planting
leaves: each fresh one is in a pair. -/
theorem Halfway.node?_eq {after : Document} (hend : Halfway doc made h copy after)
    (hplanted : Planted doc none [copy] made) (hl : Lockstep doc made h copy) (ht : doc.Treelike)
    (hshows : doc.Shows h t) (hcopy : made.Shows copy t)
    (hcarried : ∀ s c, made.Paired h copy s c → doc.Carried after s c) (x : Handle) :
    after.node? x = made.node? x := by
  have hold := hplanted.frame
  have horiginal := hshows.of_frame hold
  by_cases hx : x < doc.size
  · have hrecord : after.nodes.records[x]? = doc.nodes.records[x]? := by
      rw [hend.records, record?_of_node?_eq (hold x hx)]
    rw [node?_eq_of_record? hrecord (hend.old x hx), hold x hx]
  · by_cases hx' : x < made.size
    · have hbelow := hplanted.below ht (Nat.le_of_not_lt hx) hx'
      obtain ⟨s, hp⟩ := exists_paired horiginal hcopy hbelow
      obtain ⟨t', hs, hc⟩ := hp.shows horiginal hcopy
      exact (hcarried s x hp).node?_eq hend.records (hold s (hl.old s x hp)) hs hc
    · have hle := Nat.le_of_not_lt hx'
      rw [(node?_eq_none_iff made x).mpr hle, node?_eq_none_iff, size, hend.records]
      exact hle

/-- The two walks of a copy do what planting the tree of the original does in one, and of each
copied node the tables say what they say of its original. The second walk never meets a pair of
nodes of which the store keeps different data. -/
theorem exists_deepClone_plant (ht : doc.Treelike) (htree : doc.tree? h = some t) :
    ∃ after, deepClone h doc = .ok (doc.plant none t).1 after ∧
      (∀ x, after.node? x = (doc.plant none t).2.node? x) ∧
      (∀ x, x < doc.size → doc.Carried after x x) ∧
      (∀ s c, after.Paired h (doc.plant none t).1 s c → doc.Carried after s c) ∧
      after.nodes.markers =
        carryBelow after.children doc.size doc.nodes.markers h (doc.plant none t).1 := by
  have hshows := (shows_iff ht h t).mpr htree
  have hheight : t.height ≤ doc.size := height_le_of_treeWithin htree
  have hplanted := planted_plant ht none t (wellKinded_treeWithin ht _ h t htree) nofun
  have hcopy := shows_plant doc none t
  have hl := hplanted.lockstep (sprouts_plant doc none t) ht hshows hcopy
  obtain ⟨copied, hrun, hrecords, hmarkers⟩ :=
    copyWithin_plant none rfl (fun _ _ => rfl) t hshows hheight
  obtain ⟨⟨hend, -⟩, htables, hcarried⟩ := (hl.halfway hrecords hmarkers).walk hl .here t
    (hshows.of_frame hplanted.frame) hcopy hheight
  have hsame := hend.node?_eq hplanted hl ht hshows hcopy hcarried
  have hchildren : (copyMarkers doc.size copied h (doc.plant none t).1).children =
      (doc.plant none t).2.children := funext fun x => children_of_node?_eq (hsame x)
  refine ⟨_, by rw [deepClone, hrun], hsame, hend.old,
    fun s c hp => hcarried s c (hp.congr fun x => (congrFun hchildren x).symm), ?_⟩
  rw [htables, hmarkers, hchildren]

end Both

/-! ## Copies -/

section Same

variable {a b c : Document} (hsame : ∀ x, c.node? x = b.node? x)
include hsame

theorem size_eq_of_node? : c.size = b.size :=
  size_eq_of_content? fun x => content?_of_node?_eq (hsame x)

/-- Whether a document is treelike depends on its nodes only. -/
theorem Treelike.of_node? (h : b.Treelike) : c.Treelike :=
  h.congr (fun x => kind?_of_node?_eq (hsame x)) (fun x => parent?_of_node?_eq (hsame x))
    fun x => children_of_node?_eq (hsame x)

/-- Whether trees were planted depends on the nodes only. -/
theorem Planted.of_node? {parent : Option Handle} {tops : List Handle}
    (h : Planted a parent tops b) : Planted a parent tops c where
  frame x hx := (hsame x).trans (h.frame x hx)
  size_le := (size_eq_of_node? hsame).symm ▸ h.size_le
  treelike := h.treelike.of_node? hsame
  nodup := h.nodup
  fresh x hx := by
    rw [size_eq_of_node? hsame, parent?_of_node?_eq (hsame x)]
    exact h.fresh x hx
  listed x hle hlt hx := by
    rw [size_eq_of_node? hsame] at hlt
    obtain ⟨p, hp, hm⟩ := h.listed x hle hlt hx
    exact ⟨p, (parent?_of_node?_eq (hsame x)).trans hp, children_of_node?_eq (hsame p) ▸ hm⟩

theorem Sprouts.of_node? {tops : List Handle} (h : Sprouts a tops b) : Sprouts a tops c where
  size_le := (size_eq_of_node? hsame).symm ▸ h.size_le
  frame x hx := (hsame x).trans (h.frame x hx)
  fresh := h.fresh
  inward p hp x hx := h.inward p hp x (children_of_node?_eq (hsame p) ▸ hx)

theorem Spares.of_node? {region : Handle → Prop} (h : Spares region a b) : Spares region a c where
  closed :=
    { exist := fun x hx => (size_eq_of_node? hsame).symm ▸ h.closed.exist x hx
      lister := fun p x hm hr => h.closed.lister p x (children_of_node?_eq (hsame p) ▸ hm) hr }
  same x hx := (hsame x).trans (h.same x hx)
  parent x p hp hr := h.parent x p (parent?_of_node?_eq (hsame x) ▸ hp) hr

end Same

/-- A node that does not exist is not copied. -/
theorem deepClone_of_size_le {h : Handle} (hs : doc.size ≤ h) :
    deepClone h doc = .error (.missingNode h) doc := by
  have hnone : doc.nodes.records[h]? = none := Array.getElem?_eq_none_iff.mpr hs
  have hrun : copyWithin doc.size none doc h = none := by
    cases doc.size with
    | zero => rfl
    | succ depth => rw [copyWithin, hnone]
  rw [deepClone, hrun]

/-- A copy is the tree of its original, planted under no parent. -/
theorem deepClone_inv (ht : doc.Treelike) {h copy : Handle} {after : Document}
    (hc : deepClone h doc = .ok copy after) :
    ∃ t, doc.tree? h = some t ∧ copy = (doc.plant none t).1 ∧
      (∀ x, after.node? x = (doc.plant none t).2.node? x) ∧
      (∀ x, x < doc.size → doc.Carried after x x) ∧
      (∀ s c, after.Paired h copy s c → doc.Carried after s c) ∧
      after.nodes.markers = carryBelow after.children doc.size doc.nodes.markers h copy := by
  have hs : h < doc.size := by
    apply Nat.lt_of_not_le
    intro hle
    rw [deepClone_of_size_le hle] at hc
    cases hc
  obtain ⟨t, htree⟩ := tree?_isSome ht hs
  obtain ⟨after', hrun, hsame, htables⟩ := exists_deepClone_plant ht htree
  rw [hrun] at hc
  cases hc
  exact ⟨t, htree, rfl, hsame, htables⟩

variable {h copy : Handle} {after : Document}

/-- A copy is planted without a parent. -/
theorem planted_deepClone (ht : doc.Treelike) (hc : deepClone h doc = .ok copy after) :
    Planted doc none [copy] after := by
  obtain ⟨t, htree, rfl, hsame, -⟩ := deepClone_inv ht hc
  exact (planted_plant ht none t (wellKinded_treeWithin ht _ h t htree) nofun).of_node? hsame

/-- The nodes of a copy are fresh. -/
theorem sprouts_deepClone (ht : doc.Treelike) (hc : deepClone h doc = .ok copy after) :
    Sprouts doc [copy] after := by
  obtain ⟨t, -, rfl, hsame, -⟩ := deepClone_inv ht hc
  exact (sprouts_plant doc none t).of_node? hsame

/-- The tree of the original stands at its copy. -/
theorem shows_deepClone (ht : doc.Treelike) (hc : deepClone h doc = .ok copy after) {t : Tree}
    (htree : doc.tree? h = some t) : after.Shows copy t := by
  obtain ⟨t', htree', rfl, hsame, -⟩ := deepClone_inv ht hc
  rw [htree] at htree'
  cases htree'
  exact (shows_plant doc none t).of_frame fun x _ => hsame x

/-- A node that exists can be copied. -/
theorem exists_deepClone (ht : doc.Treelike) (hs : h < doc.size) :
    ∃ copy after, deepClone h doc = .ok copy after := by
  obtain ⟨t, htree⟩ := tree?_isSome ht hs
  obtain ⟨after, hrun, -⟩ := exists_deepClone_plant ht htree
  exact ⟨_, after, hrun⟩

/-- Copying leaves every region. -/
theorem leaves_deepClone {region : Handle → Prop} (hr : Closed region doc) (ht : doc.Treelike)
    (x : Handle) : Leaves region (deepClone x) doc := by
  unfold Leaves
  cases hc : deepClone x doc with
  | error e after =>
    by_cases hs : x < doc.size
    · obtain ⟨copy, after, hrun⟩ := exists_deepClone ht hs
      rw [hrun] at hc
      cases hc
    · rw [deepClone_of_size_le (Nat.le_of_not_lt hs)] at hc
      cases hc
      exact Spares.refl hr
  | ok copy after =>
    obtain ⟨t, -, -, hsame, -⟩ := deepClone_inv ht hc
    have hnone : ∀ p, (none : Option Handle) = some p → ¬ region p := nofun
    exact (spares_plant hr hnone t).1.of_node? hsame

end Document

end PageHost
