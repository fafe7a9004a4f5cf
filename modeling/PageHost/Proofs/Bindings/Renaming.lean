import Mathlib.Data.List.Nodup
import PageHost.Proofs.Bindings.Sound
/-!
# Bindings under a renaming of the ids

Two tables mirror each other along a renaming if each node has the renamed ids in the same
order. What the tables answer is compared, not the order in which they hold their entries,
so the ids that are released by a test may come in different orders. Every change by an id
and by its image keeps the tables mirrored, as long as different ids have different images.
-/

namespace PageHost.Bindings

/-- The image names by `s id` what the table names by `id`, and has no other ids. -/
structure Mirrors (s : NodeId → NodeId) (table image : Bindings) : Prop where
  lookup? : ∀ id, image.lookup? (s id) = table.lookup? id
  onto : ∀ id node, image.lookup? id = some node → ∃ original, s original = id
  idsOf : ∀ node, image.idsOf node = (table.idsOf node).map s

/-- Empty tables mirror each other. -/
theorem mirrors_empty (s : NodeId → NodeId) : Mirrors s empty empty :=
  ⟨fun _ => rfl, nofun, fun _ => rfl⟩

namespace Mirrors

variable {s : NodeId → NodeId} {table image : Bindings}

/-! ## Reading -/

/-- The image binds the image of an id exactly when the table binds the id. -/
theorem contains (h : Mirrors s table image) (id : NodeId) :
    image.contains (s id) = table.contains id := congrArg Option.isSome (h.lookup? id)

/-- The most recent id of a node has as its image the most recent id of the node in the image. -/
theorem idOf? (h : Mirrors s table image) (node : Handle) :
    image.idOf? node = (table.idOf? node).map s := by
  unfold Bindings.idOf?
  rw [h.idsOf, List.getLast?_map]

/-! ## Changing -/

section Changes

variable (hs : Function.Injective s)
include hs

/-- Ids that are taken off before and after a renaming. -/
theorem filter_ne_map (ids : List NodeId) (id : NodeId) :
    (ids.map s).filter (fun other => !decide (other = s id)) =
      (ids.filter fun other => !decide (other = id)).map s := by
  rw [List.filter_map]
  congr 2
  funext other
  simp [hs.eq_iff]

theorem assign (h : Mirrors s table image) (id : NodeId) (node : Handle) :
    Mirrors s (table.assign id node) (image.assign (s id) node) where
  lookup? other := by
    rw [lookup?_assign, lookup?_assign, h.lookup?]
    simp only [hs.eq_iff]
  onto other named hl := by
    rw [lookup?_assign] at hl
    split at hl
    · rename_i he
      exact ⟨id, he⟩
    · exact h.onto other named hl
  idsOf other := by
    rw [idsOf_assign, idsOf_assign, h.idsOf, h.idsOf]
    split
    · rw [List.map_append, List.map_singleton]
    · rfl

theorem forgetAlias (h : Mirrors s table image) (node : Handle) (id : NodeId) :
    Mirrors s (table.forgetAlias node id) (image.forgetAlias node (s id)) where
  lookup? other := by
    rw [lookup?_forgetAlias, lookup?_forgetAlias, h.lookup?]
  onto other named hl := by
    rw [lookup?_forgetAlias] at hl
    exact h.onto other named hl
  idsOf other := by
    rw [idsOf_forgetAlias, idsOf_forgetAlias, h.idsOf, h.idsOf, filter_ne_map hs]
    split <;> rfl

theorem unbind (h : Mirrors s table image) (ht : table.Sound) (hi : image.Sound) (id : NodeId) :
    Mirrors s (table.unbind id).2 (image.unbind (s id)).2 where
  lookup? other := by
    rw [lookup?_unbind, lookup?_unbind, h.lookup?]
    simp only [hs.eq_iff]
  onto other named hl := by
    rw [lookup?_unbind] at hl
    split at hl
    · cases hl
    · exact h.onto other named hl
  idsOf node := by
    rw [idsOf_unbind ht, idsOf_unbind hi, h.idsOf, filter_ne_map hs]

end Changes

/-! ## Releasing by a test -/

/-- The ids of the same nodes may be released on both sides. -/
theorem unbindWhere (h : Mirrors s table image) (ht : table.Sound) (hi : image.Sound)
    (test : Handle → Bool) :
    Mirrors s (table.unbindWhere test).2 (image.unbindWhere test).2 where
  lookup? id := by rw [lookup?_unbindWhere ht, lookup?_unbindWhere hi, h.lookup?]
  onto id node hl := by
    rw [lookup?_unbindWhere hi, Option.filter_eq_some_iff] at hl
    exact h.onto id node hl.1
  idsOf node := by
    rw [idsOf_unbindWhere ht, idsOf_unbindWhere hi, h.idsOf]
    split <;> rfl

/-- The released ids are the images of the released ones, in some order. -/
theorem released_perm (hs : Function.Injective s) (h : Mirrors s table image) (ht : table.Sound)
    (hi : image.Sound) (test : Handle → Bool) :
    (image.unbindWhere test).1.Perm ((table.unbindWhere test).1.map s) := by
  have hnodup := List.Nodup.map hs (nodup_unbindWhere ht test)
  rw [List.perm_ext_iff_of_nodup (nodup_unbindWhere hi test) hnodup]
  intro id
  rw [mem_unbindWhere_iff hi, List.mem_map]
  constructor
  · rintro ⟨node, hl, htest⟩
    obtain ⟨original, rfl⟩ := h.onto id node hl
    rw [h.lookup?] at hl
    exact ⟨original, (mem_unbindWhere_iff ht test original).mpr ⟨node, hl, htest⟩, rfl⟩
  · rintro ⟨original, hm, rfl⟩
    rw [h.lookup?]
    exact (mem_unbindWhere_iff ht test original).mp hm

end Mirrors

end PageHost.Bindings
