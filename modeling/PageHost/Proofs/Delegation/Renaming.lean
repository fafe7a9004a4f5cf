import Mathlib.Data.List.Nodup
import PageHost.Proofs.Bindings.Renaming
import PageHost.Proofs.Delegation.Commute
/-!
# Registrations under a renaming of the ids

Two tables of registrations mirror each other along a renaming if an id and its image have
the same interests. The registrations of an id come off the events in any order, so an id
and its image leave the same root counts and the same root listeners, and events are then
reported alike, with the image of the id.
-/

namespace PageHost

namespace Delegation

/-! ## What an id owes -/

/-- The registrations of an id are those of its entries. -/
theorem mem_owed_iff {interests : Keyed (NodeId × String) Interest}
    (hd : Keyed.Distinct interests) (id : NodeId) (name : String) (units : Nat) :
    (name, units) ∈ owed interests id ↔
      ∃ interest, Keyed.get? interests (id, name) = some interest ∧ interest.count = units := by
  unfold owed
  rw [List.mem_map]
  constructor
  · rintro ⟨⟨⟨owner, event⟩, interest⟩, hm, he⟩
    obtain ⟨hentry, ho⟩ := List.mem_filter.mp hm
    have howner : owner = id := of_decide_eq_true ho
    cases he
    subst howner
    exact ⟨interest, (Keyed.get?_eq_some_iff hd _ _).mpr hentry, rfl⟩
  · rintro ⟨interest, hg, rfl⟩
    refine ⟨((id, name), interest), ?_, rfl⟩
    exact List.mem_filter.mpr ⟨Keyed.mem_of_get? hg, decide_eq_true rfl⟩

/-- An id owes each event once. -/
theorem nodup_owed {interests : Keyed (NodeId × String) Interest}
    (hd : Keyed.Distinct interests) (id : NodeId) : (owed interests id).Nodup := by
  have hkeys := Keyed.distinct_filter hd fun entry => decide (entry.1.1 = id)
  have hnames := List.Nodup.map_on (f := Prod.snd) (fun a ha b hb he => by
    obtain ⟨_, hm, rfl⟩ := List.mem_map.mp ha
    obtain ⟨_, hm', rfl⟩ := List.mem_map.mp hb
    have howner := of_decide_eq_true (List.mem_filter.mp hm).2
    have howner' := of_decide_eq_true (List.mem_filter.mp hm').2
    exact Prod.ext (howner.trans howner'.symm) he) hkeys
  apply List.Nodup.of_map Prod.fst
  rw [List.map_map] at hnames
  unfold owed
  rw [List.map_map]
  exact hnames

/-! ## Mirrored registrations -/

/-- An id and its image have the same interests, and the page listens for the same events. -/
structure Mirrors (s : NodeId → NodeId) (d image : Delegation) : Prop where
  interest? : ∀ id name, image.interest? (s id) name = d.interest? id name
  onto : ∀ id name interest, image.interest? id name = some interest →
    ∃ original, s original = id
  rootCounts : image.rootCounts = d.rootCounts

/-- No registrations mirror each other. -/
theorem mirrors_empty (s : NodeId → NodeId) : Mirrors s empty empty :=
  ⟨fun _ _ => rfl, nofun, rfl⟩

/-- The same call about the image of an id. -/
def Revocation.rename (s : NodeId → NodeId) : Revocation → Revocation
  | .all id => .all (s id)
  | .one id name => .one (s id) name

namespace Mirrors

variable {s : NodeId → NodeId} {d image : Delegation}

/-- Images of registrations are counted alike. -/
theorem interestCount (h : Mirrors s d image) (id : NodeId) (name : String) :
    image.interestCount (s id) name = d.interestCount id name := by
  unfold Delegation.interestCount
  rw [h.interest?]

/-- The image listens for an id exactly when the id is listened for. -/
theorem isListening (h : Mirrors s d image) (id : NodeId) (name : String) :
    image.isListening (s id) name = d.isListening id name :=
  congrArg Option.isSome (h.interest? id name)

/-- The image has the same handlers. -/
theorem handler? (h : Mirrors s d image) (id : NodeId) (name : String) :
    image.handler? (s id) name = d.handler? id name :=
  congrArg (Option.map _) (h.interest? id name)

/-- An id and its image owe the same, in some order. -/
theorem owed_perm (h : Mirrors s d image) (hd : d.Proper) (hi : image.Proper) (id : NodeId) :
    (owed image.interests (s id)).Perm (owed d.interests id) := by
  rw [List.perm_ext_iff_of_nodup (nodup_owed hi.distinct _) (nodup_owed hd.distinct _)]
  rintro ⟨name, units⟩
  rw [mem_owed_iff hi.distinct, mem_owed_iff hd.distinct]
  have hview : Keyed.get? image.interests (s id, name) = Keyed.get? d.interests (id, name) :=
    h.interest? id name
  rw [hview]

section Changes

variable (hs : Function.Injective s)
include hs

/-- Registering an id and its image keeps the tables mirrored and does the same to the document. -/
theorem listen (h : Mirrors s d image) (doc : Document) (id : NodeId) (name : String)
    (handler : Payload) :
    Mirrors s (d.listen doc id name handler).2.1 (image.listen doc (s id) name handler).2.1 ∧
      (image.listen doc (s id) name handler).2.2 = (d.listen doc id name handler).2.2 := by
  have hcount : image.rootCount name = d.rootCount name := by
    unfold rootCount
    rw [h.rootCounts]
  have hcounts : (image.listen doc (s id) name handler).2.1.rootCounts =
        (d.listen doc id name handler).2.1.rootCounts ∧
      (image.listen doc (s id) name handler).2.2 = (d.listen doc id name handler).2.2 := by
    unfold Delegation.listen
    dsimp only
    rw [hcount, h.rootCounts]
    split
    · exact ⟨rfl, rfl⟩
    · exact ⟨rfl, rfl⟩
  refine ⟨⟨fun other event => ?_, fun other event interest hi => ?_, hcounts.1⟩, hcounts.2⟩
  · rw [interest?_listen, interest?_listen, h.interest?, h.interestCount]
    simp only [hs.eq_iff]
  · rw [interest?_listen] at hi
    split at hi
    · rename_i he
      exact ⟨id, he.1.symm⟩
    · exact h.onto other event interest hi

/-- Taking back registrations of an id and of its image keeps the tables mirrored and does the
same to the document. -/
theorem perform (h : Mirrors s d image) (hd : d.Proper) (hi : image.Proper) (doc : Document)
    (call : Revocation) :
    Mirrors s (call.perform d doc).1 ((call.rename s).perform image doc).1 ∧
      ((call.rename s).perform image doc).2 = (call.perform d doc).2 := by
  have hunits : ((call.rename s).units image.interests).Perm (call.units d.interests) := by
    cases call with
    | all id => exact h.owed_perm hd hi id
    | one id name =>
      have hview : Keyed.get? image.interests (s id, name) = Keyed.get? d.interests (id, name) :=
        h.interest? id name
      dsimp only [Revocation.rename, Revocation.units]
      rw [hview]
  have hstate : ((call.rename s).perform image doc).1.rootCounts =
        (call.perform d doc).1.rootCounts ∧
      ((call.rename s).perform image doc).2 = (call.perform d doc).2 := by
    have hsheds := sheds_perm hunits (d.rootCounts, doc)
    rw [Revocation.perform_eq, Revocation.perform_eq, h.rootCounts]
    dsimp only
    rw [hsheds]
    exact ⟨rfl, rfl⟩
  refine ⟨⟨fun other event => ?_, fun other event interest hl => ?_, hstate.1⟩, hstate.2⟩
  · cases call with
    | all id =>
      show (image.forget doc (s id)).2.1.interest? (s other) event =
        (d.forget doc id).2.1.interest? other event
      rw [interest?_forget, interest?_forget, h.interest?]
      simp only [hs.eq_iff]
    | one id name =>
      show (image.unlisten doc (s id) name).2.1.interest? (s other) event =
        (d.unlisten doc id name).2.1.interest? other event
      rw [interest?_unlisten, interest?_unlisten, h.interest?]
      simp only [hs.eq_iff]
  · cases call with
    | all id =>
      replace hl : (image.forget doc (s id)).2.1.interest? other event = some interest := hl
      rw [interest?_forget] at hl
      split at hl
      · cases hl
      · exact h.onto other event interest hl
    | one id name =>
      replace hl : (image.unlisten doc (s id) name).2.1.interest? other event = some interest := hl
      rw [interest?_unlisten] at hl
      split at hl
      · rename_i he
        exact ⟨id, he.1.symm⟩
      · exact h.onto other event interest hl

end Changes

end Mirrors

end Delegation

/-! ## Reports -/

/-- The report with another id. -/
def EventRecord.rename (s : NodeId → NodeId) (report : EventRecord) : EventRecord :=
  { report with target := s report.target }

/-- What an event led to, with another id in the report. -/
def Outcome.rename (s : NodeId → NodeId) (outcome : Outcome) : Outcome :=
  { outcome with record := outcome.record.map (EventRecord.rename s) }

/-- The target of a renamed outcome is the image of the target. -/
theorem Outcome.target_rename (s : NodeId → NodeId) (outcome : Outcome) :
    (outcome.rename s).record.map (·.target) = (outcome.record.map (·.target)).map s := by
  unfold Outcome.rename
  cases outcome.record <;> rfl

namespace Delegation

variable {s : NodeId → NodeId} {d image : Delegation} {table mirrored : Bindings}

/-- Events find the same node on both sides, with the image of its id. -/
theorem resolveTarget_renamed (hb : Bindings.Mirrors s table mirrored) (doc : Document)
    (h : Handle) :
    resolveTarget doc mirrored h = (resolveTarget doc table h).map fun found =>
      (found.1, s found.2) := by
  unfold resolveTarget
  induction h :: doc.ancestors h with
  | nil => rfl
  | cons node rest ih =>
    rw [List.findSome?_cons, List.findSome?_cons, hb.idOf?]
    cases table.idOf? node with
    | none => exact ih
    | some id => rfl

/-- Mirrored tables report an event alike. -/
theorem dispatch_renamed (hb : Bindings.Mirrors s table mirrored) (h : Mirrors s d image)
    (doc : Document) (event : NativeEvent) :
    image.dispatch doc mirrored event = (d.dispatch doc table event).rename s := by
  unfold dispatch
  split
  · rw [resolveTarget_renamed hb]
    cases resolveTarget doc table event.target with
    | none => rfl
    | some found =>
      obtain ⟨target, id⟩ := found
      have hlisteners : ∀ above, (mirrored.idsOf above).any (image.isListening · event.name) =
          (table.idsOf above).any (d.isListening · event.name) := by
        intro above
        rw [hb.idsOf, List.any_map]
        exact congrArg (List.any _) (funext fun other => h.isListening other event.name)
      have hhandler : (mirrored.idsOf target).reverse.findSome? (image.handler? · event.name) =
          (table.idsOf target).reverse.findSome? (d.handler? · event.name) := by
        rw [hb.idsOf, ← List.map_reverse, List.findSome?_map]
        exact congrArg (List.findSome? · _) (funext fun other => h.handler? other event.name)
      dsimp only [Option.map, Outcome.rename, EventRecord.rename]
      simp only [hlisteners, hhandler]
  · rfl

end Delegation

end PageHost
