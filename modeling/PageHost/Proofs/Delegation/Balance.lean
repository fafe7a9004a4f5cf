import PageHost.Proofs.Delegation.Shares
/-!
# The balance of registrations

Registrations are counted twice, for each id with an event and for each event,
and the page has a root listener for an event or not. `Balanced` says that the
three agree: the root count of an event is the sum of the counts of its entries,
and the page listens exactly if that sum is positive. Each change is described
by what the entries answer afterwards, and each keeps the balance.
-/

namespace PageHost.Delegation

/-! ## Root counts and root listeners -/

/-- The root counts and the root listeners follow a count of each event. -/
structure Tracks (counts : Keyed String Nat) (doc : Document) (f : String → Nat) : Prop where
  count : ∀ name, Keyed.get? counts name = if f name = 0 then none else some (f name)
  listens : ∀ name, doc.hasRootListener name = true ↔ 0 < f name

/-- After an installation the page listens for that event and for those from before. -/
theorem hasRootListener_install (doc : Document) (name other : String) :
    (doc.installRootListener name).2.hasRootListener other = true ↔
      other = name ∨ doc.hasRootListener other = true := by
  unfold Document.installRootListener
  split
  · rename_i h
    constructor
    · exact Or.inr
    · rintro (rfl | ho)
      · exact h
      · exact ho
  · simp [Document.hasRootListener, or_comm]

/-- After a removal it listens for the others only. -/
theorem hasRootListener_uninstall (doc : Document) (name other : String) :
    (doc.uninstallRootListener name).2.hasRootListener other = true ↔
      other ≠ name ∧ doc.hasRootListener other = true := by
  simp [Document.uninstallRootListener, Document.hasRootListener, and_comm]

/-- The count of a name is the number that it tracks, also when there is no entry. -/
theorem Tracks.getD_eq {counts : Keyed String Nat} {doc : Document} {f : String → Nat}
    (h : Tracks counts doc f) (name : String) : (Keyed.get? counts name).getD 0 = f name := by
  rw [h.count]
  split
  · rename_i hz
    exact hz.symm
  · rfl

/-- Adding a registration to one event. -/
theorem tracks_listen {d : Delegation} {doc : Document} {f : String → Nat}
    (h : Tracks d.rootCounts doc f) (id : NodeId) (name : String) (handler : Payload) :
    Tracks (d.listen doc id name handler).2.1.rootCounts (d.listen doc id name handler).2.2
      fun other => if other = name then f other + 1 else f other := by
  have hroot : d.rootCount name = f name := h.getD_eq name
  have hcount : ∀ other, Keyed.get? (Keyed.set d.rootCounts name (f name + 1)) other =
      if (if other = name then f other + 1 else f other) = 0 then none
      else some (if other = name then f other + 1 else f other) := by
    intro other
    rw [Keyed.get?_set, h.count]
    by_cases ho : other = name
    · simp [ho]
    · simp [ho, Ne.symm ho]
  unfold listen
  rw [hroot]
  dsimp only
  split
  · refine ⟨hcount, fun other => ?_⟩
    dsimp only
    rw [hasRootListener_install, h.listens]
    by_cases ho : other = name
    · simp [ho]
    · simp [ho]
  · refine ⟨hcount, fun other => ?_⟩
    dsimp only
    rw [h.listens]
    by_cases ho : other = name
    · subst ho
      simp only [if_true]
      omega
    · simp [ho]

/-- Taking registrations off one event. -/
theorem tracks_releaseRoot {d : Delegation} {doc : Document} {f : String → Nat}
    (h : Tracks d.rootCounts doc f) (name : String) (units : Nat) :
    Tracks (releaseRoot d doc name units).2.1.rootCounts (releaseRoot d doc name units).2.2
      fun other => if other = name then f other - units else f other := by
  have hroot := h.getD_eq name
  unfold releaseRoot
  cases hg : Keyed.get? d.rootCounts name with
  | none =>
    have hzero : f name = 0 := by
      rw [← hroot, hg]
      rfl
    refine ⟨fun other => ?_, fun other => ?_⟩
    · rw [h.count]
      by_cases ho : other = name
      · simp [ho, hzero]
      · simp [ho]
    · rw [h.listens]
      by_cases ho : other = name
      · simp [ho, hzero]
      · simp [ho]
  | some count =>
    have hcount : f name = count := by
      rw [← hroot, hg]
      rfl
    dsimp only
    split
    · rename_i hle
      have hz : count - units = 0 := by omega
      refine ⟨fun other => ?_, fun other => ?_⟩
      · rw [Keyed.get?_erase, h.count]
        by_cases ho : other = name
        · simp [ho, hcount, hz]
        · simp [ho, Ne.symm ho]
      · rw [hasRootListener_uninstall, h.listens]
        by_cases ho : other = name
        · simp [ho, hcount, hz]
        · simp [ho]
    · rename_i hlt
      have hz : count - units ≠ 0 := by omega
      refine ⟨fun other => ?_, fun other => ?_⟩
      · rw [Keyed.get?_set, h.count]
        by_cases ho : other = name
        · simp [ho, hcount, hz]
        · simp [ho, Ne.symm ho]
      · rw [h.listens]
        by_cases ho : other = name
        · simp only [ho, hcount, if_true]
          omega
        · simp [ho]

/-- Taking registrations off a root count leaves the entries as they are. -/
@[simp] theorem interests_releaseRoot (d : Delegation) (doc : Document) (name : String)
    (units : Nat) : (releaseRoot d doc name units).2.1.interests = d.interests := by
  unfold releaseRoot
  split
  · rfl
  · split <;> rfl

/-- Taking the registrations of entries off their events, one entry after the other. -/
def releaseEntries (d : Delegation) (doc : Document)
    (entries : Keyed (NodeId × String) Interest) : Delegation × Document :=
  entries.foldl (fun state entry => (releaseRoot state.1 state.2 entry.1.2 entry.2.count).2) (d, doc)

theorem interests_releaseEntries (d : Delegation) (doc : Document)
    (entries : Keyed (NodeId × String) Interest) :
    (releaseEntries d doc entries).1.interests = d.interests := by
  induction entries generalizing d doc with
  | nil => rfl
  | cons entry rest ih => exact (ih _ _).trans (interests_releaseRoot _ _ _ _)

/-- The counts go on tracking when entries are taken off: each name loses what the entries of that
name stand for. -/
theorem tracks_releaseEntries {d : Delegation} {doc : Document} {f : String → Nat}
    (h : Tracks d.rootCounts doc f) (entries : Keyed (NodeId × String) Interest) :
    Tracks (releaseEntries d doc entries).1.rootCounts (releaseEntries d doc entries).2
      fun name => f name - total entries name := by
  induction entries generalizing d doc f with
  | nil => exact h
  | cons entry rest ih =>
    have hrest := ih (tracks_releaseRoot h entry.1.2 entry.2.count)
    have hsub : (fun name => f name - total (entry :: rest) name) = fun name =>
        (if name = entry.1.2 then f name - entry.2.count else f name) - total rest name := by
      funext name
      rw [total_cons, share]
      by_cases hn : name = entry.1.2
      · simp [hn, Nat.sub_sub]
      · simp [hn, Ne.symm hn]
    rw [hsub]
    exact hrest

/-- To forget an id is to drop its entries and to take their registrations off the root counts. -/
theorem forget_eq (d : Delegation) (doc : Document) (id : NodeId) :
    (d.forget doc id).2 =
      releaseEntries { d with interests := d.interests.filter fun entry => !decide (entry.1.1 = id) }
        doc (d.interests.filter fun entry => decide (entry.1.1 = id)) := by
  unfold forget releaseEntries
  dsimp only
  generalize (d.interests.filter fun entry => decide (entry.1.1 = id)) = doomed
  generalize 0 = released
  generalize ({ d with interests := _ } : Delegation) = kept
  induction doomed generalizing released kept doc with
  | nil => rfl
  | cons entry rest ih => exact ih _ _ _

/-! ## Entries after a change -/

/-- A registration is entered with the handler, counted one higher than before. -/
theorem interests_listen (d : Delegation) (doc : Document) (id : NodeId) (name : String)
    (handler : Payload) : (d.listen doc id name handler).2.1.interests =
      Keyed.set d.interests (id, name) ⟨handler, d.interestCount id name + 1⟩ := by
  unfold listen
  dsimp only
  split
  · rfl
  · rfl

/-- It changes what is registered for that id and name and for nothing else. -/
theorem interest?_listen (d : Delegation) (doc : Document) (id : NodeId) (name : String)
    (handler : Payload) (i : NodeId) (n : String) :
    (d.listen doc id name handler).2.1.interest? i n =
      if i = id ∧ n = name then some ⟨handler, d.interestCount id name + 1⟩
      else d.interest? i n := by
  rw [interest?, interests_listen, Keyed.get?_set, interest?]
  simp only [Prod.mk.injEq, eq_comm]

/-- What is left of an interest after one registration is taken back. -/
def lessOne (interest : Interest) : Option Interest :=
  if interest.count ≤ 1 then none else some { interest with count := interest.count - 1 }

/-- The entries after one registration of a key is taken back. -/
def lessen (entries : Keyed (NodeId × String) Interest) (key : NodeId × String)
    (interest : Interest) : Keyed (NodeId × String) Interest :=
  if interest.count ≤ 1 then Keyed.erase entries key
  else Keyed.set entries key { interest with count := interest.count - 1 }

/-- What is found after one registration of a key is taken back. -/
theorem get?_lessen (entries : Keyed (NodeId × String) Interest) (key other : NodeId × String)
    (interest : Interest) :
    Keyed.get? (lessen entries key interest) other =
      if key = other then lessOne interest else Keyed.get? entries other := by
  unfold lessen lessOne
  split
  · rw [Keyed.get?_erase]
  · rw [Keyed.get?_set]

/-- Taking back a registration leaves the keys distinct. -/
theorem distinct_lessen {entries : Keyed (NodeId × String) Interest} (h : Keyed.Distinct entries)
    (key : NodeId × String) (interest : Interest) :
    Keyed.Distinct (lessen entries key interest) := by
  unfold lessen
  split
  · exact Keyed.distinct_erase h _
  · exact Keyed.distinct_set h _ _

/-- Nothing changes when there is no registration to take back. -/
theorem unlisten_of_none {d : Delegation} (doc : Document) {id : NodeId} {name : String}
    (h : d.interest? id name = none) : d.unlisten doc id name = (false, d, doc) := by
  unfold unlisten
  rw [h]

/-- One registration of an entry is taken back, and it is taken off the root count of its event. -/
theorem unlisten_of_some {d : Delegation} (doc : Document) {id : NodeId} {name : String}
    {interest : Interest} (h : d.interest? id name = some interest) :
    d.unlisten doc id name =
      releaseRoot { d with interests := lessen d.interests (id, name) interest } doc name 1 := by
  unfold unlisten
  rw [h]
  rfl

/-- What is registered after a registration was taken back once. -/
theorem interest?_unlisten (d : Delegation) (doc : Document) (id : NodeId) (name : String)
    (i : NodeId) (n : String) :
    (d.unlisten doc id name).2.1.interest? i n =
      if i = id ∧ n = name then (d.interest? i n).bind lessOne else d.interest? i n := by
  cases hi : d.interest? id name with
  | none =>
    rw [unlisten_of_none doc hi]
    split
    · rename_i h
      rw [h.1, h.2, hi]
      rfl
    · rfl
  | some interest =>
    rw [unlisten_of_some doc hi, interest?, interests_releaseRoot, get?_lessen]
    simp only [Prod.mk.injEq, eq_comm (a := id), eq_comm (a := name)]
    split
    · rename_i h
      rw [h.1, h.2, hi]
      rfl
    · rfl

/-- Dropping the registrations of an id leaves those of all others. -/
theorem get?_filter_id (entries : Keyed (NodeId × String) Interest) (id i : NodeId) (n : String) :
    Keyed.get? (entries.filter fun entry => !decide (entry.1.1 = id)) (i, n) =
      if i = id then none else Keyed.get? entries (i, n) := by
  induction entries with
  | nil => simp
  | cons entry rest ih =>
    obtain ⟨⟨a, b⟩, v⟩ := entry
    rw [List.filter_cons]
    by_cases ha : a = id
    · subst ha
      by_cases hi : i = a
      · simpa [hi] using ih
      · simpa [Keyed.get?, hi, Ne.symm hi] using ih
    · by_cases hi : i = id
      · subst hi
        simpa [Keyed.get?, ha] using ih
      · simp only [ha, decide_false, Bool.not_false, if_true, Keyed.get?, ih, if_neg hi]

/-- An id that is forgotten has no entry left; the other ids keep theirs. -/
theorem interest?_forget (d : Delegation) (doc : Document) (id i : NodeId) (n : String) :
    (d.forget doc id).2.1.interest? i n = if i = id then none else d.interest? i n := by
  rw [forget_eq, interest?, interests_releaseEntries]
  exact get?_filter_id d.interests id i n

/-! ## Balance -/

/-- Entries, root counts and root listeners agree. -/
structure Balanced (d : Delegation) (doc : Document) : Prop where
  /-- Each id has one entry for an event. -/
  distinct : Keyed.Distinct d.interests
  /-- An entry stands for a registration. -/
  positive : ∀ id name interest, d.interest? id name = some interest → 0 < interest.count
  tracks : Tracks d.rootCounts doc fun name => total d.interests name

/-- No registrations are balanced by no root listeners. -/
theorem balanced_empty {doc : Document} (h : doc.rootListeners = []) : empty.Balanced doc where
  distinct := Keyed.distinct_nil
  positive := nofun
  tracks := ⟨fun _ => rfl, fun name => by simp [Document.hasRootListener, h, empty]⟩

/-- The balance is about the root listeners of the document only. -/
theorem Balanced.congr {d : Delegation} {a b : Document} (h : d.Balanced a)
    (hl : b.rootListeners = a.rootListeners) : d.Balanced b where
  distinct := h.distinct
  positive := h.positive
  tracks := ⟨h.tracks.count, fun name => by
    rw [← h.tracks.listens name, Document.hasRootListener, Document.hasRootListener, hl]⟩

/-- The root count of a name is the sum over all registrations of that name. -/
theorem rootCount_eq {d : Delegation} {doc : Document} (h : d.Balanced doc) (name : String) :
    d.rootCount name = total d.interests name := h.tracks.getD_eq name

/-- The share of a registration in the count of a name. -/
theorem shareAt_eq (d : Delegation) (id : NodeId) (name other : String) :
    shareAt d.interests (id, name) other = if name = other then d.interestCount id name else 0 := by
  unfold shareAt interestCount interest?
  cases Keyed.get? d.interests (id, name) with
  | none => simp
  | some interest => rfl

/-- One unit more for a registration is one unit more for its name. -/
theorem total_set_succ (d : Delegation) (id : NodeId) (name : String) (handler : Payload)
    (other : String) :
    total (Keyed.set d.interests (id, name) ⟨handler, d.interestCount id name + 1⟩) other =
      if other = name then total d.interests other + 1 else total d.interests other := by
  have hset := total_set d.interests (id, name) ⟨handler, d.interestCount id name + 1⟩ other
  rw [shareAt_eq, share] at hset
  by_cases ho : other = name
  · subst ho
    simp only [if_true] at hset ⊢
    omega
  · simp only [Ne.symm ho, if_false, ho] at hset ⊢
    omega

/-- A registration keeps the balance. -/
theorem balanced_listen {d : Delegation} {doc : Document} (h : d.Balanced doc) (id : NodeId)
    (name : String) (handler : Payload) :
    (d.listen doc id name handler).2.1.Balanced (d.listen doc id name handler).2.2 := by
  refine ⟨?_, ?_, ?_⟩
  · rw [interests_listen]
    exact Keyed.distinct_set h.distinct _ _
  · intro i n interest hi
    rw [interest?_listen] at hi
    split at hi
    · cases hi
      exact Nat.succ_pos _
    · exact h.positive i n interest hi
  · simp only [interests_listen, total_set_succ]
    exact tracks_listen h.tracks id name handler

/-- Whether the entry of a key goes or stays with one registration less, the sum of its
event loses one. -/
theorem total_lessen {d : Delegation} (h : Keyed.Distinct d.interests) {id : NodeId}
    {name : String} {interest : Interest} (hi : d.interest? id name = some interest)
    (hpos : 0 < interest.count) (other : String) :
    total (lessen d.interests (id, name) interest) other =
      if other = name then total d.interests other - 1 else total d.interests other := by
  have hat := shareAt_eq d id name other
  have hcount : d.interestCount id name = interest.count := by rw [interestCount, hi]
  rw [hcount] at hat
  unfold lessen
  split
  · have herase := total_erase h (id, name) other
    rw [hat] at herase
    by_cases ho : other = name
    · simp only [ho, if_true] at herase ⊢
      omega
    · simp only [Ne.symm ho, if_false, ho] at herase ⊢
      exact herase
  · have hset := total_set d.interests (id, name)
      { interest with count := interest.count - 1 } other
    rw [hat, share] at hset
    by_cases ho : other = name
    · simp only [ho, if_true] at hset ⊢
      omega
    · simp only [Ne.symm ho, if_false, ho] at hset ⊢
      exact hset

theorem balanced_unlisten {d : Delegation} {doc : Document} (h : d.Balanced doc) (id : NodeId)
    (name : String) :
    (d.unlisten doc id name).2.1.Balanced (d.unlisten doc id name).2.2 := by
  have hpositive : ∀ i n interest, (d.unlisten doc id name).2.1.interest? i n = some interest →
      0 < interest.count := by
    intro i n interest hi
    rw [interest?_unlisten] at hi
    split at hi
    · obtain ⟨old, ho, hless⟩ := Option.bind_eq_some_iff.mp hi
      unfold lessOne at hless
      split at hless
      · cases hless
      · cases hless
        dsimp only
        omega
    · exact h.positive i n interest hi
  cases hi : d.interest? id name with
  | none =>
    rw [unlisten_of_none doc hi]
    exact h
  | some interest =>
    have hpos : 0 < interest.count := h.positive id name interest hi
    have htotal := total_lessen h.distinct hi hpos
    have htracks : Tracks ({ d with interests := lessen d.interests (id, name) interest } :
        Delegation).rootCounts doc fun other => total d.interests other := h.tracks
    have hreleased := tracks_releaseRoot htracks name 1
    rw [unlisten_of_some doc hi] at hpositive ⊢
    refine ⟨?_, hpositive, ?_⟩
    · rw [interests_releaseRoot]
      exact distinct_lessen h.distinct _ _
    · simp only [interests_releaseRoot, htotal]
      exact hreleased

/-- Forgetting an id keeps the balance. -/
theorem balanced_forget {d : Delegation} {doc : Document} (h : d.Balanced doc) (id : NodeId) :
    (d.forget doc id).2.1.Balanced (d.forget doc id).2.2 := by
  have hpositive : ∀ i n interest, (d.forget doc id).2.1.interest? i n = some interest →
      0 < interest.count := by
    intro i n interest hi
    rw [interest?_forget] at hi
    split at hi
    · cases hi
    · exact h.positive i n interest hi
  rw [forget_eq] at hpositive ⊢
  refine ⟨?_, hpositive, ?_⟩
  · rw [interests_releaseEntries]
    exact Keyed.distinct_filter h.distinct _
  · rw [interests_releaseEntries]
    have htracks : Tracks ({ d with
        interests := d.interests.filter fun entry => !decide (entry.1.1 = id) } : Delegation).rootCounts
        doc fun name => total d.interests name := h.tracks
    have hreleased := tracks_releaseEntries htracks
      (d.interests.filter fun entry => decide (entry.1.1 = id))
    have hsub : (fun name => total (d.interests.filter fun entry => !decide (entry.1.1 = id)) name) =
        fun name => total d.interests name -
          total (d.interests.filter fun entry => decide (entry.1.1 = id)) name := by
      funext name
      have hsplit := total_filter d.interests (fun entry => decide (entry.1.1 = id)) name
      omega
    rw [hsub]
    exact hreleased

/-! ## The sum over ids -/

/-- The sum of the counts of an event over ids. -/
def countOver (d : Delegation) (ids : List NodeId) (name : String) : Nat :=
  (ids.map fun id => d.interestCount id name).sum

/-- The root count of an event is the sum of its counts over all ids with entries. -/
theorem rootCount_eq_countOver {d : Delegation} {doc : Document} (h : d.Balanced doc)
    {ids : List NodeId} (hn : ids.Nodup)
    (hcover : ∀ id name, d.isListening id name = true → id ∈ ids) (name : String) :
    d.rootCount name = d.countOver ids name := by
  have hentries : ∀ entry ∈ d.interests, entry.1.1 ∈ ids := by
    rintro ⟨⟨id, other⟩, interest⟩ hm
    apply hcover id other
    rw [isListening, interest?, (Keyed.get?_eq_some_iff h.distinct _ _).mpr hm]
    rfl
  rw [rootCount_eq h, total_eq_sum h.distinct hn hentries, countOver]
  congr 1
  apply List.map_congr_left
  intro id _
  rw [shareAt_eq, if_pos rfl]

/-! ## The nodes of the document -/

@[simp] theorem nodes_install (doc : Document) (name : String) :
    (doc.installRootListener name).2.nodes = doc.nodes := by
  unfold Document.installRootListener
  split <;> rfl

@[simp] theorem nodes_releaseRoot (d : Delegation) (doc : Document) (name : String) (units : Nat) :
    (releaseRoot d doc name units).2.2.nodes = doc.nodes := by
  unfold releaseRoot
  split
  · rfl
  · split <;> rfl

theorem nodes_listen (d : Delegation) (doc : Document) (id : NodeId) (name : String)
    (handler : Payload) : (d.listen doc id name handler).2.2.nodes = doc.nodes := by
  unfold listen
  dsimp only
  split
  · exact nodes_install doc name
  · rfl

theorem nodes_unlisten (d : Delegation) (doc : Document) (id : NodeId) (name : String) :
    (d.unlisten doc id name).2.2.nodes = doc.nodes := by
  unfold unlisten
  split
  · rfl
  · exact nodes_releaseRoot _ _ _ _

/-- Forgetting an id touches no node. -/
theorem nodes_forget (d : Delegation) (doc : Document) (id : NodeId) :
    (d.forget doc id).2.2.nodes = doc.nodes := by
  rw [forget_eq]
  unfold releaseEntries
  generalize (d.interests.filter fun entry => decide (entry.1.1 = id)) = doomed
  generalize ({ d with interests := _ } : Delegation) = kept
  induction doomed generalizing kept doc with
  | nil => rfl
  | cons entry rest ih => exact (ih _ _).trans (nodes_releaseRoot _ _ _ _)

end PageHost.Delegation
