import PageHost.Proofs.Delegation.Balance
import PageHost.Proofs.Bindings.Sound
/-!
# Taking back in any order

Ids and registrations are taken back entry by entry from lists that keep the order of
their entries. Each such step revises the value of one key or drops the keys of an id,
so two of them leave the same lists in either order. An id that is forgotten gives back
what is left of its registrations, so it makes no difference whether one of them was
taken back before: the event loses the same number of registrations in all.
-/

namespace PageHost

/-! ## Lists that are revised -/

namespace Keyed

variable {α β : Type} [DecidableEq α]

/-- Puts another value under a key that has one, or drops the key. -/
def revise (entries : Keyed α β) (key : α) (f : β → Option β) : Keyed α β :=
  match get? entries key with
  | none => entries
  | some value =>
    match f value with
    | none => erase entries key
    | some value => set entries key value

theorem erase_cons (k key : α) (v : β) (rest : Keyed α β) :
    erase ((k, v) :: rest) key = if k = key then erase rest key else (k, v) :: erase rest key := by
  unfold erase
  rw [List.filter_cons]
  by_cases h : k = key <;> simp [h]

theorem revise_cons (k key : α) (v : β) (rest : Keyed α β) (f : β → Option β) :
    revise ((k, v) :: rest) key f =
      if k = key then
        match f v with
        | none => erase rest key
        | some w => (k, w) :: rest
      else (k, v) :: revise rest key f := by
  unfold revise
  by_cases h : k = key
  · rw [get?, if_pos h, if_pos h]
    dsimp only
    cases f v with
    | none =>
      dsimp only
      rw [erase_cons, if_pos h]
    | some w =>
      dsimp only
      rw [set, if_pos h]
  · rw [get?, if_neg h, if_neg h]
    cases get? rest key with
    | none => rfl
    | some value =>
      dsimp only
      cases f value with
      | none =>
        dsimp only
        rw [erase_cons, if_neg h]
      | some w =>
        dsimp only
        rw [set, if_neg h]

/-- What is found after a key was revised. -/
theorem get?_revise (entries : Keyed α β) (key other : α) (f : β → Option β) :
    get? (revise entries key f) other =
      if key = other then (get? entries key).bind f else get? entries other := by
  unfold revise
  cases hg : get? entries key with
  | none =>
    by_cases ho : key = other
    · rw [if_pos ho, ← ho, hg]
      rfl
    · rw [if_neg ho]
  | some value =>
    dsimp only
    cases hf : f value with
    | none =>
      rw [get?_erase, Option.bind_some, hf]
    | some w =>
      rw [get?_set, Option.bind_some, hf]

/-- A key without a value stays without one. -/
theorem revise_of_none {entries : Keyed α β} {key : α} (h : get? entries key = none)
    (f : β → Option β) : revise entries key f = entries := by
  unfold revise
  rw [h]

/-- Dropping keys and revising a key that stays can be done in either order, and a key that is
dropped need not be revised before. -/
theorem filter_revise (entries : Keyed α β) (keep : α → Bool) (key : α) (f : β → Option β) :
    (revise entries key f).filter (fun entry => keep entry.1) =
      if keep key then revise (entries.filter fun entry => keep entry.1) key f
      else entries.filter fun entry => keep entry.1 := by
  have herase : ∀ rest : Keyed α β, (erase rest key).filter (fun entry => keep entry.1) =
      erase (rest.filter fun entry => keep entry.1) key :=
    fun rest => List.filter_comm _ _ rest
  induction entries with
  | nil => cases keep key <;> rfl
  | cons entry rest ih =>
    obtain ⟨k, v⟩ := entry
    rw [revise_cons]
    by_cases h : k = key
    · subst h
      rw [if_pos rfl]
      by_cases hk : keep k = true
      · rw [if_pos hk, List.filter_cons, if_pos hk, revise_cons, if_pos rfl]
        cases f v with
        | none => exact herase rest
        | some w =>
          dsimp only
          rw [List.filter_cons, if_pos hk]
      · rw [if_neg hk, List.filter_cons, if_neg hk]
        cases f v with
        | none =>
          dsimp only
          rw [herase]
          apply List.filter_eq_self.mpr
          intro entry hm
          have hkept := (List.mem_filter.mp hm).2
          have hne : entry.1 ≠ k := fun he => hk (he ▸ hkept)
          simpa using hne
        | some w =>
          dsimp only
          rw [List.filter_cons, if_neg hk]
    · rw [if_neg h, List.filter_cons, List.filter_cons, ih]
      by_cases hk : keep k = true
      · rw [if_pos hk, if_pos hk, revise_cons, if_neg h]
        split <;> rfl
      · rw [if_neg hk, if_neg hk]

/-- Erasing one key and revising another commute. -/
theorem erase_revise (entries : Keyed α β) {key other : α} (h : key ≠ other) (f : β → Option β) :
    erase (revise entries key f) other = revise (erase entries other) key f := by
  unfold erase
  have hfilter := filter_revise entries (fun k => !decide (k = other)) key f
  rw [if_pos (by simpa using h)] at hfilter
  exact hfilter

/-- Different keys can be revised in either order. -/
theorem revise_comm (entries : Keyed α β) {key other : α} (h : key ≠ other) (f g : β → Option β) :
    revise (revise entries key f) other g = revise (revise entries other g) key f := by
  induction entries with
  | nil => rfl
  | cons entry rest ih =>
    obtain ⟨k, v⟩ := entry
    rw [revise_cons, revise_cons k other]
    by_cases hk : k = key
    · have ho : k ≠ other := fun he => h (hk.symm.trans he)
      rw [if_pos hk, if_neg ho, revise_cons, if_pos hk]
      cases f v with
      | none => exact (erase_revise rest h.symm g).symm
      | some w => exact (revise_cons k other w rest g).trans (if_neg ho)
    · by_cases ho : k = other
      · rw [if_neg hk, if_pos ho, revise_cons, if_pos ho]
        cases g v with
        | none => exact erase_revise rest h f
        | some w => exact ((revise_cons k key w rest f).trans (if_neg hk)).symm
      · rw [if_neg hk, if_neg ho, revise_cons, if_neg ho, revise_cons, if_neg hk, ih]

/-- Revising a key twice revises it once by both. -/
theorem revise_revise (entries : Keyed α β) (key : α) (f g : β → Option β) :
    revise (revise entries key f) key g = revise entries key fun v => (f v).bind g := by
  induction entries with
  | nil => rfl
  | cons entry rest ih =>
    obtain ⟨k, v⟩ := entry
    rw [revise_cons, revise_cons]
    by_cases hk : k = key
    · rw [if_pos hk, if_pos hk]
      cases f v with
      | none =>
        have hgone : get? (erase rest key) key = none := by rw [get?_erase, if_pos rfl]
        exact revise_of_none hgone g
      | some w => exact (revise_cons k key w rest g).trans (if_pos hk)
    · rw [if_neg hk, if_neg hk, revise_cons, if_neg hk, ih]

/-- Erasing a key without an entry changes nothing. -/
theorem erase_of_none {entries : Keyed α β} {key : α} (h : get? entries key = none) :
    erase entries key = entries := by
  apply List.filter_eq_self.mpr
  intro entry hm
  have hne : entry.1 ≠ key := by
    intro he
    have hkey : key ∈ entries.map Prod.fst := he ▸ List.mem_map_of_mem hm
    rw [mem_keys_iff, h] at hkey
    cases hkey
  simpa using hne

/-- Erasing undoes a value that was set. -/
theorem erase_set (entries : Keyed α β) (key : α) (value : β) :
    erase (set entries key value) key = erase entries key := by
  induction entries with
  | nil => simp [set, erase]
  | cons entry rest ih =>
    obtain ⟨k, v⟩ := entry
    rw [set]
    by_cases h : k = key
    · rw [if_pos h, erase_cons, erase_cons, if_pos h, if_pos h]
    · rw [if_neg h, erase_cons, erase_cons, if_neg h, if_neg h, ih]

/-- With one pair for each key, the pair of a key can be moved to the front. -/
theorem perm_cons_erase {entries : Keyed α β} (hd : Distinct entries) {key : α} {value : β}
    (h : get? entries key = some value) :
    entries.Perm ((key, value) :: erase entries key) := by
  induction entries with
  | nil => cases h
  | cons entry rest ih =>
    obtain ⟨k, v⟩ := entry
    obtain ⟨hk, hr⟩ := List.nodup_cons.mp hd
    rw [get?] at h
    rw [erase_cons]
    by_cases he : k = key
    · subst he
      rw [if_pos rfl] at h ⊢
      cases h
      have hnone : get? rest k = none := by
        rw [← Option.not_isSome_iff_eq_none, ← mem_keys_iff]
        exact hk
      rw [erase_of_none hnone]
    · rw [if_neg he] at h ⊢
      exact ((ih hr h).cons (k, v)).trans (List.Perm.swap ..)

/-- With one pair for each key, a revision puts another pair in the place of one. -/
theorem perm_revise {entries : Keyed α β} (hd : Distinct entries) {key : α} {value : β}
    (h : get? entries key = some value) (f : β → Option β) :
    (revise entries key f).Perm
      ((f value).toList.map (fun w => (key, w)) ++ erase entries key) := by
  unfold revise
  rw [h]
  dsimp only
  cases f value with
  | none => exact .refl _
  | some w =>
    have hset : get? (set entries key w) key = some w := by rw [get?_set, if_pos rfl]
    have hperm := perm_cons_erase (distinct_set hd key w) hset
    rw [erase_set] at hperm
    exact hperm

/-- A key that is revised leaves the keys distinct. -/
theorem distinct_revise {entries : Keyed α β} (hd : Distinct entries) (key : α)
    (f : β → Option β) : Distinct (revise entries key f) := by
  unfold revise
  split
  · exact hd
  · split
    · exact distinct_erase hd key
    · exact distinct_set hd key _

end Keyed

/-! ## Bindings -/

namespace Bindings

/-- The ids that are left when one is taken off, if there are any. -/
def without (id : NodeId) (ids : List NodeId) : Option (List NodeId) :=
  let kept := ids.filter fun other => !decide (other = id)
  if kept.isEmpty then none else some kept

theorem forgetAlias_eq (table : Bindings) (node : Handle) (id : NodeId) :
    table.forgetAlias node id =
      { table with aliases := Keyed.revise table.aliases node (without id) } := by
  unfold forgetAlias Keyed.revise without
  cases Keyed.get? table.aliases node with
  | none => rfl
  | some ids =>
    dsimp only
    split <;> rfl

/-- Taking off two ids leaves what neither of them is. -/
theorem bind_without (a b : NodeId) (ids : List NodeId) :
    (without a ids).bind (without b) =
      let kept := (ids.filter fun other => !decide (other = a)).filter fun other =>
        !decide (other = b)
      if kept.isEmpty then none else some kept := by
  unfold without
  by_cases ha : (ids.filter fun other => !decide (other = a)).isEmpty = true
  · have hnil := List.isEmpty_iff.mp ha
    rw [hnil]
    rfl
  · dsimp only
    rw [if_neg ha]
    rfl

/-- Two ids can be taken off a list in either order. -/
theorem bind_without_comm (a b : NodeId) (ids : List NodeId) :
    (without a ids).bind (without b) = (without b ids).bind (without a) := by
  rw [bind_without, bind_without, List.filter_comm]

/-- Releasing an id that is not bound changes nothing. -/
theorem unbind_of_unbound {table : Bindings} {id : NodeId} (h : table.lookup? id = none) :
    (table.unbind id).2 = table := by
  unfold unbind
  rw [h]

/-- Releasing a bound id erases its binding and revises the list of its node. -/
theorem unbind_of_bound {table : Bindings} {id : NodeId} {node : Handle}
    (h : table.lookup? id = some node) :
    (table.unbind id).2 =
      ⟨Keyed.erase table.nodes id, Keyed.revise table.aliases node (without id)⟩ := by
  unfold unbind
  rw [h]
  exact forgetAlias_eq _ node id

/-- Ids can be released in either order. -/
theorem unbind_comm (table : Bindings) (a b : NodeId) :
    ((table.unbind a).2.unbind b).2 = ((table.unbind b).2.unbind a).2 := by
  by_cases hab : a = b
  · rw [hab]
  have hafter : ∀ {a b : NodeId}, a ≠ b →
      (table.unbind a).2.lookup? b = table.lookup? b := by
    intro a b h
    rw [lookup?_unbind, if_neg h]
  have ha := hafter (Ne.symm hab)
  have hb := hafter hab
  cases hla : table.lookup? a with
  | none => rw [unbind_of_unbound hla, unbind_of_unbound (ha.trans hla)]
  | some x =>
    cases hlb : table.lookup? b with
    | none => rw [unbind_of_unbound hlb, unbind_of_unbound (hb.trans hlb)]
    | some y =>
      rw [unbind_of_bound (hb.trans hlb), unbind_of_bound (ha.trans hla), unbind_of_bound hla,
        unbind_of_bound hlb]
      have hnodes : Keyed.erase (Keyed.erase table.nodes a) b =
          Keyed.erase (Keyed.erase table.nodes b) a := List.filter_comm _ _ _
      have haliases : Keyed.revise (Keyed.revise table.aliases x (without a)) y (without b) =
          Keyed.revise (Keyed.revise table.aliases y (without b)) x (without a) := by
        by_cases hxy : x = y
        · subst hxy
          rw [Keyed.revise_revise, Keyed.revise_revise]
          exact congrArg (Keyed.revise _ _) (funext fun ids => bind_without_comm a b ids)
        · exact Keyed.revise_comm _ hxy _ _
      rw [hnodes, haliases]

end Bindings

/-! ## Registrations -/

namespace Delegation

/-- What is left of a root count. -/
def less (units count : Nat) : Option Nat :=
  if count ≤ units then none else some (count - units)

/-- Takes registrations off the root count of an event; the page stops listening for it if none
is left. -/
def shed (state : Keyed String Nat × Document) (name : String) (units : Nat) :
    Keyed String Nat × Document :=
  (Keyed.revise state.1 name (less units),
    if (Keyed.get? state.1 name).any (decide <| · ≤ units) then
      (state.2.uninstallRootListener name).2
    else state.2)

/-- Registrations are taken off a root count by shedding them. -/
theorem releaseRoot_eq (d : Delegation) (doc : Document) (name : String) (units : Nat) :
    (releaseRoot d doc name units).2 =
      ({ d with rootCounts := (shed (d.rootCounts, doc) name units).1 },
        (shed (d.rootCounts, doc) name units).2) := by
  unfold releaseRoot shed Keyed.revise less
  cases hg : Keyed.get? d.rootCounts name with
  | none => rfl
  | some count =>
    dsimp only
    by_cases h : count ≤ units
    · simp [h]
    · simp [h]

/-- Two losses one after the other are the loss of both together. -/
theorem bind_less (m n count : Nat) : (less m count).bind (less n) = less (m + n) count := by
  unfold less
  by_cases hm : count ≤ m
  · rw [if_pos hm, if_pos (Nat.le_add_right_of_le hm)]
    rfl
  · rw [if_neg hm, Option.bind_some]
    by_cases hn : count - m ≤ n
    · rw [if_pos hn, if_pos (by omega)]
    · rw [if_neg hn, if_neg (by omega), Nat.sub_sub]

/-- What is taken off an event in two parts is taken off at once. -/
theorem shed_shed (state : Keyed String Nat × Document) (name : String) (m n : Nat) :
    shed (shed state name m) name n = shed state name (m + n) := by
  apply Prod.ext
  · show Keyed.revise (Keyed.revise state.1 name (less m)) name (less n) = _
    rw [Keyed.revise_revise]
    exact congrArg (Keyed.revise _ _) (funext fun count => bind_less m n count)
  · unfold shed
    dsimp only
    rw [Keyed.get?_revise, if_pos rfl]
    cases Keyed.get? state.1 name with
    | none => rfl
    | some count =>
      rw [Option.bind_some]
      unfold less
      by_cases hm : count ≤ m
      · have hsum : count ≤ m + n := Nat.le_add_right_of_le hm
        simp [hm, hsum]
      · have hsum : count - m ≤ n ↔ count ≤ m + n := by omega
        simp [hm, hsum]

/-- Root listeners can be removed in either order. -/
theorem uninstall_comm (doc : Document) (a b : String) :
    ((doc.uninstallRootListener a).2.uninstallRootListener b).2 =
      ((doc.uninstallRootListener b).2.uninstallRootListener a).2 := by
  unfold Document.uninstallRootListener
  dsimp only
  rw [List.filter_comm]

/-- Registrations can be taken off events in either order. -/
theorem shed_comm (state : Keyed String Nat × Document) (a b : String) (m n : Nat) :
    shed (shed state a m) b n = shed (shed state b n) a m := by
  by_cases hab : a = b
  · rw [hab, shed_shed, shed_shed, Nat.add_comm]
  · apply Prod.ext
    · exact Keyed.revise_comm _ hab _ _
    · unfold shed
      dsimp only
      rw [Keyed.get?_revise, if_neg hab, Keyed.get?_revise, if_neg (Ne.symm hab)]
      split
      · split
        · exact uninstall_comm state.2 a b
        · rfl
      · rfl

/-- Takes registrations off events one after the other. -/
def sheds (state : Keyed String Nat × Document) (units : List (String × Nat)) :
    Keyed String Nat × Document :=
  units.foldl (fun state unit => shed state unit.1 unit.2) state

/-- Two lists of registrations are shed one after the other. -/
theorem sheds_append (state : Keyed String Nat × Document) (first rest : List (String × Nat)) :
    sheds state (first ++ rest) = sheds (sheds state first) rest := List.foldl_append

/-- The order in which registrations are taken off makes no difference. -/
theorem sheds_perm {first second : List (String × Nat)} (h : first.Perm second)
    (state : Keyed String Nat × Document) : sheds state first = sheds state second :=
  h.foldl_eq' (fun a _ b _ state => shed_comm state a.1 b.1 a.2 b.2) state

/-- The registrations of an id, event by event. -/
def owed (interests : Keyed (NodeId × String) Interest) (id : NodeId) : List (String × Nat) :=
  (interests.filter fun entry => decide (entry.1.1 = id)).map fun entry =>
    (entry.1.2, entry.2.count)

theorem owed_cons (key : NodeId × String) (interest : Interest)
    (rest : Keyed (NodeId × String) Interest) (id : NodeId) :
    owed ((key, interest) :: rest) id =
      if key.1 = id then (key.2, interest.count) :: owed rest id else owed rest id := by
  unfold owed
  rw [List.filter_cons]
  by_cases h : key.1 = id <;> simp [h]

/-- Entries in another order give the registrations of an id in another order. -/
theorem owed_perm {first second : Keyed (NodeId × String) Interest} (h : first.Perm second)
    (id : NodeId) : (owed first id).Perm (owed second id) := (h.filter _).map _

/-- The registrations of entries are taken off by shedding them event by event. -/
theorem releaseEntries_eq (d : Delegation) (doc : Document)
    (entries : Keyed (NodeId × String) Interest) :
    releaseEntries d doc entries =
      let state := sheds (d.rootCounts, doc) (entries.map fun entry => (entry.1.2, entry.2.count))
      ({ d with rootCounts := state.1 }, state.2) := by
  induction entries generalizing d doc with
  | nil => rfl
  | cons entry rest ih =>
    have hrest := ih { d with rootCounts := (shed (d.rootCounts, doc) entry.1.2 entry.2.count).1 }
      (shed (d.rootCounts, doc) entry.1.2 entry.2.count).2
    unfold releaseEntries at hrest ⊢
    rw [List.foldl_cons, releaseRoot_eq]
    exact hrest

/-- A call that takes registrations back: all of an id, or one of an id for an event. -/
inductive Revocation where
  | all (id : NodeId)
  | one (id : NodeId) (name : String)

namespace Revocation

/-- The id that a call is about. -/
def owner : Revocation → NodeId
  | .all id | .one id _ => id

/-- The table and the document after the call. -/
def perform (d : Delegation) (doc : Document) : Revocation → Delegation × Document
  | .all id => (d.forget doc id).2
  | .one id name => (d.unlisten doc id name).2

/-- The entries that a call leaves. -/
def entries (interests : Keyed (NodeId × String) Interest) :
    Revocation → Keyed (NodeId × String) Interest
  | .all id => interests.filter fun entry => !decide (entry.1.1 = id)
  | .one id name => Keyed.revise interests (id, name) lessOne

/-- The registrations that a call takes off the events. -/
def units (interests : Keyed (NodeId × String) Interest) : Revocation → List (String × Nat)
  | .all id => owed interests id
  | .one id name =>
    match Keyed.get? interests (id, name) with
    | none => []
    | some _ => [(name, 1)]

/-- A call leaves some entries and takes registrations off the events, both as the entries say. -/
theorem perform_eq (d : Delegation) (doc : Document) (call : Revocation) :
    call.perform d doc =
      let state := sheds (d.rootCounts, doc) (call.units d.interests)
      (⟨call.entries d.interests, state.1⟩, state.2) := by
  cases call with
  | all id =>
    show (d.forget doc id).2 = _
    rw [forget_eq, releaseEntries_eq]
    rfl
  | one id name =>
    show (d.unlisten doc id name).2 = _
    dsimp only [entries, units]
    cases hi : Keyed.get? d.interests (id, name) with
    | none =>
      rw [unlisten_of_none doc hi, Keyed.revise_of_none hi]
      rfl
    | some interest =>
      have hlessen : lessen d.interests (id, name) interest =
          Keyed.revise d.interests (id, name) lessOne := by
        unfold lessen Keyed.revise lessOne
        rw [hi]
        dsimp only
        split <;> rfl
      rw [unlisten_of_some doc hi, releaseRoot_eq, hlessen]
      rfl

end Revocation

/-- Each id has one entry for an event, and an entry stands for a registration. -/
structure Proper (d : Delegation) : Prop where
  distinct : Keyed.Distinct d.interests
  positive : ∀ id name interest, d.interest? id name = some interest → 0 < interest.count

/-- The empty table is proper. -/
theorem proper_empty : empty.Proper := ⟨Keyed.distinct_nil, nofun⟩

/-- A registration keeps a table proper. -/
theorem Proper.listen {d : Delegation} (h : d.Proper) (doc : Document) (id : NodeId)
    (name : String) (handler : Payload) : (d.listen doc id name handler).2.1.Proper where
  distinct := by
    rw [interests_listen]
    exact Keyed.distinct_set h.distinct _ _
  positive i n interest hi := by
    rw [interest?_listen] at hi
    split at hi
    · cases hi
      exact Nat.succ_pos _
    · exact h.positive i n interest hi

/-- A revocation keeps a table proper. -/
theorem Proper.perform {d : Delegation} (h : d.Proper) (doc : Document) (call : Revocation) :
    (call.perform d doc).1.Proper := by
  have hentries : (call.perform d doc).1.interests = call.entries d.interests := by
    rw [Revocation.perform_eq]
  cases call with
  | all id =>
    refine ⟨?_, fun i n interest hi => ?_⟩
    · rw [hentries]
      exact Keyed.distinct_filter h.distinct _
    · replace hi : (d.forget doc id).2.1.interest? i n = some interest := hi
      rw [interest?_forget] at hi
      split at hi
      · cases hi
      · exact h.positive i n interest hi
  | one id name =>
    refine ⟨?_, fun i n interest hi => ?_⟩
    · rw [hentries]
      exact Keyed.distinct_revise h.distinct _ _
    · replace hi : (d.unlisten doc id name).2.1.interest? i n = some interest := hi
      rw [interest?_unlisten] at hi
      split at hi
      · obtain ⟨before, -, hless⟩ := Option.bind_eq_some_iff.mp hi
        unfold lessOne at hless
        split at hless
        · cases hless
        · cases hless
          dsimp only
          omega
      · exact h.positive i n interest hi

namespace Revocation

/-- A call takes nothing off what another id owes. -/
theorem owed_entries (interests : Keyed (NodeId × String) Interest) (call : Revocation)
    {id : NodeId} (h : call.owner ≠ id) : owed (call.entries interests) id = owed interests id := by
  unfold owed
  congr 1
  cases call with
  | all other =>
    dsimp only [entries]
    rw [List.filter_filter]
    apply List.filter_congr
    intro entry _
    by_cases he : entry.1.1 = id
    · have hne : id ≠ other := Ne.symm h
      simp [he, hne]
    · simp [he]
  | one other name =>
    have hne : other ≠ id := h
    have hfilter := Keyed.filter_revise interests (fun key => decide (key.1 = id)) (other, name)
      lessOne
    rw [if_neg (by simpa using hne)] at hfilter
    exact hfilter

/-- The entries that two calls leave are the same in either order. -/
theorem entries_comm (interests : Keyed (NodeId × String) Interest) (a b : Revocation) :
    b.entries (a.entries interests) = a.entries (b.entries interests) := by
  have hmixed : ∀ (x y : NodeId) (name : String),
      (one y name).entries ((all x).entries interests) =
        (all x).entries ((one y name).entries interests) := by
    intro x y name
    have hfilter := Keyed.filter_revise interests (fun key => !decide (key.1 = x)) (y, name) lessOne
    dsimp only [entries]
    rw [hfilter]
    by_cases hxy : y = x
    · have hgone : Keyed.get? (interests.filter fun entry => !decide (entry.1.1 = x)) (y, name) =
          none := by
        rw [get?_filter_id, if_pos hxy]
      rw [if_neg (by simp [hxy]), Keyed.revise_of_none hgone]
    · rw [if_pos (by simpa using hxy)]
  cases a with
  | all x =>
    cases b with
    | all y => exact List.filter_comm _ _ _
    | one y name => exact hmixed x y name
  | one x name =>
    cases b with
    | all y => exact (hmixed y x name).symm
    | one y other =>
      by_cases hxy : (x, name) = (y, other)
      · cases hxy
        rfl
      · exact Keyed.revise_comm interests hxy _ _

/-- Whether one registration is taken back before all of them are makes no difference to the
events. -/
theorem sheds_one_all {d : Delegation} (hp : d.Proper) (id : NodeId) (name : String)
    (state : Keyed String Nat × Document) :
    sheds state ((one id name).units d.interests ++ owed ((one id name).entries d.interests) id) =
      sheds state (owed d.interests id) := by
  dsimp only [units, entries]
  cases hi : Keyed.get? d.interests (id, name) with
  | none =>
    rw [Keyed.revise_of_none hi]
    rfl
  | some interest =>
    have hpos := hp.positive id name interest hi
    have hsplit := owed_perm (Keyed.perm_cons_erase hp.distinct hi) id
    have hrevise := owed_perm (Keyed.perm_revise hp.distinct hi lessOne) id
    rw [owed_cons, if_pos rfl] at hsplit
    dsimp only
    rw [sheds_append, sheds_perm hsplit, sheds_perm hrevise]
    unfold lessOne
    by_cases hc : interest.count ≤ 1
    · have hone : interest.count = 1 := by omega
      rw [if_pos hc, hone]
      rfl
    · have hsum : 1 + (interest.count - 1) = interest.count := by omega
      have hmerge := shed_shed state name 1 (interest.count - 1)
      rw [hsum] at hmerge
      rw [if_neg hc, Option.toList_some, List.map_singleton, List.singleton_append, owed_cons,
        if_pos rfl]
      exact congrArg (sheds · (owed (Keyed.erase d.interests (id, name)) id)) hmerge

/-- Two calls take the same registrations off the events in either order. -/
theorem sheds_comm {d : Delegation} (hp : d.Proper) (a b : Revocation)
    (state : Keyed String Nat × Document) :
    sheds state (a.units d.interests ++ b.units (a.entries d.interests)) =
      sheds state (b.units d.interests ++ a.units (b.entries d.interests)) := by
  have hmixed : ∀ (x y : NodeId) (name : String),
      sheds state ((one y name).units d.interests ++
          owed ((one y name).entries d.interests) x) =
        sheds state (owed d.interests x ++ (one y name).units ((all x).entries d.interests)) := by
    intro x y name
    by_cases hxy : y = x
    · subst hxy
      have hgone : (one y name).units ((all y).entries d.interests) = [] := by
        dsimp only [units, entries]
        rw [get?_filter_id, if_pos rfl]
      rw [sheds_one_all hp, hgone, List.append_nil]
    · have hsame : (one y name).units ((all x).entries d.interests) =
          (one y name).units d.interests := by
        dsimp only [units, entries]
        rw [get?_filter_id, if_neg hxy]
      rw [owed_entries d.interests (one y name) hxy, hsame]
      exact sheds_perm List.perm_append_comm state
  cases a with
  | all x =>
    cases b with
    | all y =>
      by_cases hxy : x = y
      · rw [hxy]
      · dsimp only [units]
        rw [owed_entries d.interests (all x) hxy, owed_entries d.interests (all y) (Ne.symm hxy)]
        exact sheds_perm List.perm_append_comm state
    | one y name => exact (hmixed x y name).symm
  | one x name =>
    cases b with
    | all y => exact hmixed y x name
    | one y other =>
      by_cases hxy : (x, name) = (y, other)
      · cases hxy
        rfl
      · dsimp only [units, entries]
        rw [Keyed.get?_revise, if_neg hxy, Keyed.get?_revise, if_neg (Ne.symm hxy)]
        exact sheds_perm List.perm_append_comm state

/-- Registrations can be taken back by two calls in either order. -/
theorem perform_comm {d : Delegation} (hp : d.Proper) (doc : Document) (a b : Revocation) :
    b.perform (a.perform d doc).1 (a.perform d doc).2 =
      a.perform (b.perform d doc).1 (b.perform d doc).2 := by
  have hentries := entries_comm d.interests a b
  have hsheds := sheds_comm hp a b (d.rootCounts, doc)
  rw [sheds_append, sheds_append] at hsheds
  rw [perform_eq, perform_eq, perform_eq, perform_eq]
  dsimp only
  rw [hentries]
  rw [Prod.mk.eta, Prod.mk.eta, hsheds]

/-- A call neither reads nor changes the nodes of the document. -/
theorem perform_nodes (d : Delegation) (doc : Document) (nodes : Nodes) (call : Revocation) :
    call.perform d { doc with nodes := nodes } =
      ((call.perform d doc).1, { (call.perform d doc).2 with nodes := nodes }) := by
  have hsheds : ∀ (units : List (String × Nat)) (counts : Keyed String Nat) (doc : Document),
      sheds (counts, { doc with nodes := nodes }) units =
        ((sheds (counts, doc) units).1, { (sheds (counts, doc) units).2 with nodes := nodes }) := by
    intro units
    induction units with
    | nil => exact fun _ _ => rfl
    | cons unit rest ih =>
      intro counts doc
      have hshed : shed (counts, { doc with nodes := nodes }) unit.1 unit.2 =
          ((shed (counts, doc) unit.1 unit.2).1,
            { (shed (counts, doc) unit.1 unit.2).2 with nodes := nodes }) := by
        unfold shed
        dsimp only
        split <;> rfl
      have hrest := ih (shed (counts, doc) unit.1 unit.2).1 (shed (counts, doc) unit.1 unit.2).2
      rw [← hshed] at hrest
      exact hrest
  rw [perform_eq, perform_eq, hsheds]

theorem nodes_perform (d : Delegation) (doc : Document) (call : Revocation) :
    (call.perform d doc).2.nodes = doc.nodes :=
  congrArg (·.2.nodes) (perform_nodes d doc doc.nodes call)

end Revocation

end Delegation

end PageHost
