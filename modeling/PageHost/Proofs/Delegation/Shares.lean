import Mathlib.Algebra.BigOperators.Group.Finset.Piecewise
import Mathlib.Algebra.GroupWithZero.Nat
import PageHost.Event.Delegation
/-!
# Sums of registrations

The number of registrations for an event is a sum over all entries. A write or
an erasure changes the sum by the share of its key alone, and with one entry for
each key the sum over entries is a sum over ids.
-/

namespace PageHost.Delegation

/-- What an entry adds to the sum of an event. -/
def share (key : NodeId × String) (interest : Interest) (name : String) : Nat :=
  if key.2 = name then interest.count else 0

/-- The number of registrations for an event in all entries. -/
def total (entries : Keyed (NodeId × String) Interest) (name : String) : Nat :=
  (entries.map fun entry => share entry.1 entry.2 name).sum

@[simp] theorem total_nil (name : String) : total [] name = 0 := rfl

@[simp] theorem total_cons (entry : (NodeId × String) × Interest)
    (rest : Keyed (NodeId × String) Interest) (name : String) :
    total (entry :: rest) name = share entry.1 entry.2 name + total rest name := rfl

/-- What the entry of a key adds, if there is one. -/
def shareAt (entries : Keyed (NodeId × String) Interest) (key : NodeId × String) (name : String) :
    Nat :=
  match Keyed.get? entries key with
  | none => 0
  | some interest => share key interest name

/-- A write changes the sum by the new share less the old one. -/
theorem total_set (entries : Keyed (NodeId × String) Interest) (key : NodeId × String)
    (interest : Interest) (name : String) :
    total (Keyed.set entries key interest) name + shareAt entries key name =
      total entries name + share key interest name := by
  induction entries with
  | nil => simp [Keyed.set, shareAt]
  | cons entry rest ih =>
    obtain ⟨k, v⟩ := entry
    by_cases hk : k = key
    · subst hk
      have hat : shareAt ((k, v) :: rest) k name = share k v name := by simp [shareAt, Keyed.get?]
      rw [Keyed.set, if_pos rfl, hat, total_cons, total_cons]
      dsimp only
      omega
    · have hat : shareAt ((k, v) :: rest) key name = shareAt rest key name := by
        simp [shareAt, Keyed.get?, hk]
      rw [Keyed.set, if_neg hk, hat, total_cons, total_cons]
      omega

/-- The sum splits along any test of the entries. -/
theorem total_filter (entries : Keyed (NodeId × String) Interest)
    (keep : (NodeId × String) × Interest → Bool) (name : String) :
    total (entries.filter keep) name + total (entries.filter fun entry => !keep entry) name =
      total entries name := by
  induction entries with
  | nil => rfl
  | cons entry rest ih =>
    by_cases hk : keep entry
    · simp [hk]
      omega
    · simp [hk]
      omega

/-- With one entry for each key, the entries of a key add what the key adds. -/
theorem total_filter_key {entries : Keyed (NodeId × String) Interest}
    (hd : Keyed.Distinct entries) (key : NodeId × String) (name : String) :
    total (entries.filter fun entry => decide (entry.1 = key)) name = shareAt entries key name := by
  induction entries with
  | nil => rfl
  | cons entry rest ih =>
    obtain ⟨k, v⟩ := entry
    obtain ⟨hk, hr⟩ := List.nodup_cons.mp hd
    by_cases he : k = key
    · subst he
      have hnone : rest.filter (fun entry => decide (entry.1 = k)) = [] := by
        rw [List.filter_eq_nil_iff]
        intro entry hm hkey
        exact hk (List.mem_map.mpr ⟨entry, hm, by simpa using hkey⟩)
      simp [shareAt, Keyed.get?, hnone]
    · have hat : shareAt ((k, v) :: rest) key name = shareAt rest key name := by
        simp [shareAt, Keyed.get?, he]
      rw [hat, ← ih hr, List.filter_cons]
      simp [he]

/-- An erasure takes the share of its key off the sum. -/
theorem total_erase {entries : Keyed (NodeId × String) Interest} (hd : Keyed.Distinct entries)
    (key : NodeId × String) (name : String) :
    total (Keyed.erase entries key) name + shareAt entries key name = total entries name := by
  rw [← total_filter_key hd key name, Nat.add_comm]
  exact total_filter entries _ name

/-! ## The sum over ids -/

/-- A registration counts once in the sum over ids that have its id among them. -/
theorem sum_map_share {ids : List NodeId} (hn : ids.Nodup) (key : NodeId × String)
    (interest : Interest) (name : String) (hk : key.1 ∈ ids) :
    (ids.map fun id => if id = key.1 then share key interest name else 0).sum =
      share key interest name := by
  have hmem : key.1 ∈ ids.toFinset := List.mem_toFinset.mpr hk
  rw [← List.sum_toFinset _ hn, Finset.sum_ite_eq', if_pos hmem]

/-- An id adds its part of the first entry and its part of the others. -/
theorem shareAt_cons {key : NodeId × String} {rest : Keyed (NodeId × String) Interest}
    (hk : key ∉ rest.map Prod.fst) (interest : Interest) (id : NodeId) (name : String) :
    shareAt ((key, interest) :: rest) (id, name) name =
      (if id = key.1 then share key interest name else 0) + shareAt rest (id, name) name := by
  obtain ⟨a, b⟩ := key
  by_cases hb : b = name
  · by_cases hid : id = a
    · subst hb
      subst hid
      have hnone : Keyed.get? rest (id, b) = none := by
        rw [← Option.not_isSome_iff_eq_none, ← Keyed.mem_keys_iff]
        exact hk
      simp [shareAt, Keyed.get?, hnone]
    · simp [shareAt, Keyed.get?, hid, Ne.symm hid]
  · simp [shareAt, Keyed.get?, hb, share]

/-- The sum of an event over entries is its sum over ids, if the ids cover all entries. -/
theorem total_eq_sum {entries : Keyed (NodeId × String) Interest} (hd : Keyed.Distinct entries)
    {ids : List NodeId} (hn : ids.Nodup) (hcover : ∀ entry ∈ entries, entry.1.1 ∈ ids)
    (name : String) :
    total entries name = (ids.map fun id => shareAt entries (id, name) name).sum := by
  induction entries with
  | nil =>
    have hzero : (ids.map fun id => shareAt [] (id, name) name) = ids.map fun _ => 0 := rfl
    rw [hzero, total_nil]
    simp [List.map_const']
  | cons entry rest ih =>
    obtain ⟨key, interest⟩ := entry
    obtain ⟨hk, hr⟩ := List.nodup_cons.mp hd
    have hrest := ih hr fun entry hm => hcover entry (List.mem_cons_of_mem _ hm)
    have hin : key.1 ∈ ids := hcover (key, interest) List.mem_cons_self
    simp only [shareAt_cons hk]
    rw [total_cons, hrest, List.sum_map_add, sum_map_share hn key interest name hin]

end PageHost.Delegation
