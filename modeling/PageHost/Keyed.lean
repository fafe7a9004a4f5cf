/-!
# Lists of pairs read by key

A `Keyed α β` holds values under keys in the order in which the keys were
first written. `set` replaces a value in place or adds a pair at the end,
`erase` drops every pair of a key, and `get?` reads the first pair of a key.
Each operation is described by what `get?` answers afterwards. The type does not
ask for distinct keys: `set` and `erase` keep them distinct when they were, and
then each key has its value in one pair.
-/

namespace PageHost

/-- Values under keys, in the order in which the keys were first written. -/
abbrev Keyed (α β : Type) := List (α × β)

namespace Keyed

variable {α β : Type} [DecidableEq α]

/-- The value under `key`: the first pair of that key. -/
def get? : Keyed α β → α → Option β
  | [], _ => none
  | (k, v) :: rest, key => if k = key then some v else get? rest key

/-- Whether some pair has this key. -/
def has (entries : Keyed α β) (key : α) : Bool := (get? entries key).isSome

/-- The values under a key, in order. -/
def valuesOf (entries : Keyed α β) (key : α) : List β :=
  (entries.filter fun entry => decide (entry.1 = key)).map Prod.snd

/-- The value under a key that may be written once: none if it is repeated,
`some none` if it is absent. -/
def sole? (entries : Keyed α β) (key : α) : Option (Option β) :=
  match valuesOf entries key with
  | [] => some none
  | [value] => some (some value)
  | _ => none

/-- Writes a value: in place where the key exists, else at the end. -/
def set : Keyed α β → α → β → Keyed α β
  | [], key, value => [(key, value)]
  | (k, v) :: rest, key, value =>
    if k = key then (k, value) :: rest else (k, v) :: set rest key value

/-- Drops every pair of the key. -/
def erase (entries : Keyed α β) (key : α) : Keyed α β :=
  entries.filter fun entry => !decide (entry.1 = key)

@[simp] theorem get?_nil (key : α) : get? ([] : Keyed α β) key = none := rfl

/-- After a write the key has the value and every other key is as before. -/
theorem get?_set (entries : Keyed α β) (key other : α) (value : β) :
    get? (set entries key value) other =
      if key = other then some value else get? entries other := by
  induction entries with
  | nil => simp [set, get?]
  | cons entry rest ih =>
    obtain ⟨k, v⟩ := entry
    by_cases h : k = key
    · subst h
      by_cases ho : k = other <;> simp [set, get?, ho]
    · by_cases ho : k = other
      · subst ho
        simp [set, get?, h, Ne.symm h]
      · simp [set, get?, h, ho, ih]

/-- After an erasure the key has no value and every other key is as before. -/
theorem get?_erase (entries : Keyed α β) (key other : α) :
    get? (erase entries key) other = if key = other then none else get? entries other := by
  unfold erase
  induction entries with
  | nil => simp
  | cons entry rest ih =>
    obtain ⟨k, v⟩ := entry
    by_cases h : k = key
    · subst h
      simp only [List.filter_cons, decide_true, Bool.not_true, Bool.false_eq_true, if_false, ih]
      by_cases ho : k = other <;> simp [get?, ho]
    · simp only [List.filter_cons, h, decide_false, Bool.not_false, if_true, get?, ih]
      by_cases ho : k = other
      · subst ho
        simp [Ne.symm h]
      · simp [ho]

/-- What an erasure leaves was there before. -/
theorem get?_of_erase {entries : Keyed α β} {key other : α} {value : β}
    (h : get? (erase entries key) other = some value) : get? entries other = some value := by
  rw [get?_erase] at h
  split at h
  · cases h
  · exact h

/-! ## Lists with one pair for each key -/

/-- No key has two pairs. -/
def Distinct (entries : Keyed α β) : Prop := (entries.map Prod.fst).Nodup

omit [DecidableEq α] in
@[simp] theorem distinct_nil : Distinct ([] : Keyed α β) := List.nodup_nil

/-- A key has a value if some pair is under it. -/
theorem mem_keys_iff (entries : Keyed α β) (key : α) :
    key ∈ entries.map Prod.fst ↔ (get? entries key).isSome := by
  induction entries with
  | nil => simp
  | cons entry rest ih =>
    obtain ⟨k, v⟩ := entry
    by_cases h : k = key
    · simp [get?, h]
    · simp [get?, h, Ne.symm h, ← ih]

/-- With one pair for each key, the value of a key is in its pair and no other. -/
theorem get?_eq_some_iff {entries : Keyed α β} (hd : Distinct entries) (key : α) (value : β) :
    get? entries key = some value ↔ (key, value) ∈ entries := by
  induction entries with
  | nil => simp
  | cons entry rest ih =>
    obtain ⟨k, v⟩ := entry
    obtain ⟨hk, hr⟩ := List.nodup_cons.mp hd
    by_cases h : k = key
    · subst h
      have hn : (k, value) ∉ rest := by
        intro hm
        exact hk (List.mem_map.mpr ⟨(k, value), hm, rfl⟩)
      simp [get?, hn, eq_comm]
    · simp [get?, h, Ne.symm h, ih hr]

/-- What is under a key is in the list. -/
theorem mem_of_get? {entries : Keyed α β} {key : α} {value : β}
    (h : get? entries key = some value) : (key, value) ∈ entries := by
  induction entries with
  | nil => simp at h
  | cons entry rest ih =>
    obtain ⟨k, v⟩ := entry
    by_cases hk : k = key
    · simp_all [get?]
    · exact List.mem_cons_of_mem _ (ih (by simpa [get?, hk] using h))

/-- A write adds its key and no other. -/
theorem mem_keys_set (entries : Keyed α β) (key other : α) (value : β) :
    other ∈ (set entries key value).map Prod.fst ↔ other = key ∨ other ∈ entries.map Prod.fst := by
  rw [mem_keys_iff, mem_keys_iff, get?_set]
  by_cases h : key = other
  · simp [h]
  · simp [h, Ne.symm h]

/-- Setting a value leaves the keys distinct. -/
theorem distinct_set {entries : Keyed α β} (hd : Distinct entries) (key : α) (value : β) :
    Distinct (set entries key value) := by
  induction entries with
  | nil => simp [set, Distinct]
  | cons entry rest ih =>
    obtain ⟨k, v⟩ := entry
    obtain ⟨hk, hr⟩ := List.nodup_cons.mp hd
    by_cases h : k = key
    · simpa [set, h, Distinct] using hd
    · have hn : k ∉ (set rest key value).map Prod.fst := by
        rw [mem_keys_set]
        simp [h, hk]
      rw [set, if_neg h]
      exact List.nodup_cons.mpr ⟨hn, ih hr⟩

omit [DecidableEq α] in
/-- Keys stay distinct when pairs are dropped. -/
theorem distinct_filter {entries : Keyed α β} (hd : Distinct entries) (keep : α × β → Bool) :
    Distinct (entries.filter keep) :=
  List.Sublist.nodup (List.Sublist.map _ List.filter_sublist) hd

/-- Erasing a key leaves the others distinct. -/
theorem distinct_erase {entries : Keyed α β} (hd : Distinct entries) (key : α) :
    Distinct (erase entries key) := distinct_filter hd _

/-- With one pair for each key, the values under the key of a pair are its value alone. -/
theorem valuesOf_of_mem {entries : Keyed α β} (hd : Distinct entries) {key : α} {value : β}
    (hm : (key, value) ∈ entries) : valuesOf entries key = [value] := by
  induction entries with
  | nil => cases hm
  | cons entry rest ih =>
    obtain ⟨hn, hr⟩ := List.nodup_cons.mp hd
    rcases List.mem_cons.mp hm with rfl | hm
    · have hnone : rest.filter (fun entry => decide (entry.1 = key)) = [] := by
        rw [List.filter_eq_nil_iff]
        intro other ho he
        exact hn (List.mem_map.mpr ⟨other, ho, of_decide_eq_true he⟩)
      simp [valuesOf, hnone]
    · have hne : entry.1 ≠ key := by
        rintro rfl
        exact hn (List.mem_map.mpr ⟨_, hm, rfl⟩)
      have hrest : valuesOf rest key = [value] := ih hr hm
      simpa [valuesOf, hne] using hrest

/-- With one pair for each key, the value of a pair is the sole one under its key. -/
theorem sole?_of_mem {entries : Keyed α β} (hd : Distinct entries) {key : α} {value : β}
    (hm : (key, value) ∈ entries) : sole? entries key = some (some value) := by
  rw [sole?, valuesOf_of_mem hd hm]

end Keyed

end PageHost
