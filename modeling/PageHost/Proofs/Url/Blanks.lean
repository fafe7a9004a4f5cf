import Mathlib.Data.List.DropRight
import PageHost.Url.Reference
/-!
# Blanks around a reference

What is trimmed from a text by its blanks and what a reference loses at its ends are not the same:
a reference loses all up to the space, control characters included, and keeps the blanks above the
space. So to trim the blanks of a text first makes no difference to the reference unless a blank
above the space is among them. Before a URL there can be none, since a URL begins with its scheme.
After a URL they are part of it.
-/

namespace PageHost

namespace Text

/-! ## Trimming -/

variable {p : Char → Bool} {s t : List Char}

/-- Characters that are all dropped make no difference at the end. -/
theorem rdropWhile_append_of_all (h : ∀ c ∈ t, p c = true) :
    (s ++ t).rdropWhile p = s.rdropWhile p := by
  rw [List.rdropWhile, List.reverse_append, List.dropWhile_append_of_pos, List.rdropWhile]
  exact fun c hc => h c (List.mem_reverse.mp hc)

/-- What is taken from the end of a text is taken from the end of a longer one. -/
theorem mem_rtakeWhile_append {c : Char} (h : c ∈ t.rtakeWhile p) :
    c ∈ (s ++ t).rtakeWhile p := by
  rw [List.rtakeWhile, List.mem_reverse] at h ⊢
  rw [List.reverse_append, List.takeWhile_append]
  split
  · exact List.mem_append_left _ ((List.takeWhile_sublist p).mem h)
  · exact h

/-- What is taken from the end ends at a character that is not taken. -/
theorem rtakeWhile_append_of_mem {c : Char} (hm : c ∈ t) (hc : p c = false) :
    (s ++ t).rtakeWhile p = t.rtakeWhile p := by
  rw [List.rtakeWhile, List.reverse_append, List.takeWhile_append, if_neg, List.rtakeWhile]
  intro hlength
  have hall := (List.takeWhile_prefix p).eq_of_length hlength
  have hpos : p c = true := List.takeWhile_eq_self_iff.mp hall c (List.mem_reverse.mpr hm)
  rw [hc] at hpos
  cases hpos

/-- A text that begins with a character to be kept still begins with it. -/
theorem exists_rdropWhile_cons {c : Char} (hc : p c = false) (s : List Char) :
    ∃ rest, (c :: s).rdropWhile p = c :: rest := by
  obtain ⟨dropped, hsplit⟩ := List.rdropWhile_prefix p (c :: s)
  cases hr : (c :: s).rdropWhile p with
  | nil =>
    have hpos := List.rdropWhile_eq_nil_iff.mp hr c List.mem_cons_self
    rw [hc] at hpos
    cases hpos
  | cons d rest =>
    rw [hr] at hsplit
    cases hsplit
    exact ⟨rest, rfl⟩

/-- Characters that are all trimmed make no difference at the front. -/
theorem trimBoth_of_all_append (h : ∀ c ∈ s, p c = true) :
    trimBoth p (s ++ t) = trimBoth p t := by
  rw [trimBoth, List.dropWhile_append_of_pos h, trimBoth]

theorem trimBoth_append_of_all (h : ∀ c ∈ t, p c = true) :
    trimBoth p (s ++ t) = trimBoth p s := by
  show ((s ++ t).dropWhile p).rdropWhile p = (s.dropWhile p).rdropWhile p
  rw [List.dropWhile_append]
  split
  · next hempty =>
    rw [List.isEmpty_iff.mp hempty, List.dropWhile_eq_nil_iff.mpr h]
  · exact rdropWhile_append_of_all h

/-- Where the last character stays, nothing is trimmed from that end: what the front loses at its
own end when it stands alone stays between it and the rest. -/
theorem exists_trimBoth_append {c : Char} (hc : p c = false) :
    ∃ q, trimBoth p (s ++ t ++ [c]) = trimBoth p s ++ (q ++ [c]) ∧
      ∀ d ∈ q, p d = true ∨ d ∈ t := by
  show ∃ q, ((s ++ t ++ [c]).dropWhile p).rdropWhile p =
    (s.dropWhile p).rdropWhile p ++ (q ++ [c]) ∧ ∀ d ∈ q, p d = true ∨ d ∈ t
  have hneg : ¬ p c = true := by simp [hc]
  rw [List.append_assoc, List.dropWhile_append]
  split
  · next hempty =>
    refine ⟨t.dropWhile p, ?_, fun d hd => .inr ((List.dropWhile_sublist p).mem hd)⟩
    have hlater : (t ++ [c]).dropWhile p = t.dropWhile p ++ [c] := by
      rw [List.dropWhile_append]
      split
      · next hnone => simp [List.isEmpty_iff.mp hnone, hc]
      · rfl
    rw [hlater, List.rdropWhile_concat_neg p _ c hneg, List.isEmpty_iff.mp hempty]
    rfl
  · refine ⟨(s.dropWhile p).rtakeWhile p ++ t, ?_, fun d hd => ?_⟩
    · rw [← List.append_assoc, List.rdropWhile_concat_neg p _ c hneg, ← List.append_assoc,
        ← List.append_assoc, List.rdropWhile_append_rtakeWhile]
    · exact (List.mem_append.mp hd).imp_left List.mem_rtakeWhile_imp

/-! ## Blanks above the space -/

/-- Whether a character is a blank above the space. -/
def isWide (c : Char) : Bool := isBlank c && decide (0x20 < c.toNat)

/-- The blanks above the space. -/
def wideBlanks : List Nat :=
  [0x85, 0xA0, 0x1680, 0x2000, 0x2001, 0x2002, 0x2003, 0x2004, 0x2005, 0x2006, 0x2007, 0x2008,
    0x2009, 0x200A, 0x2028, 0x2029, 0x202F, 0x205F, 0x3000]

/-- The blanks above the space are those of the list. -/
theorem toNat_mem_of_isWide {c : Char} (h : isWide c = true) : c.toNat ∈ wideBlanks := by
  simp only [isWide, isBlank, Bool.and_eq_true, Bool.or_eq_true, decide_eq_true_eq,
    beq_iff_eq] at h
  simp only [wideBlanks, List.mem_cons, List.not_mem_nil, or_false]
  omega

/-- The blanks above the space are outside ASCII. -/
theorem lt_toNat_of_isWide {c : Char} (h : isWide c = true) : 0x7F < c.toNat := by
  have hall : ∀ n ∈ wideBlanks, 0x7F < n := by decide
  exact hall _ (toNat_mem_of_isWide h)

/-- A blank is wide when it is not at or below the space. -/
theorem isWide_of_isBlank {c : Char} (hb : isBlank c = true) (hc : ¬ c.toNat ≤ 0x20) :
    isWide c = true := by
  simpa [isWide, hb] using hc

/-- Of the blanks at the front of a text none is above the space. -/
def BeginsPlain (text : String) : Prop := ∀ c ∈ text.toList.takeWhile isBlank, c.toNat ≤ 0x20

/-- Of the blanks at the end of a text none is above the space. -/
def EndsPlain (text : String) : Prop := ∀ c ∈ text.toList.rtakeWhile isBlank, c.toNat ≤ 0x20

instance (text : String) : Decidable (BeginsPlain text) :=
  List.decidableBAll (fun c : Char => c.toNat ≤ 0x20) (text.toList.takeWhile isBlank)

instance (text : String) : Decidable (EndsPlain text) :=
  List.decidableBAll (fun c : Char => c.toNat ≤ 0x20) (text.toList.rtakeWhile isBlank)

end Text

namespace Url

open Text

/-- Whether a reference loses a character at its ends. -/
def isFaint (c : Char) : Bool := decide (c.toNat ≤ 0x20)

/-- Whether a reference keeps a character wherever it stands between its ends. -/
def counts (c : Char) : Bool := !(c == '\t' || c == '\n' || c == '\r')

/-- What a parser reads is the trimmed text without tabs and line ends. -/
theorem significant_eq (text : String) :
    significant text = (trimBoth isFaint text.toList).filter counts := rfl

/-- Characters above the space count. -/
theorem counts_of_lt {c : Char} (h : 0x20 < c.toNat) : counts c = true := by
  have hne : ∀ d : Char, d.toNat ≤ 0x20 → c ≠ d := by
    rintro d hd rfl
    omega
  simp [counts, hne '\t' (by decide), hne '\n' (by decide), hne '\r' (by decide)]

/-- What trimming the blanks of a text takes away, and which of it a reference loses anyway. -/
theorem exists_blanks_around (text : String) : ∃ before after,
    text.toList = before ++ ((trimBlanks text).toList ++ after) ∧
    (∀ c ∈ after, isBlank c = true) ∧ (BeginsPlain text ↔ ∀ c ∈ before, isFaint c = true) ∧
    (BeginsPlain text → (EndsPlain text ↔ ∀ c ∈ after, isFaint c = true)) := by
  have hsplit : text.toList.takeWhile isBlank ++ text.toList.dropWhile isBlank = text.toList :=
    List.takeWhile_append_dropWhile
  have hcore : (trimBlanks text).toList = (text.toList.dropWhile isBlank).rdropWhile isBlank :=
    String.toList_ofList
  have hbegin : BeginsPlain text ↔ ∀ c ∈ text.toList.takeWhile isBlank, isFaint c = true := by
    simp only [BeginsPlain, isFaint, decide_eq_true_eq]
  refine ⟨_, (text.toList.dropWhile isBlank).rtakeWhile isBlank, ?_,
    fun c => List.mem_rtakeWhile_imp, hbegin, fun hb => ?_⟩
  · rw [hcore, List.rdropWhile_append_rtakeWhile, hsplit]
  · have hend : EndsPlain text ↔ ∀ c ∈ text.toList.rtakeWhile isBlank, isFaint c = true := by
      simp only [EndsPlain, isFaint, decide_eq_true_eq]
    rw [hend]
    constructor
    · intro he c hc
      apply he c
      rw [← hsplit]
      exact mem_rtakeWhile_append hc
    · intro he c hc
      cases hrest : text.toList.dropWhile isBlank with
      | nil =>
        rw [hrest, List.append_nil] at hsplit
        apply hbegin.mp hb c
        rw [hsplit]
        exact (List.rtakeWhile_suffix isBlank _).mem hc
      | cons d rest =>
        have hd : isBlank d = false := by
          have hhead := List.head?_dropWhile_not isBlank text.toList
          rw [hrest] at hhead
          simpa using hhead
        have hm : d ∈ text.toList.dropWhile isBlank := hrest ▸ List.mem_cons_self
        rw [← hsplit, rtakeWhile_append_of_mem hm hd] at hc
        exact he c hc

/-- Blanks around a text do not matter to the reference if none of them is above the space. -/
theorem significant_trimBlanks {text : String} (hb : BeginsPlain text) (he : EndsPlain text) :
    significant (trimBlanks text) = significant text := by
  obtain ⟨before, after, hsplit, -, hbefore, hafter⟩ := exists_blanks_around text
  rw [significant_eq, significant_eq, hsplit, trimBoth_of_all_append (hbefore.mp hb),
    trimBoth_append_of_all ((hafter hb).mp he)]

/-- A character without a part in the grammar of references: a control character, the space or one
outside ASCII. -/
def Inert (c : Char) : Prop := c.toNat ≤ 0x20 ∨ 0x7F < c.toNat

/-- An inert character is none of the printable ASCII ones. -/
theorem Inert.ne {c : Char} (h : Inert c) {d : Char} (hd : 0x20 < d.toNat ∧ d.toNat ≤ 0x7F) :
    c ≠ d := by
  rintro rfl
  unfold Inert at h
  omega

/-- An inert character is neither letter nor digit. -/
theorem Inert.isAlphanum {c : Char} (h : Inert c) : c.isAlphanum = false := by
  have hn : c.val.toNat ≤ 0x20 ∨ 0x7F < c.val.toNat := h
  have hupper : c.isUpper = false := decide_eq_false fun ⟨hlow, hhigh⟩ => by
    have hlow : 0x41 ≤ c.val.toNat := UInt32.le_iff_toNat_le.mp hlow
    have hhigh : c.val.toNat ≤ 0x5A := UInt32.le_iff_toNat_le.mp hhigh
    omega
  have hrange : ∀ low high : UInt32, 0x20 < low.toNat → high.toNat ≤ 0x7F →
      (decide (low ≤ c.val) && decide (c.val ≤ high)) = false := by
    intro low high hlow hhigh
    rw [Bool.and_eq_false_iff, decide_eq_false_iff_not, decide_eq_false_iff_not,
      UInt32.le_iff_toNat_le, UInt32.le_iff_toNat_le]
    omega
  have hlower : c.isLower = false := hrange 'a'.val 'z'.val (by decide) (by decide)
  have hdigit : c.isDigit = false := hrange '0'.val '9'.val (by decide) (by decide)
  show ((c.isUpper || c.isLower) || c.isDigit) = false
  rw [hupper, hlower, hdigit]
  rfl

theorem inert_of_isWide {c : Char} (h : isWide c = true) : Inert c := .inr (lt_toNat_of_isWide h)

/-- A reference to which blanks at the end of its text belong is what is left of it without them,
and more, the last of which is a blank above the space. -/
theorem exists_significant_eq_append {text : String} (hb : BeginsPlain text)
    (he : ¬ EndsPlain text) : ∃ q w, isWide w = true ∧
      (∀ c ∈ q, Inert c) ∧
      significant text = significant (trimBlanks text) ++ (q ++ [w]) := by
  obtain ⟨before, after, hsplit, hblank, hbefore, hafter⟩ := exists_blanks_around text
  have hne : after.rdropWhile isFaint ≠ [] :=
    mt List.rdropWhile_eq_nil_iff.mp (mt (hafter hb).mpr he)
  obtain ⟨kept, w, hkept⟩ : ∃ kept w, after.rdropWhile isFaint = kept ++ [w] :=
    ⟨_, _, (List.dropLast_append_getLast hne).symm⟩
  have hw : isFaint w = false := by
    have hlast := List.rdropWhile_last_not isFaint after hne
    simpa [hkept] using hlast
  have hparts : after = kept ++ [w] ++ after.rtakeWhile isFaint := by
    rw [← hkept, List.rdropWhile_append_rtakeWhile]
  have hwide : ∀ c, c ∈ kept ++ [w] → isFaint c = false → isWide c = true := by
    intro c hc hfaint
    apply isWide_of_isBlank (hblank c (hparts ▸ List.mem_append_left _ hc))
    simpa [isFaint] using hfaint
  obtain ⟨q, hq, hmem⟩ := exists_trimBoth_append (s := (trimBlanks text).toList) (t := kept) hw
  have htrim : trimBoth isFaint text.toList =
      trimBoth isFaint (trimBlanks text).toList ++ (q ++ [w]) := by
    have hregroup : text.toList = before ++ ((trimBlanks text).toList ++ kept ++ [w] ++
        after.rtakeWhile isFaint) := by
      rw [hsplit, List.append_assoc _ kept, List.append_assoc _ (kept ++ [w]), ← hparts]
    rw [hregroup, trimBoth_of_all_append (hbefore.mp hb),
      trimBoth_append_of_all fun c => List.mem_rtakeWhile_imp, hq]
  have hcounts : counts w = true := counts_of_lt (by simpa [isFaint] using hw)
  refine ⟨q.filter counts, w, hwide w (by simp) hw, fun c hc => ?_, ?_⟩
  · by_cases hfaint : isFaint c = true
    · exact .inl (by simpa [isFaint] using hfaint)
    · have hkeptc := (hmem c (List.mem_of_mem_filter hc)).resolve_left hfaint
      exact inert_of_isWide (hwide c (List.mem_append_left _ hkeptc) (by simpa using hfaint))
  · rw [significant_eq, significant_eq, htrim, List.filter_append, List.filter_append,
      List.filter_singleton, hcounts]
    rfl

/-! ## What stands before a URL -/

/-- No scheme begins with an inert character. -/
theorem takeScheme?_of_inert {c : Char} (hc : Inert c) (rest : List Char) :
    takeScheme? (c :: rest) = none := by
  have hname : (c :: rest).takeWhile
      (fun c => c.isAlphanum || c == '+' || c == '-' || c == '.') = [] := by
    rw [List.takeWhile_cons_of_neg]
    simp [hc.isAlphanum, hc.ne (d := '+') (by decide), hc.ne (d := '-') (by decide),
      hc.ne (d := '.') (by decide)]
  unfold takeScheme?
  rw [hname]

/-- A reference keeps the first blank above the space, if only such characters stand before it as
a reference loses. -/
theorem exists_significant_eq_cons {text : String} (hb : ¬ BeginsPlain text) :
    ∃ w rest, isWide w = true ∧ significant text = w :: rest := by
  have hsplit : text.toList.takeWhile isBlank ++ text.toList.dropWhile isBlank = text.toList :=
    List.takeWhile_append_dropWhile
  have hblank : ∀ c ∈ text.toList.takeWhile isBlank, isBlank c = true := fun c =>
    List.mem_takeWhile_imp
  have hne : (text.toList.takeWhile isBlank).dropWhile isFaint ≠ [] := by
    intro hnil
    apply hb
    simpa [BeginsPlain, isFaint] using List.dropWhile_eq_nil_iff.mp hnil
  generalize text.toList.takeWhile isBlank = blanks at hsplit hblank hne
  obtain ⟨w, more, hmore⟩ := List.exists_cons_of_ne_nil hne
  have hw : isFaint w = false := by
    have hhead := List.head?_dropWhile_not isFaint blanks
    rw [hmore] at hhead
    simpa using hhead
  have hm : w ∈ blanks := (List.dropWhile_sublist isFaint).mem (hmore ▸ List.mem_cons_self)
  have hparts : blanks.takeWhile isFaint ++ (w :: more ++ text.toList.dropWhile isBlank) =
      text.toList := by
    rw [← List.append_assoc, ← hmore, List.takeWhile_append_dropWhile, hsplit]
  obtain ⟨rest, hrest⟩ := exists_rdropWhile_cons hw (more ++ text.toList.dropWhile isBlank)
  have htrim : trimBoth isFaint text.toList = w :: rest := by
    rw [← hparts, trimBoth_of_all_append fun c => List.mem_takeWhile_imp, List.cons_append,
      ← hrest]
    show ((w :: _).dropWhile isFaint).rdropWhile isFaint = _
    rw [List.dropWhile_cons_of_neg (by simp [hw])]
  refine ⟨w, rest.filter counts, isWide_of_isBlank (hblank w hm) (by simpa [isFaint] using hw), ?_⟩
  rw [significant_eq, htrim, List.filter_cons_of_pos]
  exact counts_of_lt (by simpa [isFaint] using hw)

/-- A text that is read without a base begins with a scheme, and so with no blank above the
space. -/
theorem beginsPlain_of_parse {text : String} {url : Url} (h : parse text = .ok url) :
    BeginsPlain text := by
  by_contra hb
  obtain ⟨w, rest, hw, hs⟩ := exists_significant_eq_cons hb
  have hread : parse text = .error .relativeWithoutBase := by
    rw [parse, readReference, hs, takeScheme?_of_inert (inert_of_isWide hw)]
    rfl
  rw [hread] at h
  cases h

end Url

end PageHost
