import PageHost.Url.Reference
/-!
# The fragment of a URL

Whatever a URL is read from, its fragment has nothing left to encode: it was read as a fragment,
or comes from the base, whose fragment was. So the fragment of a URL, read again, is the same, and
as a reference against the URL leads to the URL itself. So does the empty reference, when there is
no fragment.
-/

namespace PageHost.Url

/-! ## Encoded text -/

/-- A text in which a fragment leaves nothing to encode. -/
def Encoded (s : List Char) : Prop := ∀ c ∈ s, fragmentSet c = false

/-- Hexadecimal digits are not encoded in a fragment. -/
theorem fragmentSet_upperHex : ∀ n < 16, fragmentSet (upperHex n) = false := by decide

/-- An encoded byte is encoded. -/
theorem encoded_encodeByte (b : UInt8) : Encoded (encodeByte b) := by
  have hb : b.toNat < 256 := b.toNat_lt
  have hhigh := fragmentSet_upperHex (b.toNat / 16) (by omega)
  have hlow := fragmentSet_upperHex (b.toNat % 16) (by omega)
  intro c hm
  simp only [encodeByte, List.mem_cons, List.not_mem_nil, or_false] at hm
  obtain rfl | rfl | rfl := hm
  · decide
  · exact hhigh
  · exact hlow

/-- What is encoded as a fragment is encoded. -/
theorem encoded_percentEncode (s : List Char) : Encoded (percentEncode fragmentSet s) := by
  intro c hm
  obtain ⟨d, -, hc⟩ := List.mem_flatMap.mp hm
  by_cases hd : fragmentSet d = true
  · rw [if_pos hd] at hc
    obtain ⟨b, -, hb⟩ := List.mem_flatMap.mp hc
    exact encoded_encodeByte b c hb
  · rw [if_neg hd] at hc
    rw [List.mem_singleton.mp hc]
    simpa using hd

/-- What is encoded stays as it is. -/
theorem Encoded.percentEncode_eq {s : List Char} (h : Encoded s) :
    percentEncode fragmentSet s = s := by
  induction s with
  | nil => rfl
  | cons c rest ih =>
    have hc : fragmentSet c = false := h c List.mem_cons_self
    have hrest := ih fun d hd => h d (List.mem_cons_of_mem _ hd)
    rw [percentEncode, List.flatMap_cons, ← percentEncode, hrest, hc]
    rfl

/-- All of an encoded text lies above the space. -/
theorem lt_toNat_of_fragmentSet {c : Char} (h : fragmentSet c = false) : 0x20 < c.toNat := by
  have hne : c.toNat ≠ 0x20 := by
    intro he
    have hspace : c = ' ' := Char.toNat_inj.mp he
    subst hspace
    exact absurd h (by decide)
  simp only [fragmentSet, controlSet, Bool.or_eq_false_iff, decide_eq_false_iff_not] at h
  omega

/-- All of an encoded text counts in a reference. -/
theorem Encoded.significant_eq {s : List Char} (h : Encoded s) :
    significant (String.ofList s) = s := by
  have hkept : ∀ c ∈ s, 0x20 < c.toNat := fun c hm => lt_toNat_of_fragmentSet (h c hm)
  have hends : ∀ t : List Char, (∀ c ∈ t, 0x20 < c.toNat) →
      t.dropWhile (fun c => c.toNat ≤ 0x20) = t := by
    intro t ht
    cases t with
    | nil => rfl
    | cons c rest =>
      have hc : 0x20 < c.toNat := ht c List.mem_cons_self
      rw [List.dropWhile_cons_of_neg (by simpa using hc)]
  have htrim : Text.trimBoth (fun c => c.toNat ≤ 0x20) s = s := by
    rw [Text.trimBoth, hends s hkept, hends s.reverse fun c hm => hkept c (List.mem_reverse.mp hm),
      List.reverse_reverse]
  rw [significant, String.toList_ofList, htrim, List.filter_eq_self]
  intro c hm
  have hc : 0x20 < c.toNat := hkept c hm
  have hne : ∀ d : Char, d.toNat ≤ 0x20 → c ≠ d := by
    rintro d hd rfl
    omega
  simp [hne '\t' (by decide), hne '\n' (by decide), hne '\r' (by decide)]

/-! ## What is read has an encoded fragment -/

/-- A URL without a fragment, or with an encoded one. -/
def Tidy (url : Url) : Prop := ∀ fragment, url.fragment = some fragment → Encoded fragment.toList

variable {base url : Url} {s : List Char}

/-- A fragment that is read is encoded. -/
theorem encoded_readFragment (s : List Char) : Encoded (readFragment s).toList := by
  rw [readFragment, String.toList_ofList]
  exact encoded_percentEncode s

/-- A URL without a fragment is tidy. -/
theorem tidy_withoutFragment (base : Url) : base.withoutFragment.Tidy := nofun

theorem tidy_withFragment (base : Url) (s : List Char) : (base.withFragment s).Tidy := by
  rintro _ ⟨⟩
  exact encoded_readFragment s

/-- A URL with a tail that is read is tidy. -/
theorem tidy_withTail (scheme : String) (authority : Option Authority) (path tail : List Char) :
    (withTail scheme authority path tail).Tidy := by
  intro fragment hf
  have hread : (readTail (schemeKind scheme) tail).2 = some fragment := hf
  unfold readTail at hread
  split at hread
  · next rest =>
    dsimp only at hread
    split at hread
    · cases hread
    · rw [← Option.some.inj hread]
      exact encoded_readFragment _
  · rw [← Option.some.inj hread]
    exact encoded_readFragment _
  · cases hread

theorem tidy_withPath (scheme : String) (authority : Option Authority) (start s : List Char) :
    (withPath scheme authority start s).Tidy := tidy_withTail _ _ _ _

theorem tidy_afterAuthority (scheme : String) (authority : Authority) (s : List Char) :
    (afterAuthority scheme authority s).Tidy := by
  unfold afterAuthority
  dsimp only
  split
  · exact tidy_withPath _ _ _ _
  · split
    · exact tidy_withTail _ _ _ _
    · exact tidy_withTail _ _ _ _
    · exact tidy_withTail _ _ _ _
    · exact tidy_withPath _ _ _ _
    · exact tidy_withPath _ _ _ _

/-- What is read after two slashes is tidy. -/
theorem tidy_of_afterSlashes {scheme : String} (h : afterSlashes scheme s = .ok url) :
    url.Tidy := by
  unfold afterSlashes at h
  cases ha : takeAuthority scheme s with
  | error e =>
    rw [ha] at h
    cases h
  | ok taken =>
    rw [ha] at h
    cases h
    exact tidy_afterAuthority _ _ _

/-- What is read relative to a base is tidy. -/
theorem tidy_of_readRelative (h : readRelative base s = .ok url) : url.Tidy := by
  unfold readRelative at h
  split at h
  · cases h
    exact tidy_withoutFragment base
  · cases h
    exact tidy_withTail _ _ _ _
  · cases h
    exact tidy_withFragment base _
  · split at h
    · split at h
      · exact tidy_of_afterSlashes h
      · split at h
        · exact tidy_of_afterSlashes h
        · cases h
          exact tidy_withPath _ _ _ _
    · cases h
      exact tidy_withPath _ _ _ _

theorem tidy_readRooted (base : Option Url) (s : List Char) : (readRooted base s).Tidy := by
  unfold readRooted
  dsimp only
  split
  · exact tidy_withPath _ _ _ _
  · split
    · exact tidy_withPath _ _ _ _
    · split
      · exact tidy_withPath _ _ _ _
      · exact tidy_withPath _ _ _ _

theorem tidy_readInFolder (base : Option Url) (s : List Char) :
    (readFile.readInFolder base s).Tidy := by
  unfold readFile.readInFolder
  split
  · exact tidy_withPath _ _ _ _
  · split
    · exact tidy_withoutFragment _
    · exact tidy_withTail _ _ _ _
    · exact tidy_withFragment _ _
    · split
      · exact tidy_withPath _ _ _ _
      · exact tidy_withPath _ _ _ _

/-- A file URL that is read is tidy. -/
theorem tidy_of_readFile {base : Option Url} (h : readFile base s = .ok url) : url.Tidy := by
  unfold readFile at h
  split at h
  · split at h
    · split at h
      · cases h
      · split at h
        · cases h
          exact tidy_withPath _ _ _ _
        · cases h
          exact tidy_afterAuthority _ _ _
    · split at h
      · cases h
        exact tidy_readRooted _ _
      · cases h
        exact tidy_readInFolder _ _
  · split at h
    · cases h
      exact tidy_readRooted _ _
    · cases h
      exact tidy_readInFolder _ _
  · cases h
    exact tidy_readInFolder _ _

theorem tidy_of_readOther {scheme : String} (h : readOther scheme s = .ok url) : url.Tidy := by
  unfold readOther at h
  split at h
  · exact tidy_of_afterSlashes h
  · cases h
    exact tidy_withPath _ _ _ _
  · cases h
    exact tidy_withTail _ _ _ _

theorem tidy_of_readAfterScheme {base : Option Url} {scheme : String}
    (h : readAfterScheme base scheme s = .ok url) : url.Tidy := by
  unfold readAfterScheme at h
  dsimp only at h
  split at h
  · exact tidy_of_readFile h
  · exact tidy_of_readOther h
  · split at h
    · split at h
      · exact tidy_of_readRelative h
      · exact tidy_of_afterSlashes h
    · exact tidy_of_afterSlashes h

theorem tidy_of_readWithoutScheme {base : Option Url} (h : readWithoutScheme base s = .ok url) :
    url.Tidy := by
  unfold readWithoutScheme at h
  split at h
  · cases h
  · split at h
    · cases h
      exact tidy_withFragment _ _
    · split at h
      · cases h
      · split at h
        · exact tidy_of_readFile h
        · exact tidy_of_readRelative h

/-- Whatever is read has no fragment, or an encoded one. -/
theorem tidy_of_readReference {base : Option Url} {reference : String}
    (h : readReference base reference = .ok url) : url.Tidy := by
  unfold readReference at h
  dsimp only at h
  split at h
  · exact tidy_of_readAfterScheme h
  · exact tidy_of_readWithoutScheme h

/-! ## References from a URL to itself -/

/-- The empty reference leads to a URL without a fragment itself, unless its path is opaque. -/
theorem join_empty (hf : url.fragment = none) (ho : url.isOpaque = false) :
    url.join "" = .ok url := by
  have hself : url.withoutFragment = url := by rw [withoutFragment, ← hf]
  have hread : url.join "" =
      if url.isOpaque then .error .relativeWithOpaqueBase
      else if url.kind = .file then readFile (some url) [] else readRelative url [] := rfl
  rw [hread, ho, if_neg Bool.false_ne_true]
  split
  · exact congrArg Except.ok hself
  · exact congrArg Except.ok hself

/-- The fragment of a tidy URL leads to the URL itself. -/
theorem Tidy.join_fragment (ht : url.Tidy) {fragment : String} (hf : url.fragment = some fragment) :
    url.join ("#" ++ fragment) = .ok url := by
  have hencoded : Encoded fragment.toList := ht fragment hf
  have hself : url.withFragment fragment.toList = url := by
    rw [withFragment, readFragment, hencoded.percentEncode_eq, String.ofList_toList, ← hf]
  have hsign : Encoded ('#' :: fragment.toList) := by
    intro c hm
    rcases List.mem_cons.mp hm with rfl | hm
    · decide
    · exact hencoded c hm
  have hchars : "#" ++ fragment = String.ofList ('#' :: fragment.toList) := by
    rw [← String.toList_inj]
    simp
  calc url.join ("#" ++ fragment)
      = readReference (some url) (String.ofList ('#' :: fragment.toList)) := by rw [join, hchars]
    _ = readWithoutScheme (some url) ('#' :: fragment.toList) := by
      rw [readReference, hsign.significant_eq]
      rfl
    _ = .ok (url.withFragment fragment.toList) := rfl
    _ = .ok url := congrArg Except.ok hself

end PageHost.Url
