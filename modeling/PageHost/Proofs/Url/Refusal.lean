import Mathlib.Data.Option.Basic
import PageHost.Proofs.Url.Blanks
/-!
# Blanks at the end of a domain name

No domain name ends with a blank above the space. Such a blank is refused or becomes a space. The
space stays at the end when the name is composed and split into labels, where it is no digit of an
encoded label; so it is found in the ASCII form, which has no spaces.
-/

namespace PageHost.Url

open Text

/-! ## Reading the bytes -/

/-- Bytes of characters outside ASCII are no digits. -/
theorem hexValue?_of_le {b : UInt8} (h : 0x80 ≤ b.toNat) : hexValue? b = none := by
  unfold hexValue?
  rw [if_neg (by omega), if_neg (by omega), if_neg (by omega)]

/-- A byte stays as it is unless it is a percent sign and two digits follow. -/
theorem percentDecode_cons {b : UInt8} {rest : List UInt8}
    (h : ∀ high low tail, b.toNat = 37 → rest = high :: low :: tail →
      hexValue? high = none ∨ hexValue? low = none) :
    percentDecode (b :: rest) = b :: percentDecode rest := by
  match rest, h with
  | [], _ => rfl
  | [_], _ => rfl
  | high :: low :: tail, h =>
    rw [percentDecode]
    by_cases hb : b.toNat = 37
    · rw [if_pos hb]
      rcases h high low tail hb rfl with hnone | hnone
      · rw [hnone]
      · rw [hnone]
        cases hexValue? high <;> rfl
    · rw [if_neg hb]

/-- Bytes outside ASCII are decoded as they are. -/
theorem percentDecode_of_le {bytes : List UInt8} (h : ∀ b ∈ bytes, 0x80 ≤ b.toNat) :
    percentDecode bytes = bytes := by
  induction bytes with
  | nil => rfl
  | cons b rest ih =>
    have hb : 0x80 ≤ b.toNat := h b List.mem_cons_self
    rw [percentDecode_cons fun _ _ _ hp => by omega, ih fun c hc => h c (List.mem_cons_of_mem b hc)]

/-- Bytes of characters outside ASCII stay as they are, whatever stands before them. -/
theorem percentDecode_append {bytes later : List UInt8} (h : ∀ b ∈ later, 0x80 ≤ b.toNat) :
    percentDecode (bytes ++ later) = percentDecode bytes ++ later := by
  fun_induction percentDecode bytes with
  | case1 => exact percentDecode_of_le h
  | case2 b high low tail x y hlow hhigh ih =>
    rw [List.cons_append, List.cons_append, List.cons_append, percentDecode, hhigh, hlow]
    exact congrArg _ ih
  | case3 b high low tail hdigits ih =>
    rw [List.cons_append, percentDecode_cons, ih]
    · rfl
    · intro high' low' tail' hb he
      cases he
      by_contra hboth
      obtain ⟨hhigh, hlow⟩ := not_or.mp hboth
      obtain ⟨x, hx⟩ := Option.ne_none_iff_exists'.mp hhigh
      obtain ⟨y, hy⟩ := Option.ne_none_iff_exists'.mp hlow
      exact hdigits x y (by rw [if_pos hb, hx]) hy
  | case4 b rest hshort ih =>
    rw [List.cons_append, percentDecode_cons, ih]
    · rfl
    · intro high low tail _ he
      match rest, hshort, he with
      | [], _, he => exact .inr (hexValue?_of_le (h low (by simp_all)))
      | [_], _, he => exact .inr (hexValue?_of_le (h low (by simp_all)))
      | c :: d :: more, hshort, _ => exact (hshort c d more rfl).elim

/-- Where no byte that goes on with a character follows, a character is read to its end before
that. -/
theorem readContinuation_append {next : UInt8} {later : List UInt8}
    (hnext : isContinuation next = false) {count value : Nat} {bytes rest : List UInt8} {c : Char}
    (h : readContinuation count value (bytes ++ next :: later) = .char c rest) :
    ∃ left, rest = left ++ next :: later ∧ left.length ≤ bytes.length := by
  induction count generalizing value bytes with
  | zero =>
    cases h
    exact ⟨bytes, rfl, Nat.le_refl _⟩
  | succ count ih =>
    cases bytes with
    | nil => simp [readContinuation, hnext] at h
    | cons b more =>
      rw [List.cons_append, readContinuation] at h
      split at h
      · obtain ⟨left, rfl, hle⟩ := ih h
        exact ⟨left, rfl, Nat.le_succ_of_le hle⟩
      · cases h

/-- The second byte of a character is a continuation byte. -/
theorem secondByteRange_bounds (lead : UInt8) :
    0x80 ≤ (secondByteRange lead).1 ∧ (secondByteRange lead).2 ≤ 0xBF := by
  unfold secondByteRange
  split_ifs <;> decide

/-- The same for a character from its first byte on. -/
theorem utf8Step_append {next : UInt8} {later : List UInt8}
    (hnext : isContinuation next = false) {b : UInt8} {bytes rest : List UInt8} {c : Char}
    (h : utf8Step b (bytes ++ next :: later) = .char c rest) :
    ∃ left, rest = left ++ next :: later ∧ left.length ≤ bytes.length := by
  have hrange := secondByteRange_bounds b
  unfold utf8Step at h
  split at h
  · cases h
    exact ⟨bytes, rfl, Nat.le_refl _⟩
  · dsimp only at h
    generalize continuationCount b = count at h
    cases count with
    | zero => cases h
    | succ count =>
      cases bytes with
      | nil =>
        rw [List.nil_append] at h
        dsimp only at h
        split at h
        · next hin =>
          rw [Bool.and_eq_true, decide_eq_true_eq, decide_eq_true_eq] at hin
          have hyes : isContinuation next = true := by
            rw [isContinuation, Bool.and_eq_true, decide_eq_true_eq, decide_eq_true_eq]
            exact ⟨UInt8.le_trans hrange.1 hin.1, UInt8.le_trans hin.2 hrange.2⟩
          rw [hyes] at hnext
          cases hnext
        · cases h
      | cons second more =>
        rw [List.cons_append] at h
        dsimp only at h
        split at h
        · obtain ⟨left, rfl, hle⟩ := readContinuation_append hnext h
          exact ⟨left, rfl, Nat.le_succ_of_le hle⟩
        · cases h

deriving instance DecidableEq for Utf8Step

/-- A blank above the space as bytes: none of them is ASCII, the first begins a character, and
together they are read back as the blank. -/
theorem exists_charBytes {w : Char} (hw : isWide w = true) : ∃ next later,
    charBytes w = next :: later ∧ (∀ b ∈ next :: later, 0x80 ≤ b.toNat) ∧
      isContinuation next = false ∧ utf8Step next later = .char w [] := by
  have hall : ∀ n ∈ wideBlanks, charBytes (Char.ofNat n) ≠ [] ∧
      (∀ b ∈ charBytes (Char.ofNat n), 0x80 ≤ b.toNat) ∧
      isContinuation ((charBytes (Char.ofNat n)).headD 0) = false ∧
      utf8Step ((charBytes (Char.ofNat n)).headD 0) (charBytes (Char.ofNat n)).tail =
        .char (Char.ofNat n) [] := by decide +kernel
  have hbytes := hall w.toNat (toNat_mem_of_isWide hw)
  rw [Char.ofNat_toNat] at hbytes
  obtain ⟨hne, hrest⟩ := hbytes
  obtain ⟨next, later, hsplit⟩ := List.exists_cons_of_ne_nil hne
  rw [hsplit] at hrest
  exact ⟨next, later, hsplit, hrest⟩

/-- What is decoded from bytes that end with a blank above the space ends with that blank. -/
theorem exists_decodeSteps {w : Char} (hw : isWide w = true) {fuel : Nat} {bytes : List UInt8}
    (hl : (bytes ++ charBytes w).length ≤ fuel) {chars : List Char}
    (h : (decodeSteps fuel (bytes ++ charBytes w)).mapM id = some chars) :
    ∃ front, chars = front ++ [w] := by
  obtain ⟨next, later, hsplit, -, hnext, hread⟩ := exists_charBytes hw
  rw [hsplit] at hl h
  induction fuel generalizing bytes chars with
  | zero => simp at hl
  | succ fuel ih =>
    cases bytes with
    | nil =>
      have hnone : decodeSteps fuel [] = [] := by cases fuel <;> rfl
      rw [List.nil_append, decodeSteps, hread] at h
      dsimp only at h
      rw [hnone] at h
      cases h
      exact ⟨[], rfl⟩
    | cons b more =>
      rw [List.cons_append, decodeSteps] at h
      cases hstep : utf8Step b (more ++ next :: later) with
      | malformed rest =>
        rw [hstep] at h
        cases h
      | char c rest =>
        obtain ⟨left, rfl, hle⟩ := utf8Step_append hnext hstep
        rw [hstep] at h
        dsimp only at h
        rw [List.mapM_cons] at h
        obtain ⟨d, hd, hlater⟩ := Option.bind_eq_some_iff.mp h
        obtain ⟨out, hout, hchars⟩ := Option.bind_eq_some_iff.mp hlater
        cases hd
        cases hchars
        have hshorter : (left ++ next :: later).length ≤ fuel := by
          simp only [List.length_append, List.length_cons] at hl ⊢
          omega
        obtain ⟨front, rfl⟩ := ih hout hshorter
        exact ⟨c :: front, rfl⟩

/-- The name of a host, given in the characters of a reference, ends with the blank above the space
with which the characters end. -/
theorem exists_decodeUtf8? {s : List Char} {w : Char} (hw : isWide w = true) {name : String}
    (h : decodeUtf8? (percentDecode (utf8Bytes (s ++ [w]))) = some name) :
    ∃ front, name.toList = front ++ [w] := by
  obtain ⟨next, later, hsplit, hle, -⟩ := exists_charBytes hw
  have hbytes : percentDecode (utf8Bytes (s ++ [w])) =
      percentDecode (utf8Bytes s) ++ charBytes w := by
    have hlast : utf8Bytes (s ++ [w]) = utf8Bytes s ++ charBytes w := by simp [utf8Bytes]
    rw [hlast, percentDecode_append fun b hb => hle b (hsplit ▸ hb)]
  rw [hbytes] at h
  obtain ⟨chars, hchars, rfl⟩ := Option.map_eq_some_iff.mp h
  obtain ⟨front, rfl⟩ := exists_decodeSteps hw (Nat.le_refl _) hchars
  exact ⟨front, String.toList_ofList⟩

/-! ## Composing -/

namespace Domain

/-- A blank above the space is refused or becomes the space. -/
theorem prepare?_of_wide {n : Nat} (h : n ∈ wideBlanks) :
    prepare? n = none ∨ prepare? n = some [0x20] := by
  revert n
  decide +kernel

/-- No composed character has the space for its second part. -/
theorem compose?_space (letter : Nat) : compose? letter 0x20 = none := by
  have hsyllable : syllable? letter 0x20 = none := by
    unfold syllable?
    rw [if_neg (by omega), if_neg (by omega)]
  have hsecond : composites.all (fun entry => entry.2.2 != 0x20) = true := by decide +kernel
  rw [compose?, hsyllable]
  dsimp only
  rw [Option.map_eq_none_iff, List.find?_eq_none]
  intro entry hm
  have hne := List.all_eq_true.mp hsecond entry hm
  simp only [bne_iff_ne, ne_eq] at hne
  simp [hne]

/-- The space stays at the end of what is composed. -/
theorem composeAfter_space (letter : Nat) (between ns : List Nat) :
    ∃ front, composeAfter letter between (ns ++ [0x20]) = front ++ [0x20] := by
  induction ns generalizing letter between with
  | nil =>
    refine ⟨letter :: between.reverse, ?_⟩
    have hclass : combiningClass 0x20 = 0 := rfl
    rw [List.nil_append, composeAfter.eq_def]
    simp only [compose?_space, ite_self, hclass, if_pos]
    rw [composeAfter]
    rfl
  | cons n ns ih =>
    rw [List.cons_append, composeAfter.eq_def]
    dsimp only
    split
    · exact ih _ _
    · split
      · obtain ⟨front, hfront⟩ := ih n []
        exact ⟨letter :: between.reverse ++ front, by rw [hfront, List.append_assoc]⟩
      · exact ih _ _

/-- A space at the end stays when marks are composed. -/
theorem composeMarks_space (ns : List Nat) :
    ∃ front, composeMarks (ns ++ [0x20]) = front ++ [0x20] := by
  induction ns with
  | nil => exact ⟨[], rfl⟩
  | cons n ns ih =>
    rw [List.cons_append, composeMarks]
    split
    · exact composeAfter_space n [] ns
    · obtain ⟨front, hfront⟩ := ih
      exact ⟨n :: front, congrArg (n :: ·) hfront⟩

theorem composed_space (ns : List Nat) : ∃ front, composed (ns ++ [0x20]) = front ++ [0x20] := by
  have hparts : (ns ++ [0x20]).flatMap parts = ns.flatMap parts ++ [0x20] := by
    rw [List.flatMap_append]
    rfl
  have horder : ∀ ms : List Nat, ∃ front, orderMarks (ms ++ [0x20]) = front ++ [0x20] := by
    intro ms
    have hbehind : ∀ before, placeBehind 0x20 before = 0x20 :: before := by
      intro before
      cases before with
      | nil => rfl
      | cons m rest => rw [placeBehind, if_neg (fun h => h.1 rfl)]
    refine ⟨orderMarks ms, ?_⟩
    rw [orderMarks, List.foldl_append, List.foldl_cons, List.foldl_nil, hbehind,
      List.reverse_cons, orderMarks]
  obtain ⟨front, hfront⟩ := horder (ns.flatMap parts)
  rw [composed, hparts, hfront]
  exact composeMarks_space front

/-! ## Labels -/

/-- The last piece of a text ends as the text does. -/
theorem exists_splitAll_append (separator c : Char) (hc : c ≠ separator) (s : List Char) :
    ∃ pieces piece, splitAll separator (s ++ [c]) = pieces ++ [piece ++ [c]] := by
  induction s with
  | nil =>
    refine ⟨[], [], ?_⟩
    rw [List.nil_append, splitAll, if_neg hc]
    rfl
  | cons d s ih =>
    obtain ⟨pieces, piece, hsplit⟩ := ih
    rw [List.cons_append, splitAll, hsplit]
    split
    · exact ⟨[] :: pieces, piece, rfl⟩
    · cases pieces with
      | nil => exact ⟨[], d :: piece, rfl⟩
      | cons first pieces => exact ⟨(d :: first) :: pieces, piece, rfl⟩

theorem exists_of_mapM_append {α β : Type} {f : α → Option β} {as : List α} {a : α}
    {bs : List β} (h : (as ++ [a]).mapM f = some bs) :
    ∃ front b, f a = some b ∧ bs = front ++ [b] := by
  rw [List.mapM_append] at h
  obtain ⟨front, -, hlater⟩ := Option.bind_eq_some_iff.mp h
  obtain ⟨later, hlast, hbs⟩ := Option.bind_eq_some_iff.mp hlater
  rw [List.mapM_cons, List.mapM_nil] at hlast
  obtain ⟨b, hb, hnil⟩ := Option.bind_eq_some_iff.mp hlast
  cases hnil
  cases hbs
  exact ⟨front, b, hb, rfl⟩

/-- The space is no digit of an encoded number. -/
theorem mem_of_readNumber? {bias k weight sum n : Nat} {s rest : List Char}
    (h : readNumber? bias k weight sum s = some (n, rest)) (hm : ' ' ∈ s) : ' ' ∈ rest := by
  induction s generalizing k weight sum with
  | nil => cases hm
  | cons c s ih =>
    rw [readNumber?] at h
    obtain ⟨d, hd, h⟩ := Option.bind_eq_some_iff.mp h
    have hne : ' ' ≠ c := by
      rintro rfl
      cases hd
    have hm := (List.mem_cons.mp hm).resolve_left hne
    dsimp only at h
    split at h
    · cases h
      exact hm
    · exact ih h hm

/-- Digits with a space among them are refused. -/
theorem readNumbers?_of_mem {fuel value place bias : Nat} {placed : List Nat} {s : List Char}
    (hm : ' ' ∈ s) : readNumbers? fuel value place bias placed s = none := by
  induction fuel generalizing value place bias placed s with
  | zero =>
    cases s with
    | nil => cases hm
    | cons c s => rfl
  | succ fuel ih =>
    cases s with
    | nil => cases hm
    | cons c s =>
      rw [readNumbers?.eq_def]
      dsimp only
      cases hread : readNumber? bias 36 1 0 (c :: s) with
      | none => rfl
      | some taken =>
        obtain ⟨delta, rest⟩ := taken
        have hrest := mem_of_readNumber? hread hm
        simp only [Option.bind_eq_bind, Option.bind_some, ih hrest, Option.bind_fun_none]

/-- A label that ends with a space cannot be decoded. -/
theorem decodeLabel?_space (s : List Char) : decodeLabel? (s ++ [' ']) = none := by
  have hm : ' ' ∈ ((s ++ [' ']).reverse.takeWhile (· != '-')).reverse := by simp
  unfold decodeLabel?
  dsimp only
  simp only [readNumbers?_of_mem hm, Option.bind_eq_bind, Option.bind_fun_none]

/-- What comes after a prefix is the rest of the text. -/
theorem eq_append_of_after? {lead s rest : List Char} (h : after? lead s = some rest) :
    s = lead ++ rest := by
  induction lead generalizing s with
  | nil =>
    cases h
    rfl
  | cons c lead ih =>
    cases s with
    | nil => cases h
    | cons d s =>
      rw [after?] at h
      split at h
      · next he => rw [he, ih h, List.cons_append]
      · cases h

/-- A label with a space at its end is not encoded. -/
theorem mem_of_decoded? {piece : List Char} {ns : List Nat}
    (h : decoded? (piece ++ [' ']) = some ns) : 0x20 ∈ ns := by
  unfold decoded? at h
  split at h
  · cases h
    simp
  · next text htext =>
    have hlabel := eq_append_of_after? htext
    obtain ⟨front, hfront⟩ : ∃ front, text = front ++ [' '] := by
      rcases List.eq_nil_or_concat text with rfl | ⟨front, last, rfl⟩
      · rw [List.append_nil] at hlabel
        have hlast := congrArg List.getLast? hlabel
        rw [List.getLast?_concat] at hlast
        cases hlast
      · rw [List.concat_eq_append, ← List.append_assoc] at hlabel
        obtain ⟨-, hlast⟩ := List.append_inj' hlabel rfl
        exact ⟨front, by rw [List.concat_eq_append, hlast]⟩
    rw [hfront, decodeLabel?_space] at h
    cases h

/-- A space in a label is still there in ASCII. -/
theorem mem_asciiLabel {ns : List Nat} (h : 0x20 ∈ ns) : ' ' ∈ asciiLabel ns := by
  unfold asciiLabel
  split
  · exact List.mem_map.mpr ⟨0x20, h, rfl⟩
  · unfold encodeLabel
    have hplain : 0x20 ∈ ns.filter (· < firstEncoded) := List.mem_filter.mpr ⟨h, by decide⟩
    simp only [List.mem_append]
    exact .inr (.inl (.inl (List.mem_map.mpr ⟨0x20, hplain, rfl⟩)))

/-- A character of the last piece is in the joined text. -/
theorem mem_intercalate_concat {c : Char} {last : List Char} (h : c ∈ last)
    (pieces : List (List Char)) : c ∈ List.intercalate ['.'] (pieces ++ [last]) := by
  induction pieces with
  | nil => rwa [List.nil_append, List.intercalate_singleton]
  | cons piece pieces ih =>
    rw [List.cons_append, List.intercalate_cons_of_ne_nil (by simp)]
    exact List.mem_append_right _ ih

/-- A prepared name that ended with a blank above the space has a space. -/
theorem mem_of_prepared? {front ascii : List Char} {w : Char} (hw : isWide w = true)
    (h : prepared? (front ++ [w]) = some ascii) : ' ' ∈ ascii := by
  unfold prepared? at h
  obtain ⟨ns, hns, h⟩ := Option.bind_eq_some_iff.mp h
  obtain ⟨decoded, hdecoded, h⟩ := Option.bind_eq_some_iff.mp h
  obtain ⟨-, -, h⟩ := Option.bind_eq_some_iff.mp h
  obtain ⟨-, -, h⟩ := Option.bind_eq_some_iff.mp h
  cases h
  obtain ⟨before, space, hspace, rfl⟩ := exists_of_mapM_append hns
  have hbecomes : space = [0x20] := by
    rcases prepare?_of_wide (toNat_mem_of_isWide hw) with hnone | hsome
    · rw [hnone] at hspace
      cases hspace
    · rw [hsome] at hspace
      cases hspace
      rfl
  obtain ⟨kept, hkept⟩ := composed_space before.flatten
  obtain ⟨pieces, piece, hpieces⟩ :=
    exists_splitAll_append '.' ' ' (by decide) (kept.map Char.ofNat)
  have hlabels : labels ((composed (before ++ [space]).flatten).map Char.ofNat) =
      pieces ++ [piece ++ [' ']] := by
    rw [hbecomes, List.flatten_concat, hkept, List.map_append]
    exact hpieces
  rw [hlabels] at hdecoded
  obtain ⟨others, last, hlast, rfl⟩ := exists_of_mapM_append hdecoded
  rw [List.map_append]
  exact mem_intercalate_concat (mem_asciiLabel (mem_of_decoded? hlast)) _

end Domain

/-! ## Hosts -/

/-- No domain name ends with a blank above the space. -/
theorem domainToAscii?_of_wide {w : Char} (hw : isWide w = true) (s : List Char) :
    domainToAscii? (percentDecode (utf8Bytes (s ++ [w]))) = none := by
  cases h : domainToAscii? (percentDecode (utf8Bytes (s ++ [w]))) with
  | none => rfl
  | some ascii =>
    unfold domainToAscii? at h
    obtain ⟨name, hname, h⟩ := Option.bind_eq_some_iff.mp h
    obtain ⟨front, hfront⟩ := exists_decodeUtf8? hw hname
    rw [hfront] at h
    have hplain : Domain.isPlain (front ++ [w]) = false := by
      have hascii : isAscii w = false := by
        have hlt := lt_toNat_of_isWide hw
        simp only [isAscii, decide_eq_false_iff_not]
        omega
      simp [Domain.isPlain, hascii]
    dsimp only at h
    rw [hplain, if_neg Bool.false_ne_true] at h
    obtain ⟨kept, hkept, h⟩ := Option.bind_eq_some_iff.mp h
    obtain ⟨_, hallowed, -⟩ := Option.bind_eq_some_iff.mp h
    have hall := (Option.guard_eq_some' ()).mp hallowed
    have hspace := List.all_eq_true.mp hall ' ' (Domain.mem_of_prepared? hw hkept)
    cases hspace

/-- An address in brackets does not end with a blank above the space. -/
theorem Host.readBracketed_of_wide {w : Char} (hw : isWide w = true) {s rest : List Char}
    (h : s ++ [w] = '[' :: rest) : Host.readBracketed rest = .error .invalidEightPieces := by
  have hbracket : w ≠ ']' := (inert_of_isWide hw).ne (by decide)
  rw [readBracketed, if_neg]
  intro hlast
  have hend := congrArg List.getLast? h
  rw [List.getLast?_concat, List.getLast?_cons, hlast] at hend
  cases hend
  exact hbracket rfl

/-- No host of a special scheme ends with a blank above the space. -/
theorem Host.read_of_wide {w : Char} (hw : isWide w = true) (s : List Char) (host : Host) :
    Host.read (s ++ [w]) ≠ .ok host := by
  intro h
  unfold Host.read at h
  split at h
  · next hsplit =>
    rw [readBracketed_of_wide hw hsplit] at h
    cases h
  · rw [domainToAscii?_of_wide hw] at h
    cases h

end PageHost.Url
