import PageHost.Proofs.Url.Refusal
/-!
# Blanks at the end of a URL

The blanks above the space that a text keeps at its end become part of what the text names last:
the host, the path, the query or the fragment. They are written there with percent signs, so a URL
has more of these than the one that is read without the blanks. A domain name does not allow them
at all.
-/

namespace PageHost.Url

open Text

/-- What a reference keeps of the blanks at the end of its text: the last of it is a blank above
the space, and none of it has a part in the grammar of references. -/
structure Overhang (q : List Char) : Prop where
  inert : ∀ c ∈ q, Inert c
  wide : ∃ front w, q = front ++ [w] ∧ isWide w = true

variable {q : List Char}

/-- An overhang begins with an inert character. -/
theorem Overhang.exists_cons (hq : Overhang q) : ∃ c rest, q = c :: rest ∧ Inert c := by
  obtain ⟨front, w, hw, -⟩ := hq.wide
  obtain ⟨c, rest, hsplit⟩ := List.exists_cons_of_ne_nil (l := q) (by simp [hw])
  exact ⟨c, rest, hsplit, hq.inert c (hsplit ▸ List.mem_cons_self)⟩

theorem Overhang.append_ne_nil (hq : Overhang q) (s : List Char) : s ++ q ≠ [] := by
  obtain ⟨c, rest, rfl, -⟩ := hq.exists_cons
  simp

/-- A character that is not inert is not in what hangs over. -/
theorem Overhang.ne_of_mem (hq : Overhang q) {c d : Char} (hc : c ∈ q)
    (hd : 0x20 < d.toNat ∧ d.toNat ≤ 0x7F) : c ≠ d := (hq.inert c hc).ne hd

/-! ## Splitting a text with more at its end -/

section Split

variable {p : Char → Bool} {s t : List Char}

/-- A split stays where it is if it is within the text; else it moves to the end, if all of what is
added goes with the front. -/
theorem split_append (p : Char → Bool) (s : List Char) (ht : ∀ c ∈ t, p c = true) :
    (s.dropWhile p ≠ [] ∧ (s ++ t).takeWhile p = s.takeWhile p ∧
      (s ++ t).dropWhile p = s.dropWhile p ++ t) ∨
    (s.dropWhile p = [] ∧ s.takeWhile p = s ∧ (s ++ t).takeWhile p = s ++ t ∧
      (s ++ t).dropWhile p = []) := by
  have hsplit : s.takeWhile p ++ s.dropWhile p = s := List.takeWhile_append_dropWhile
  by_cases h : s.dropWhile p = []
  · have hall := List.dropWhile_eq_nil_iff.mp h
    have hlonger : ∀ c ∈ s ++ t, p c = true := fun c hc =>
      (List.mem_append.mp hc).elim (hall c) (ht c)
    exact .inr ⟨h, List.takeWhile_eq_self_iff.mpr hall, List.takeWhile_eq_self_iff.mpr hlonger,
      List.dropWhile_eq_nil_iff.mpr hlonger⟩
  · refine .inl ⟨h, ?_, ?_⟩
    · rw [List.takeWhile_append, if_neg]
      intro hlength
      apply h
      rw [(List.takeWhile_prefix p).eq_of_length hlength] at hsplit
      exact List.append_cancel_left (hsplit.trans (List.append_nil s).symm)
    · rw [List.dropWhile_append, if_neg (by simpa using h)]

/-- A split stays where it is if none of what is added goes with the front. -/
theorem split_append_cons {c : Char} (hc : p c = false) :
    (s ++ c :: t).takeWhile p = s.takeWhile p ∧
      (s ++ c :: t).dropWhile p = s.dropWhile p ++ c :: t := by
  have hneg : ¬ p c = true := by simp [hc]
  constructor
  · rw [List.takeWhile_append, List.takeWhile_cons_of_neg hneg, List.append_nil]
    split
    · next hlength => exact ((List.takeWhile_prefix p).eq_of_length hlength).symm
    · rfl
  · rw [List.dropWhile_append, List.dropWhile_cons_of_neg hneg]
    split
    · next hempty => rw [List.isEmpty_iff.mp hempty, List.nil_append]
    · rfl

end Split

/-! ## Percent signs -/

/-- The number of percent signs in a text. -/
def percents (s : List Char) : Nat := s.count '%'

@[simp] theorem percents_nil : percents [] = 0 := rfl

@[simp] theorem percents_append (s t : List Char) : percents (s ++ t) = percents s + percents t :=
  List.count_append

/-- Only percent signs are counted. -/
theorem percents_cons_of_ne {c : Char} (hc : c ≠ '%') (s : List Char) :
    percents (c :: s) = percents s := List.count_cons_of_ne hc

@[simp] theorem percents_slash : percents ['/'] = 0 := by decide

/-- A part of a text has no more percent signs. -/
theorem percents_le_of_sublist {s t : List Char} (h : s.Sublist t) : percents s ≤ percents t :=
  h.count_le '%'

/-- Texts are encoded piece by piece. -/
theorem percentEncode_append (set : Char → Bool) (s t : List Char) :
    percentEncode set (s ++ t) = percentEncode set s ++ percentEncode set t := List.flatMap_append

/-- What is encoded everywhere is encoded in a path. -/
theorem pathSet_of_controlSet (c : Char) (h : controlSet c = true) : pathSet c = true := by
  simp [pathSet, fragmentSet, h]

/-- What hangs over is encoded to its end. -/
theorem exists_percentEncode_eq (hq : Overhang q) (set : Char → Bool)
    (hset : ∀ c, controlSet c = true → set c = true) :
    ∃ front b, percentEncode set q = front ++ encodeByte b ∧ 0x80 ≤ b.toNat := by
  obtain ⟨front, w, rfl, hw⟩ := hq.wide
  obtain ⟨next, later, hbytes, hle, -⟩ := exists_charBytes hw
  have hin : set w = true := by
    apply hset
    have hlt := lt_toNat_of_isWide hw
    simp only [controlSet, Bool.or_eq_true, decide_eq_true_eq]
    omega
  obtain ⟨bytes, b, hlast⟩ : ∃ bytes b, next :: later = bytes ++ [b] :=
    ⟨_, _, (List.dropLast_append_getLast (List.cons_ne_nil next later)).symm⟩
  have hencoded : percentEncode set [w] = bytes.flatMap encodeByte ++ encodeByte b := by
    simp [percentEncode, hin, hbytes, hlast]
  exact ⟨percentEncode set front ++ bytes.flatMap encodeByte, b,
    by rw [percentEncode_append, hencoded, List.append_assoc], hle b (by simp [hlast])⟩

/-- An encoded text has more percent signs with more at its end. -/
theorem percents_encode_lt (hq : Overhang q) (set : Char → Bool)
    (hset : ∀ c, controlSet c = true → set c = true) (s : List Char) :
    percents (percentEncode set s) < percents (percentEncode set (s ++ q)) := by
  obtain ⟨front, b, hencoded, -⟩ := exists_percentEncode_eq hq set hset
  have hsign : 0 < percents (encodeByte b) := List.count_pos_iff.mpr List.mem_cons_self
  rw [percentEncode_append, hencoded, percents_append, percents_append]
  omega

/-! ## What follows a path -/

/-- Whether a text starts with a query or a fragment. -/
def BeginsTail (s : List Char) : Prop := ∃ c rest, s = c :: rest ∧ (c = '?' ∨ c = '#')

/-- The percent signs of a query and a fragment. -/
def tailPercents (tail : Option String × Option String) : Nat :=
  percents (tail.1.getD "").toList + percents (tail.2.getD "").toList

/-- A fragment has the percent signs of its encoding. -/
theorem percents_readFragment (s : List Char) :
    percents (readFragment s).toList = percents (percentEncode fragmentSet s) := by
  rw [readFragment, String.toList_ofList]

/-- An overhang brings a tail more percent signs. It belongs to the fragment if there is one, and
else to the query. -/
theorem tailPercents_lt (hq : Overhang q) (kind : SchemeKind) {s : List Char} (h : BeginsTail s) :
    tailPercents (readTail kind s) < tailPercents (readTail kind (s ++ q)) := by
  have hfragment := percents_encode_lt hq fragmentSet fun c hc => by
    simp [fragmentSet, hc]
  obtain ⟨c, rest, rfl, rfl | rfl⟩ := h
  · rw [List.cons_append, readTail, readTail]
    generalize hset : (if kind.isSpecial then specialQuerySet else querySet) = set
    have hquery := percents_encode_lt hq set fun c hc => by
      subst hset
      cases kind.isSpecial <;> simp [specialQuerySet, querySet, hc]
    have hsign : ∀ c ∈ q, (c != '#') = true := fun c hc =>
      bne_iff_ne.mpr (hq.ne_of_mem hc (by decide))
    obtain ⟨hne, htake, hdrop⟩ | ⟨hnil, hself, htake, hdrop⟩ := split_append (· != '#') rest hsign
    · obtain ⟨sign, fragment, hsplit⟩ := List.exists_cons_of_ne_nil hne
      rw [htake, hdrop, hsplit]
      have hlt := hfragment fragment
      simp only [tailPercents, List.cons_append, List.isEmpty_cons, Bool.false_eq_true, if_false,
        List.drop_one, List.tail_cons, Option.getD_some, percents_readFragment]
      omega
    · rw [htake, hdrop, hnil, hself]
      have hlt := hquery rest
      simp only [tailPercents, List.isEmpty_nil, if_true, Option.getD_some, Option.getD_none,
        String.toList_ofList]
      omega
  · have hlt := hfragment rest
    simp only [tailPercents, List.cons_append, readTail, Option.getD_some, Option.getD_none,
      percents_readFragment]
    omega

/-! ## Segments -/

/-- None of the forms of dots ends with an encoded byte of a character outside ASCII. -/
theorem ne_encodeByte_of_dots {b : UInt8} (hb : 0x80 ≤ b.toNat) (s : List Char) {form : String}
    (hform : form ∈ ["..", "%2e%2e", "%2e.", ".%2e", ".", "%2e"]) :
    form.toList ≠ (s ++ encodeByte b).map Char.toLower := by
  have hforms : ∀ form ∈ ["..", "%2e%2e", "%2e.", ".%2e", ".", "%2e"],
      form.toList.reverse[2]? = some '%' → form.toList.reverse[1]? = some '2' := by decide
  have hdigit : ∀ n < 16, 8 ≤ n → (upperHex n).toLower ≠ '2' := by decide
  intro he
  have hreverse := congrArg List.reverse he
  rw [List.map_append, List.reverse_append] at hreverse
  have hsign : form.toList.reverse[2]? = some '%' := by
    rw [hreverse]
    rfl
  have htwo := hforms form hform hsign
  rw [hreverse] at htwo
  have hlt : b.toNat < 256 := b.toNat_lt
  exact hdigit (b.toNat / 16) (by omega) (by omega) (Option.some.inj htwo)

/-- A segment with more at its end does not stand for another path. -/
theorem isDoubleDot_append {b : UInt8} (hb : 0x80 ≤ b.toNat) (s : List Char) :
    isDoubleDot (s ++ encodeByte b) = false := by
  rw [isDoubleDot, List.any_eq_false]
  intro form hform he
  refine ne_encodeByte_of_dots hb s ?_ (beq_iff_eq.mp he)
  exact List.mem_append_left [".", "%2e"] hform

/-- A segment that ends with an encoded byte is no single dot. -/
theorem isSingleDot_append {b : UInt8} (hb : 0x80 ≤ b.toNat) (s : List Char) :
    isSingleDot (s ++ encodeByte b) = false := by
  rw [isSingleDot, List.any_eq_false]
  intro form hform he
  refine ne_encodeByte_of_dots hb s ?_ (beq_iff_eq.mp he)
  exact List.mem_append_right ["..", "%2e%2e", "%2e.", ".%2e"] hform

/-- A path that is cut at its last slash has no more percent signs. -/
theorem percents_uptoLastSlash_le (path : List Char) :
    percents (uptoLastSlash path) ≤ percents path :=
  percents_le_of_sublist (List.rdropWhile_prefix _ path).sublist

theorem percents_dropSegment_le (kind : SchemeKind) (path : List Char) :
    percents (dropSegment kind path) ≤ percents path := by
  unfold dropSegment
  split
  · exact Nat.le_refl _
  · exact percents_uptoLastSlash_le path

/-- The path of the parent has no more percent signs. -/
theorem percents_parentPath_le (kind : SchemeKind) (path : List Char) :
    percents (parentPath kind path) ≤ percents path := by
  unfold parentPath
  refine Nat.le_trans (percents_dropSegment_le kind _) ?_
  split
  · exact percents_le_of_sublist (List.dropLast_sublist path)
  · exact Nat.le_refl _

/-- A slash at the end is no percent sign. -/
@[simp] theorem percents_closeSlash (path : List Char) :
    percents (closeSlash path) = percents path := by
  unfold closeSlash
  split
  · rfl
  · rw [percents_append, percents_slash, Nat.add_zero]

@[simp] theorem percents_singleSlash (path : List Char) :
    percents (singleSlash path) = percents path := by
  have hslashes : percents (path.takeWhile (· == '/')) = 0 := by
    rw [percents, List.count_eq_zero]
    intro hm
    have hslash := List.mem_takeWhile_imp hm
    cases hslash
  have hsplit := congrArg percents (List.takeWhile_append_dropWhile (p := (· == '/')) (l := path))
  rw [percents_append, hslashes, Nat.zero_add] at hsplit
  rw [singleSlash, percents_cons_of_ne (by decide), hsplit]

/-- A segment changes the path read so far in one of three ways: dots remove from it or leave it,
two characters may be a drive letter, and anything else is added as it is. -/
theorem addSegment_cases (kind : SchemeKind) (state : PathState) (raw : List Char)
    (ending : SegmentEnd) :
    ((isDoubleDot (percentEncode pathSet raw) = true ∨
        isSingleDot (percentEncode pathSet raw) = true) ∧
      (addSegment kind state raw ending).sawDrive = state.sawDrive ∧
      percents (addSegment kind state raw ending).path ≤ percents state.path) ∨
    ((percentEncode pathSet raw).length = 2 ∧
      (addSegment kind state raw ending).sawDrive = true ∧
      percents (addSegment kind state raw ending).path ≤
        percents state.path + percents (percentEncode pathSet raw)) ∨
    ((addSegment kind state raw ending).sawDrive = state.sawDrive ∧
      percents (addSegment kind state raw ending).path =
        percents state.path + percents (percentEncode pathSet raw)) := by
  unfold addSegment
  dsimp only
  generalize hbase : (if (decide (kind = .file) && isNormalDrive (state.path.drop 1) &&
    !raw.isEmpty) = true then state.path ++ ['/'] else state.path) = base
  generalize hslash : (if ending = .separator then ['/'] else []) = slash
  generalize percentEncode pathSet raw = segment
  have hpath : percents base = percents state.path := by
    subst hbase
    split <;> simp
  have hnone : percents slash = 0 := by
    subst hslash
    split <;> simp
  have hadded : percents (base ++ segment ++ slash) = percents state.path + percents segment := by
    rw [percents_append, percents_append, hpath, hnone, Nat.add_zero]
  split
  · next hdouble =>
    refine .inl ⟨.inl hdouble, rfl, ?_⟩
    have hup := hpath ▸ percents_parentPath_le kind base
    dsimp only
    split
    · rwa [percents_closeSlash]
    · exact hup
  · split
    · next hsingle => exact .inl ⟨.inr hsingle, rfl, by rw [percents_closeSlash, hpath]⟩
    · split
      · next letter other _ _ =>
        split
        · refine .inr (.inl ⟨rfl, rfl, ?_⟩)
          have hletter : percents [letter] ≤ percents [letter, other] :=
            percents_le_of_sublist (by simp)
          have hcolon : percents (letter :: ':' :: slash) =
              percents [letter] + percents slash := by
            rw [← percents_cons_of_ne (c := ':') (by decide) slash, ← percents_append]
            rfl
          rw [percents_append, hcolon, hpath, hnone]
          omega
        · exact .inr (.inr ⟨rfl, hadded⟩)
      · exact .inr (.inr ⟨rfl, hadded⟩)

/-- A segment adds at most its own percent signs. -/
theorem percents_addSegment_le (kind : SchemeKind) (state : PathState) (raw : List Char)
    (ending : SegmentEnd) : percents (addSegment kind state raw ending).path ≤
      percents state.path + percents (percentEncode pathSet raw) := by
  obtain ⟨-, -, hle⟩ | ⟨-, -, hle⟩ | ⟨-, he⟩ := addSegment_cases kind state raw ending <;> omega

/-- A drive that was seen stays seen. -/
theorem sawDrive_addSegment (kind : SchemeKind) (state : PathState) (raw : List Char)
    (ending : SegmentEnd) (h : state.sawDrive = true) :
    (addSegment kind state raw ending).sawDrive = true := by
  obtain ⟨-, he, -⟩ | ⟨-, he, -⟩ | ⟨he, -⟩ := addSegment_cases kind state raw ending
  · rw [he, h]
  · exact he
  · rw [he, h]

/-- A segment with more at its end is added as it is. -/
theorem addSegment_append (hq : Overhang q) (kind : SchemeKind) (state : PathState)
    (raw : List Char) : (addSegment kind state (raw ++ q) .pathEnd).sawDrive = state.sawDrive ∧
      percents (addSegment kind state (raw ++ q) .pathEnd).path =
        percents state.path + percents (percentEncode pathSet (raw ++ q)) := by
  obtain ⟨front, b, hencoded, hb⟩ := exists_percentEncode_eq hq pathSet pathSet_of_controlSet
  have hsegment : percentEncode pathSet (raw ++ q) =
      percentEncode pathSet raw ++ front ++ encodeByte b := by
    rw [percentEncode_append, hencoded, List.append_assoc]
  obtain ⟨hdots, -⟩ | ⟨hlength, -⟩ | h := addSegment_cases kind state (raw ++ q) .pathEnd
  · rw [hsegment, isDoubleDot_append hb, isSingleDot_append hb] at hdots
    simp at hdots
  · rw [hsegment, List.length_append] at hlength
    have hthree : (encodeByte b).length = 3 := rfl
    omega
  · exact h

/-! ## Paths -/

/-- An inert character separates no segments. -/
theorem isSeparator_of_inert {c : Char} (hc : Inert c) (kind : SchemeKind) :
    isSeparator kind c = false := by
  simp [isSeparator, hc.ne (d := '/') (by decide), hc.ne (d := '\\') (by decide)]

/-- What hangs over has no character that ends a segment. -/
theorem takeSegment_overhang (hq : ∀ c ∈ q, Inert c) (kind : SchemeKind) :
    takeSegment kind q = (q, .pathEnd, []) := by
  induction q with
  | nil => rfl
  | cons c rest ih =>
    have hc := hq c List.mem_cons_self
    rw [takeSegment, isSeparator_of_inert hc, if_neg Bool.false_ne_true,
      if_neg (by simp [hc.ne (d := '?') (by decide), hc.ne (d := '#') (by decide)]),
      ih fun d hd => hq d (List.mem_cons_of_mem c hd)]

/-- A segment is the same with more at the end of the text, unless it goes to the end. -/
theorem takeSegment_append (hq : ∀ c ∈ q, Inert c) (kind : SchemeKind) (s : List Char) :
    ((takeSegment kind s).2 = (.pathEnd, []) ∧
      takeSegment kind (s ++ q) = ((takeSegment kind s).1 ++ q, .pathEnd, [])) ∨
    (((takeSegment kind s).2.1 = .separator ∨ BeginsTail (takeSegment kind s).2.2) ∧
      takeSegment kind (s ++ q) = ((takeSegment kind s).1, (takeSegment kind s).2.1,
        (takeSegment kind s).2.2 ++ q)) := by
  induction s with
  | nil => exact .inl ⟨rfl, takeSegment_overhang hq kind⟩
  | cons c rest ih =>
    rw [List.cons_append, takeSegment, takeSegment]
    split
    · exact .inr ⟨.inl rfl, rfl⟩
    · split
      · next hc => exact .inr ⟨.inr ⟨c, rest, rfl, hc⟩, rfl⟩
      · dsimp only
        rcases ih with ⟨hend, hlonger⟩ | ⟨hend, hlonger⟩
        · exact .inl ⟨hend, by rw [hlonger]; rfl⟩
        · exact .inr ⟨hend, by rw [hlonger]⟩

/-- How what is read of a path changes with more at the end of the text: only what follows the path
changes, if anything does, and else the path has more percent signs. -/
inductive PathGrowth (q : List Char) : PathState × List Char → PathState × List Char → Prop where
  | tail {state : PathState} {tail : List Char} (h : BeginsTail tail) :
      PathGrowth q (state, tail) (state, tail ++ q)
  | path {state longer : PathState} (hmore : percents state.path < percents longer.path)
      (hdrive : longer.sawDrive = true → state.sawDrive = true) :
      PathGrowth q (state, []) (longer, [])

/-- Segments with an overhang make a path grow. -/
theorem pathGrowth_addSegments (hq : Overhang q) (kind : SchemeKind) (state : PathState)
    (s : List Char) :
    PathGrowth q (addSegments kind state s) (addSegments kind state (s ++ q)) := by
  fun_induction addSegments kind state s with
  | case1 state s piece next hseparator ih =>
    rcases takeSegment_append hq.inert kind s with ⟨hend, -⟩ | ⟨-, hlonger⟩
    · have hnot : piece.2.1 = .pathEnd := congrArg Prod.fst hend
      rw [hnot] at hseparator
      cases hseparator
    · rw [addSegments.eq_def kind state (s ++ q), hlonger]
      dsimp only
      rw [dif_pos hseparator]
      exact ih
  | case2 state s piece next hseparator =>
    rw [addSegments.eq_def kind state (s ++ q)]
    rcases takeSegment_append hq.inert kind s with ⟨hend, hlonger⟩ | ⟨hend, hlonger⟩
    · rw [hlonger]
      dsimp only
      rw [dif_neg nofun]
      have hpath : piece.2.2 = [] := congrArg Prod.snd hend
      obtain ⟨hdrive, hpercents⟩ := addSegment_append hq kind state piece.1
      rw [hpath]
      refine .path ?_ fun h => sawDrive_addSegment kind state _ _ (hdrive ▸ h)
      have hle : percents next.path ≤
          percents state.path + percents (percentEncode pathSet piece.1) :=
        percents_addSegment_le kind state piece.1 piece.2.1
      have hlt := percents_encode_lt hq pathSet pathSet_of_controlSet piece.1
      show percents next.path < percents (addSegment kind state (piece.1 ++ q) .pathEnd).path
      omega
    · rw [hlonger]
      dsimp only
      rw [dif_neg hseparator]
      exact .tail (hend.resolve_left hseparator)

/-- A path that is read with an overhang has grown. -/
theorem pathGrowth_readPath (hq : Overhang q) (kind : SchemeKind) (start s : List Char) :
    PathGrowth q (readPath kind start s) (readPath kind start (s ++ q)) := by
  have h := pathGrowth_addSegments hq kind ⟨start, false⟩ s
  unfold readPath
  generalize addSegments kind ⟨start, false⟩ s = before at h ⊢
  generalize addSegments kind ⟨start, false⟩ (s ++ q) = after at h ⊢
  cases h with
  | tail h => 
    dsimp only
    split
    · exact .tail h
    · exact .tail h
  | path hmore hdrive =>
    dsimp only
    split
    · exact .path (by simpa using hmore) hdrive
    · exact .path hmore hdrive

end PageHost.Url
