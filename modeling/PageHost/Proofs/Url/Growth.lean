import PageHost.Proofs.Url.Overhang
/-!
# A URL read with blanks at its end

Reader by reader: with more at the end of its text a URL has more percent signs, or the text names
none. So a text that keeps blanks at its end names another URL than the text without them.
-/

namespace PageHost.Url

open Text

variable {q : List Char}

/-- The host of an authority as it is written. -/
def hostText (authority : Option Authority) : List Char :=
  (authority.map fun a => a.host.text).getD []

/-- The percent signs of a URL but for its user name and password. -/
def weight (url : Url) : Nat :=
  percents (hostText url.authority) + percents url.path.toList +
    tailPercents (url.query, url.fragment)

/-- A URL weighs what its host, its path and its tail weigh. -/
theorem weight_withTail (scheme : String) (authority : Option Authority) (path tail : List Char) :
    weight (withTail scheme authority path tail) =
      percents (hostText authority) + percents path +
        tailPercents (readTail (schemeKind scheme) tail) := by
  simp [weight, withTail]

theorem weight_withTail_lt (hq : Overhang q) (scheme : String) (authority : Option Authority)
    (path : List Char) {tail : List Char} (h : BeginsTail tail) :
    weight (withTail scheme authority path tail) <
      weight (withTail scheme authority path (tail ++ q)) := by
  rw [weight_withTail, weight_withTail]
  have hlt := tailPercents_lt hq (schemeKind scheme) h
  omega

/-- An overhang makes what is read from a path heavier. A drive letter that is one only without the
overhang leaves no host, which weighs nothing. -/
theorem weight_withPath_lt (hq : Overhang q) (scheme : String) (authority : Option Authority)
    (start s : List Char) :
    weight (withPath scheme authority start s) <
      weight (withPath scheme authority start (s ++ q)) := by
  have hgrowth := pathGrowth_readPath hq (schemeKind scheme) start s
  unfold withPath
  generalize readPath (schemeKind scheme) start s = before at hgrowth ⊢
  generalize readPath (schemeKind scheme) start (s ++ q) = after at hgrowth ⊢
  cases hgrowth with
  | tail h => exact weight_withTail_lt hq scheme _ _ h
  | @path state longer hmore hdrive =>
    dsimp only
    rw [weight_withTail, weight_withTail]
    have hhost : percents (hostText (if state.sawDrive = true then
        authority.map fun _ => Authority.ofHost .empty else authority)) ≤
        percents (hostText (if longer.sawDrive = true then
          authority.map fun _ => Authority.ofHost .empty else authority)) := by
      have hnone : percents (hostText (authority.map fun _ => Authority.ofHost .empty)) = 0 := by
        cases authority <;> rfl
      cases hd : longer.sawDrive with
      | true => rw [hdrive hd]
      | false =>
        rw [if_neg Bool.false_ne_true]
        split
        · rw [hnone]
          exact Nat.zero_le _
        · exact Nat.le_refl _
    omega

/-! ## Authorities -/

/-- An inert character does not end an authority. -/
theorem endsAuthority_of_inert {c : Char} (hc : Inert c) (kind : SchemeKind) :
    endsAuthority kind c = false := by
  simp [endsAuthority, isSeparator_of_inert hc, hc.ne (d := '?') (by decide),
    hc.ne (d := '#') (by decide)]

/-- The last at sign of an authority is where it was with more at the end. -/
theorem splitAtLastAt?_append (hq : Overhang q) (kind : SchemeKind) (s : List Char) :
    splitAtLastAt? kind (s ++ q) =
      (splitAtLastAt? kind s).map fun parts => (parts.1, parts.2 ++ q) := by
  have hends : ∀ c ∈ q, (!endsAuthority kind c) = true := fun c hc => by
    rw [endsAuthority_of_inert (hq.inert c hc)]
    rfl
  have hprefix : (s.takeWhile fun c => !endsAuthority kind c).length ≤ s.length :=
    (List.takeWhile_sublist _).length_le
  have hcut : ∀ (authority : List Char) (host : Nat), authority.contains '@' = true →
      authority.length ≤ s.length →
      (s ++ q).take (authority.length - host - 1) = s.take (authority.length - host - 1) ∧
        (s ++ q).drop (authority.length - host - 1 + 1) =
          s.drop (authority.length - host - 1 + 1) ++ q := by
    intro authority host hat hle
    have hpos := List.length_pos_of_mem (List.contains_iff_mem.mp hat)
    exact ⟨List.take_append_of_le_length (by omega), List.drop_append_of_le_length (by omega)⟩
  unfold splitAtLastAt?
  dsimp only
  obtain ⟨-, htake, -⟩ | ⟨-, hself, htake, -⟩ :=
    split_append (fun c => !endsAuthority kind c) s hends
  · rw [htake]
    split
    · next hat =>
      obtain ⟨hbefore, hafter⟩ := hcut _ _ hat hprefix
      rw [hbefore, hafter]
      rfl
    · rfl
  · rw [htake, hself]
    have hsigns : ∀ c ∈ q.reverse, (c != '@') = true := fun c hc =>
      bne_iff_ne.mpr (hq.ne_of_mem (List.mem_reverse.mp hc) (by decide))
    have hsame : (s ++ q).contains '@' = s.contains '@' := by
      have hnone : '@' ∉ q := fun hm => hq.ne_of_mem hm (by decide) rfl
      simp [hnone]
    have hlength : (s ++ q).length - ((s ++ q).reverse.takeWhile (· != '@')).reverse.length =
        s.length - (s.reverse.takeWhile (· != '@')).reverse.length := by
      rw [List.reverse_append, List.takeWhile_append_of_pos hsigns]
      simp only [List.length_append, List.length_reverse]
      omega
    rw [hsame, hlength]
    split
    · next hat =>
      obtain ⟨hbefore, hafter⟩ := hcut s _ hat (Nat.le_refl _)
      rw [hbefore, hafter]
      rfl
    · rfl

/-- The credentials of an authority are the same with more at its end. -/
theorem takeCredentials_append (hq : Overhang q) (kind : SchemeKind) (s : List Char) :
    takeCredentials kind (s ++ q) =
      (takeCredentials kind s).map fun parts => (parts.1, parts.2 ++ q) := by
  obtain ⟨c, rest, hsplit, hc⟩ := hq.exists_cons
  unfold takeCredentials
  rw [splitAtLastAt?_append hq]
  cases hat : splitAtLastAt? kind s with
  | none => rfl
  | some parts =>
    obtain ⟨before, after⟩ := parts
    cases before with
    | cons d before => rfl
    | nil =>
      cases after with
      | nil =>
        simp [hsplit, endsAuthority_of_inert hc, Except.map]
      | cons d after =>
        simp only [Option.map_some, List.cons_append]
        split <;> rfl

/-- An overhang belongs to the host as a whole. -/
theorem hostLength_overhang (hq : ∀ c ∈ q, Inert c) (kind : SchemeKind) (bracketed : Bool) :
    hostLength kind bracketed q = q.length := by
  induction q generalizing bracketed with
  | nil => rfl
  | cons c rest ih =>
    have hc := hq c List.mem_cons_self
    rw [hostLength, if_neg, ih fun d hd => hq d (List.mem_cons_of_mem c hd)]
    · rfl
    · simp [endsAuthority_of_inert hc, hc.ne (d := ':') (by decide)]

/-- A host has the same end with more at the end of the text, unless it goes to the end. -/
theorem hostLength_append (hq : ∀ c ∈ q, Inert c) (kind : SchemeKind) (bracketed : Bool)
    (s : List Char) :
    (hostLength kind bracketed s < s.length ∧
      hostLength kind bracketed (s ++ q) = hostLength kind bracketed s) ∨
    (hostLength kind bracketed s = s.length ∧
      hostLength kind bracketed (s ++ q) = (s ++ q).length) := by
  induction s generalizing bracketed with
  | nil => exact .inr ⟨rfl, hostLength_overhang hq kind bracketed⟩
  | cons c s ih =>
    rw [List.cons_append, hostLength, hostLength]
    split
    · exact .inl ⟨Nat.succ_pos _, rfl⟩
    · rcases ih _ with ⟨hlt, he⟩ | ⟨hlength, he⟩
      · exact .inl ⟨Nat.succ_lt_succ hlt, congrArg (· + 1) he⟩
      · exact .inr ⟨congrArg (· + 1) hlength, congrArg (· + 1) he⟩

/-- A port does not go to the end of a text that has more at its end. -/
theorem takePort_append (hq : Overhang q) {scheme : String} {s rest : List Char} {port : Option Nat}
    (h : takePort scheme (s ++ q) = .ok (port, rest)) :
    ∃ left, takePort scheme s = .ok (port, left) ∧ left ≠ [] ∧ rest = left ++ q := by
  obtain ⟨c, more, hsplit, hc⟩ := hq.exists_cons
  have hdigit : c.isDigit = false := by
    have hnone := hc.isAlphanum
    rw [Char.isAlphanum, Bool.or_eq_false_iff] at hnone
    exact hnone.2
  obtain ⟨htake, hdrop⟩ := split_append_cons (s := s) (t := more) hdigit
  rw [← hsplit] at htake hdrop
  unfold takePort at h ⊢
  dsimp only at h ⊢
  rw [htake, hdrop] at h
  cases hleft : s.dropWhile Char.isDigit with
  | nil =>
    rw [hleft, List.nil_append, hsplit] at h
    split at h
    · cases h
    · rw [if_pos] at h
      · cases h
      · simp [hc.ne (d := '/') (by decide), hc.ne (d := '\\') (by decide),
          hc.ne (d := '?') (by decide), hc.ne (d := '#') (by decide)]
  | cons d left =>
    rw [hleft, List.cons_append] at h
    split at h
    · cases h
    · next hport =>
      split at h
      · cases h
      · next hany =>
        cases h
        refine ⟨d :: left, ?_, List.cons_ne_nil d left, rfl⟩
        rw [if_neg hport]
        exact if_neg hany

/-- A host with an overhang is refused. -/
theorem Host.read_overhang (hq : Overhang q) (s : List Char) (host : Host) :
    Host.read (s ++ q) ≠ .ok host := by
  obtain ⟨front, w, rfl, hw⟩ := hq.wide
  rw [← List.append_assoc]
  exact Host.read_of_wide hw _ host

/-- An address in brackets with an overhang is refused. -/
theorem Host.readBracketed_overhang (hq : Overhang q) {s rest : List Char}
    (h : s ++ q = '[' :: rest) : Host.readBracketed rest = .error .invalidEightPieces := by
  obtain ⟨front, w, rfl, hw⟩ := hq.wide
  rw [← List.append_assoc] at h
  exact Host.readBracketed_of_wide hw h

/-- A host that is not interpreted has more percent signs with more at its end. -/
theorem Host.readUninterpreted_append (hq : Overhang q) {s : List Char} {host longer : Host}
    (h : Host.readUninterpreted s = .ok host)
    (hl : Host.readUninterpreted (s ++ q) = .ok longer) :
    percents host.text < percents longer.text := by
  have hlt := percents_encode_lt hq controlSet (fun c hc => hc) s
  unfold Host.readUninterpreted at h hl
  split at hl
  · next hnil => exact (hq.append_ne_nil s hnil).elim
  · next hbracket =>
    rw [Host.readBracketed_overhang hq hbracket] at hl
    cases hl
  · next hbracket =>
    split_ifs at hl
    cases hl
    rw [Host.text, String.toList_ofList]
    split at h
    · cases h
      exact Nat.lt_of_le_of_lt (Nat.zero_le _) hlt
    · exact (hbracket _ rfl).elim
    · split_ifs at h
      cases h
      rwa [Host.text, String.toList_ofList]

/-- A host that goes to the end is one of a scheme that does not interpret it. -/
theorem readHost_append (hq : Overhang q) {kind : SchemeKind} {s : List Char} {host longer : Host}
    (h : readHost kind s = .ok host) (hl : readHost kind (s ++ q) = .ok longer) :
    kind = .other ∧ percents host.text < percents longer.text := by
  obtain ⟨c, rest, hsplit⟩ := List.exists_cons_of_ne_nil (hq.append_ne_nil s)
  have hread := Host.read_overhang hq s longer
  cases kind with
  | other => exact ⟨rfl, Host.readUninterpreted_append hq h hl⟩
  | file | special =>
    rw [hsplit] at hl hread
    exact (hread hl).elim

/-- The parts of which an authority is made. -/
theorem exists_of_takeAuthority {scheme : String} {s : List Char} {read : Authority × List Char}
    (h : takeAuthority scheme s = .ok read) :
    ∃ credentials text host, takeCredentials (schemeKind scheme) s = .ok (credentials, text) ∧
      readHost (schemeKind scheme) (text.take (hostLength (schemeKind scheme) false text)) =
        .ok host ∧
      ((∃ after port, text.drop (hostLength (schemeKind scheme) false text) = ':' :: after ∧
          takePort scheme after = .ok (port, read.2) ∧
          read.1 = ⟨credentials.username, credentials.password, host, port⟩) ∨
        ((∀ after, text.drop (hostLength (schemeKind scheme) false text) ≠ ':' :: after) ∧
          read = (⟨credentials.username, credentials.password, host, none⟩,
            text.drop (hostLength (schemeKind scheme) false text)))) := by
  unfold takeAuthority at h
  dsimp only at h
  cases hc : takeCredentials (schemeKind scheme) s with
  | error e =>
    rw [hc] at h
    cases h
  | ok parts =>
    obtain ⟨credentials, text⟩ := parts
    rw [hc] at h
    simp only [Except.bind, bind] at h
    cases hhost : readHost (schemeKind scheme)
      (text.take (hostLength (schemeKind scheme) false text)) with
    | error e =>
      rw [hhost] at h
      cases h
    | ok host =>
      rw [hhost] at h
      refine ⟨credentials, text, host, rfl, hhost, ?_⟩
      dsimp only at h
      split at h
      · next after hdrop =>
        split at h
        · cases h
        · cases hport : takePort scheme after with
          | error e =>
            rw [hport] at h
            cases h
          | ok parts =>
            rw [hport] at h
            cases h
            exact .inl ⟨after, parts.1, hdrop, hport, rfl⟩
      · next hdrop =>
        split at h
        · cases h
        · cases h
          exact .inr ⟨hdrop, rfl⟩

/-- How an authority and what follows it change with more at the end of the text: only what follows
changes, if there is anything, and else the host has more percent signs. -/
inductive AuthorityGrowth (q : List Char) (kind : SchemeKind) :
    Authority × List Char → Authority × List Char → Prop where
  | rest {authority : Authority} {rest : List Char} (h : rest ≠ []) :
      AuthorityGrowth q kind (authority, rest) (authority, rest ++ q)
  | host {authority longer : Authority} (hkind : kind = .other)
      (hmore : percents authority.host.text < percents longer.host.text) :
      AuthorityGrowth q kind (authority, []) (longer, [])

/-- An authority that is read with an overhang has grown. -/
theorem authorityGrowth_takeAuthority (hq : Overhang q) {scheme : String} {s : List Char}
    {before after : Authority × List Char} (h : takeAuthority scheme s = .ok before)
    (hl : takeAuthority scheme (s ++ q) = .ok after) :
    AuthorityGrowth q (schemeKind scheme) before after := by
  obtain ⟨credentials, text, host, hcredentials, hhost, hread⟩ := exists_of_takeAuthority h
  obtain ⟨credentials', text', longer, hcredentials', hlonger, hread'⟩ := exists_of_takeAuthority hl
  rw [takeCredentials_append hq, hcredentials] at hcredentials'
  cases hcredentials'
  rcases hostLength_append hq.inert (schemeKind scheme) false text with ⟨hlt, he⟩ | ⟨hlength, he⟩
  · rw [he, List.take_append_of_le_length (Nat.le_of_lt hlt), hhost] at hlonger
    cases hlonger
    rw [he, List.drop_append_of_le_length (Nat.le_of_lt hlt)] at hread'
    generalize hdrop : text.drop (hostLength (schemeKind scheme) false text) = left at hread hread'
    have hleft : left ≠ [] := by
      rw [← hdrop, ne_eq, List.drop_eq_nil_iff]
      omega
    obtain ⟨c, rest, rfl⟩ := List.exists_cons_of_ne_nil hleft
    obtain ⟨inner, port, hcolon, hport, hfirst⟩ | ⟨hnone, rfl⟩ := hread
    · cases hcolon
      obtain ⟨inner', port', hcolon', hport', hfirst'⟩ | ⟨hnone', -⟩ := hread'
      · cases hcolon'
        obtain ⟨left, hsame, hne, hrest⟩ := takePort_append hq hport'
        rw [hport] at hsame
        cases hsame
        have hafter : after = (before.1, before.2 ++ q) :=
          Prod.ext (hfirst'.trans hfirst.symm) hrest
        rw [hafter]
        exact .rest hne
      · exact (hnone' _ rfl).elim
    · obtain ⟨inner', port', hcolon', -⟩ | ⟨-, rfl⟩ := hread'
      · cases hcolon'
        exact (hnone rest rfl).elim
      · exact .rest (List.cons_ne_nil c rest)
  · rw [hlength, List.take_length] at hhost
    rw [he, List.take_length] at hlonger
    obtain ⟨hkind, hmore⟩ := readHost_append hq hhost hlonger
    rw [hlength, List.drop_length] at hread
    rw [he, List.drop_length] at hread'
    obtain ⟨_, _, hnil, -⟩ | ⟨-, rfl⟩ := hread
    · cases hnil
    · obtain ⟨_, _, hnil, -⟩ | ⟨-, rfl⟩ := hread'
      · cases hnil
      · exact .host hkind hmore

/-- What follows an authority whose scheme is not special is read by its first character. -/
theorem afterAuthority_cons {scheme : String} (hkind : (schemeKind scheme).isSpecial = false)
    (authority : Authority) (c : Char) (rest : List Char) :
    afterAuthority scheme authority (c :: rest) =
      if c = '?' ∨ c = '#' then withTail scheme (some authority) [] (c :: rest)
      else withPath scheme (some authority) (if c = '/' then [] else ['/']) (c :: rest) := by
  unfold afterAuthority
  dsimp only
  rw [hkind, if_neg Bool.false_ne_true]
  split
  · contradiction
  · next he =>
    cases he
    rfl
  · next he =>
    cases he
    rfl
  · next he =>
    cases he
    rfl
  · next hquery hfragment hslash =>
    rw [if_neg, if_neg]
    · rintro rfl
      exact hslash rest rfl
    · rintro (rfl | rfl)
      · exact hquery rest rfl
      · exact hfragment rest rfl

theorem weight_afterAuthority_lt (hq : Overhang q) (scheme : String) (authority : Authority)
    {s : List Char} (h : s ≠ []) :
    weight (afterAuthority scheme authority s) <
      weight (afterAuthority scheme authority (s ++ q)) := by
  obtain ⟨c, rest, rfl⟩ := List.exists_cons_of_ne_nil h
  cases hkind : (schemeKind scheme).isSpecial with
  | true =>
    have hdrop : dropSeparator (schemeKind scheme) (c :: rest ++ q) =
        dropSeparator (schemeKind scheme) (c :: rest) ++ q := by
      rw [List.cons_append, dropSeparator, dropSeparator]
      split <;> rfl
    unfold afterAuthority
    dsimp only
    rw [hkind, if_pos rfl, if_pos rfl, hdrop]
    exact weight_withPath_lt hq _ _ _ _
  | false =>
    rw [List.cons_append, afterAuthority_cons hkind, afterAuthority_cons hkind]
    split
    · next hc => exact weight_withTail_lt hq _ _ _ ⟨c, rest, rfl, hc⟩
    · exact weight_withPath_lt hq _ _ _ (c :: rest)

/-- An overhang makes what is read after two slashes heavier. -/
theorem weight_afterSlashes_lt (hq : Overhang q) {scheme : String} {s : List Char} {u v : Url}
    (h : afterSlashes scheme s = .ok u) (hl : afterSlashes scheme (s ++ q) = .ok v) :
    weight u < weight v := by
  unfold afterSlashes at h hl
  cases hbefore : takeAuthority scheme s with
  | error e =>
    rw [hbefore] at h
    cases h
  | ok before =>
    cases hafter : takeAuthority scheme (s ++ q) with
    | error e =>
      rw [hafter] at hl
      cases hl
    | ok after =>
      have hgrowth := authorityGrowth_takeAuthority hq hbefore hafter
      rw [hbefore] at h
      rw [hafter] at hl
      cases h
      cases hl
      cases hgrowth with
      | rest hrest => exact weight_afterAuthority_lt hq scheme _ hrest
      | @host authority longer hkind hmore =>
        have hempty : ∀ authority, afterAuthority scheme authority [] =
            withTail scheme (some authority) [] [] := fun authority => by
          unfold afterAuthority
          rw [hkind]
          rfl
        show weight (afterAuthority scheme authority []) < weight (afterAuthority scheme longer [])
        rw [hempty, hempty, weight_withTail, weight_withTail]
        simp only [hostText, Option.map_some, Option.getD_some]
        omega

/-! ## Files -/

/-- An inert character is no slash. -/
theorem isSlash_of_inert {c : Char} (hc : Inert c) : isSlash c = false := by
  simp [isSlash, hc.ne (d := '/') (by decide), hc.ne (d := '\\') (by decide)]

/-- A text with an overhang is no drive letter. -/
theorem isDriveLetter_append (hq : Overhang q) (s : List Char) :
    isDriveLetter (s ++ q) = false := by
  obtain ⟨front, w, hw, hwide⟩ := hq.wide
  have hlast : (s ++ q).getLast? = some w := by
    rw [hw, ← List.append_assoc, List.getLast?_concat]
  have hinert := inert_of_isWide hwide
  unfold isDriveLetter
  split
  · next a b hsplit =>
    rw [hsplit] at hlast
    obtain rfl : b = w := Option.some.inj hlast
    simp [hinert.ne (d := ':') (by decide), hinert.ne (d := '|') (by decide)]
  · rfl

/-- A file has no host that goes to the end of a text with more at its end; any other host is the
same. -/
theorem takeFileHost_append (hq : Overhang q) {s rest longer : List Char} {host other : Host}
    (h : takeFileHost s = .ok (host, rest)) (hl : takeFileHost (s ++ q) = .ok (other, longer)) :
    other = host ∧ rest ≠ [] ∧ longer = rest ++ q := by
  have hends : ∀ c ∈ q, (!endsAuthority .file c) = true := fun c hc => by
    rw [endsAuthority_of_inert (hq.inert c hc)]
    rfl
  unfold takeFileHost at h hl
  dsimp only at h hl
  obtain ⟨hne, htake, hdrop⟩ | ⟨-, -, htake, -⟩ :=
    split_append (fun c => !endsAuthority .file c) s hends
  · rw [htake, hdrop] at hl
    split at h
    · next hdrive =>
      rw [if_pos hdrive] at hl
      cases h
      cases hl
      refine ⟨rfl, ?_, rfl⟩
      rintro rfl
      exact hne rfl
    · next hdrive =>
      rw [if_neg hdrive] at hl
      split at h
      · next hempty =>
        rw [if_pos hempty] at hl
        cases h
        cases hl
        exact ⟨rfl, hne, rfl⟩
      · next hempty =>
        rw [if_neg hempty] at hl
        split at h
        · cases h
        · next read hread =>
          rw [hread] at hl
          cases h
          cases hl
          exact ⟨rfl, hne, rfl⟩
  · rw [htake, isDriveLetter_append hq, if_neg Bool.false_ne_true, if_neg] at hl
    · split at hl
      · cases hl
      · next read hread => exact (Host.read_overhang hq s read hread).elim
    · exact fun hempty => hq.append_ne_nil s (List.isEmpty_iff.mp hempty)

/-- Whether a text starts with two slashes of either direction. -/
def BeginsWithSlashes (s : List Char) : Prop :=
  ∃ c d rest, s = c :: d :: rest ∧ isSlash c = true ∧ isSlash d = true

/-- A file that is read without two slashes has no host. -/
theorem readFile_none_of_not {s : List Char} (h : ¬ BeginsWithSlashes s) :
    readFile none s = .ok (withPath "file" (fileAuthority .empty)
      (if s.head?.any isSlash = true then [] else ['/']) s) := by
  unfold readFile
  split
  · next c d rest =>
    rw [if_neg]
    · show _ = Except.ok (withPath _ _ (if isSlash c = true then [] else ['/']) _)
      split <;> rfl
    · rw [Bool.and_eq_true]
      exact fun hboth => h ⟨c, d, rest, rfl, hboth⟩
  · next c =>
    show _ = Except.ok (withPath _ _ (if isSlash c = true then [] else ['/']) _)
    split <;> rfl
  · rfl

theorem weight_readFile_lt (hq : Overhang q) {s : List Char} {u v : Url}
    (h : readFile none s = .ok u) (hl : readFile none (s ++ q) = .ok v) : weight u < weight v := by
  by_cases hslashes : BeginsWithSlashes s
  · obtain ⟨c, d, rest, rfl, hc, hd⟩ := hslashes
    unfold readFile at h hl
    rw [List.cons_append, List.cons_append] at hl
    dsimp only at h hl
    rw [hc, hd, Bool.and_self, if_pos rfl] at h hl
    split at h
    · cases h
    · next host left hhost =>
      split at hl
      · cases hl
      · next other longer hother =>
        obtain ⟨rfl, hne, rfl⟩ := takeFileHost_append hq hhost hother
        obtain ⟨e, more, rfl⟩ := List.exists_cons_of_ne_nil hne
        split at h
        · next hempty =>
          rw [if_pos hempty] at hl
          cases h
          cases hl
          show weight (withPath _ _ _ (if isSlash e = true then _ else _)) <
            weight (withPath _ _ _ (if isSlash e = true then _ else _))
          split
          · exact weight_withPath_lt hq _ _ _ _
          · exact weight_withPath_lt hq _ _ _ ('/' :: e :: more)
        · next hempty =>
          rw [if_neg hempty] at hl
          cases h
          cases hl
          exact weight_afterAuthority_lt hq _ _ hne
  · obtain ⟨a, more, hsplit, ha⟩ := hq.exists_cons
    have hlonger : ¬ BeginsWithSlashes (s ++ q) := by
      rintro ⟨c, d, rest, he, hc, hd⟩
      match s, hslashes, he with
      | [], _, he =>
        rw [List.nil_append, hsplit] at he
        cases he
        rw [isSlash_of_inert ha] at hc
        cases hc
      | [_], _, he =>
        rw [hsplit] at he
        cases he
        rw [isSlash_of_inert ha] at hd
        cases hd
      | c' :: d' :: rest', hslashes, he =>
        cases he
        exact hslashes ⟨c, d, rest', rfl, hc, hd⟩
    have hhead : (s ++ q).head?.any isSlash = s.head?.any isSlash := by
      cases s with
      | nil =>
        rw [List.nil_append, hsplit]
        exact isSlash_of_inert ha
      | cons c rest => rfl
    rw [readFile_none_of_not hslashes] at h
    rw [readFile_none_of_not hlonger, hhead] at hl
    cases h
    cases hl
    exact weight_withPath_lt hq _ _ _ s

/-! ## References without a base -/

/-- Whether a character ends an opaque path. -/
def endsOpaque (c : Char) : Bool := c == '?' || c == '#'

/-- A path without a slash at its front is opaque. -/
theorem readOther_of_ne {scheme : String} {s : List Char} (h : s.head? ≠ some '/') :
    readOther scheme s = .ok (withTail scheme none
      (percentEncode controlSet (s.takeWhile fun c => !endsOpaque c))
      (s.dropWhile fun c => !endsOpaque c)) := by
  unfold readOther
  split
  · exact (h rfl).elim
  · exact (h rfl).elim
  · rfl

/-- One slash after a scheme begins a path. -/
theorem readOther_slash {scheme : String} {s : List Char} (h : s.head? ≠ some '/') :
    readOther scheme ('/' :: s) = .ok (withPath scheme none ['/'] s) := by
  unfold readOther
  split
  · next he =>
    cases he
    exact (h rfl).elim
  · next he =>
    cases he
    rfl
  · next hslash => exact (hslash s rfl).elim

/-- An overhang puts no slash in front. -/
theorem head?_append_ne (hq : Overhang q) {s : List Char} (h : s.head? ≠ some '/') :
    (s ++ q).head? ≠ some '/' := by
  cases s with
  | nil =>
    obtain ⟨c, rest, rfl, hc⟩ := hq.exists_cons
    exact fun he => hc.ne (by decide) (Option.some.inj he)
  | cons c s => exact h

theorem weight_readOther_lt (hq : Overhang q) {scheme : String} {s : List Char} {u v : Url}
    (h : readOther scheme s = .ok u) (hl : readOther scheme (s ++ q) = .ok v) :
    weight u < weight v := by
  by_cases hfirst : s.head? = some '/'
  · obtain ⟨rest, rfl⟩ := List.head?_eq_some_iff.mp hfirst
    by_cases hsecond : rest.head? = some '/'
    · obtain ⟨rest, rfl⟩ := List.head?_eq_some_iff.mp hsecond
      exact weight_afterSlashes_lt hq (s := rest) h hl
    · rw [readOther_slash hsecond] at h
      rw [List.cons_append, readOther_slash (head?_append_ne hq hsecond)] at hl
      cases h
      cases hl
      exact weight_withPath_lt hq _ _ _ _
  · rw [readOther_of_ne hfirst] at h
    rw [readOther_of_ne (head?_append_ne hq hfirst)] at hl
    have hends : ∀ c ∈ q, (!endsOpaque c) = true := fun c hc => by
      simp [endsOpaque, hq.ne_of_mem hc (d := '?') (by decide),
        hq.ne_of_mem hc (d := '#') (by decide)]
    cases h
    cases hl
    obtain ⟨hne, htake, hdrop⟩ | ⟨hnil, hself, htake, hdrop⟩ :=
      split_append (fun c => !endsOpaque c) s hends
    · rw [htake, hdrop]
      apply weight_withTail_lt hq
      obtain ⟨c, rest, hsplit⟩ := List.exists_cons_of_ne_nil hne
      have hc := List.head?_dropWhile_not (fun c => !endsOpaque c) s
      rw [hsplit] at hc ⊢
      exact ⟨c, rest, rfl, by simpa [endsOpaque, imp_iff_not_or] using hc⟩
    · rw [htake, hdrop, hnil, hself, weight_withTail, weight_withTail]
      have hlt := percents_encode_lt hq controlSet (fun c hc => hc) s
      omega

/-- An overhang makes what is read after a scheme heavier. -/
theorem weight_readAfterScheme_lt (hq : Overhang q) {scheme : String} {s : List Char} {u v : Url}
    (h : readAfterScheme none scheme s = .ok u)
    (hl : readAfterScheme none scheme (s ++ q) = .ok v) : weight u < weight v := by
  unfold readAfterScheme at h hl
  dsimp only [Option.filter_none] at h hl
  cases hkind : schemeKind scheme with
  | file =>
    rw [hkind] at h hl
    exact weight_readFile_lt hq h hl
  | other =>
    rw [hkind] at h hl
    exact weight_readOther_lt hq h hl
  | special =>
    rw [hkind] at h hl
    obtain ⟨c, rest, hsplit, hc⟩ := hq.exists_cons
    have hdrop := (split_append_cons (s := s) (t := rest) (isSlash_of_inert hc)).2
    rw [← hsplit] at hdrop
    rw [hdrop] at hl
    exact weight_afterSlashes_lt hq h hl

/-- A scheme is the same with more at the end of the text. -/
theorem takeScheme?_append {s rest : List Char} {scheme : String} (q : List Char)
    (h : takeScheme? s = some (scheme, rest)) :
    takeScheme? (s ++ q) = some (scheme, rest ++ q) := by
  unfold takeScheme? at h ⊢
  dsimp only at h ⊢
  generalize hp : (fun c : Char => c.isAlphanum || c == '+' || c == '-' || c == '.') = p at h ⊢
  split at h
  · next c name more hname hrest =>
    have hlt : (s.takeWhile p).length < s.length := by
      have hpos : 0 < (s.drop (s.takeWhile p).length).length := by
        rw [hrest]
        exact Nat.succ_pos _
      rw [List.length_drop] at hpos
      omega
    have htake : (s ++ q).takeWhile p = s.takeWhile p := by
      rw [List.takeWhile_append, if_neg (Nat.ne_of_lt hlt)]
    rw [htake, List.drop_append_of_le_length (Nat.le_of_lt hlt), hrest, hname]
    rw [hname] at h
    split at h
    · next halpha =>
      cases h
      exact if_pos halpha
    · cases h
  · cases h

/-- A text with a blank above the space at its end names another URL than the text without it, or
none. -/
theorem parse_trimBlanks_ne {text : String} {url : Url} (h : parse text = .ok url)
    (he : ¬ EndsPlain text) : parse (trimBlanks text) ≠ .ok url := by
  obtain ⟨q, w, hw, hinert, hsignificant⟩ :=
    exists_significant_eq_append (beginsPlain_of_parse h) he
  have hq : Overhang (q ++ [w]) :=
    ⟨fun c hc => (List.mem_append.mp hc).elim (hinert c) fun hc =>
      List.mem_singleton.mp hc ▸ inert_of_isWide hw, q, w, rfl, hw⟩
  intro htrim
  unfold parse readReference at h htrim
  dsimp only at h htrim
  rw [hsignificant] at h
  cases hscheme : takeScheme? (significant (trimBlanks text)) with
  | none =>
    rw [hscheme] at htrim
    cases htrim
  | some parts =>
    rw [hscheme] at htrim
    rw [takeScheme?_append _ hscheme] at h
    exact (weight_readAfterScheme_lt hq htrim h).ne rfl

end PageHost.Url
