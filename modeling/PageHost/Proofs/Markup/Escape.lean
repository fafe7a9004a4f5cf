import PageHost.Document.Markup
/-!
# What escaping keeps apart

An escaped text has neither of the two angle brackets in it, and an escaped value has no
double quote either, so both end where the markup goes on. Escaping loses nothing. Names need
no escaping as long as they are made of letters, digits and hyphens. Each part of a start tag
is therefore found again in any markup that begins with it, together with what follows it.
-/

namespace PageHost.Markup

/-! ## Where a run of characters ends -/

/-- What follows does not go on with characters of this sort. -/
def Stops (sort : Char → Bool) (rest : List Char) : Prop := ∀ c ∈ rest.head?, sort c = false

theorem stops_nil (sort : Char → Bool) : Stops sort [] := nofun

/-- A character of another sort stops the run. -/
theorem stops_cons {sort : Char → Bool} {c : Char} (h : sort c = false) (rest : List Char) :
    Stops sort (c :: rest) := by
  intro d hd
  rw [List.head?_cons, Option.mem_some] at hd
  rw [← hd]
  exact h

/-- A run of characters of one sort that stops there is what comes before any other. -/
theorem takeWhile_of_stops {sort : Char → Bool} {run rest : List Char}
    (hrun : ∀ c ∈ run, sort c = true) (hrest : Stops sort rest) :
    (run ++ rest).takeWhile sort = run := by
  have hnone : rest.takeWhile sort = [] := by
    cases rest with
    | nil => rfl
    | cons c rest => simp [hrest c rfl]
  rw [List.takeWhile_append_of_pos hrun, hnone, List.append_nil]

/-- Where a run of characters of one sort ends is seen by the run and what follows it. -/
theorem run_unique {sort : Char → Bool} {run other rest more : List Char}
    (hrun : ∀ c ∈ run, sort c = true) (hother : ∀ c ∈ other, sort c = true)
    (hrest : Stops sort rest) (hmore : Stops sort more) (h : run ++ rest = other ++ more) :
    run = other ∧ rest = more := by
  have hsame : run = other := by
    calc run = (run ++ rest).takeWhile sort := (takeWhile_of_stops hrun hrest).symm
      _ = (other ++ more).takeWhile sort := by rw [h]
      _ = other := takeWhile_of_stops hother hmore
  rw [hsame] at h
  exact ⟨hsame, List.append_cancel_left h⟩

/-! ## Escaped characters -/

/-- A character that is neither of the two angle brackets. -/
def isText (c : Char) : Bool := c != '<' && c != '>'

/-- A character that is neither an angle bracket nor a double quote. -/
def isValue (c : Char) : Bool := isText c && c != '"'

/-- Escaped text holds no character that ends a text. -/
theorem isText_of_mem_escapeText {c d : Char} (h : d ∈ escapeText c) : isText d = true := by
  unfold escapeText at h
  split at h
  all_goals simp only [List.mem_cons, List.not_mem_nil, or_false] at h
  · rcases h with rfl | rfl | rfl | rfl | rfl <;> decide
  · rcases h with rfl | rfl | rfl | rfl <;> decide
  · rcases h with rfl | rfl | rfl | rfl <;> decide
  · next _ hopen hclose =>
    rw [h]
    simpa [isText] using ⟨hopen, hclose⟩

theorem isValue_of_mem_escapeValue {c d : Char} (h : d ∈ escapeValue c) : isValue d = true := by
  unfold escapeValue at h
  split at h
  · simp only [List.mem_cons, List.not_mem_nil, or_false] at h
    rcases h with rfl | rfl | rfl | rfl | rfl | rfl <;> decide
  · next hquote =>
    have htext := isText_of_mem_escapeText h
    unfold escapeText at h
    split at h
    all_goals simp only [List.mem_cons, List.not_mem_nil, or_false] at h
    · rcases h with rfl | rfl | rfl | rfl | rfl <;> decide
    · rcases h with rfl | rfl | rfl | rfl <;> decide
    · rcases h with rfl | rfl | rfl | rfl <;> decide
    · rw [h] at htext ⊢
      simpa [isValue, htext] using hquote

/-- No character is escaped to the beginning of what another one is escaped to. -/
theorem escapeText_append {c d : Char} {rest more : List Char}
    (h : escapeText c ++ rest = escapeText d ++ more) : c = d ∧ rest = more := by
  unfold escapeText at h
  split at h <;> split at h <;> grind

/-- The escapes of two characters of a value are told apart whatever follows. -/
theorem escapeValue_append {c d : Char} {rest more : List Char}
    (h : escapeValue c ++ rest = escapeValue d ++ more) : c = d ∧ rest = more := by
  unfold escapeValue at h
  split at h <;> split at h
  · simpa using h
  · unfold escapeText at h
    split at h <;> grind
  · unfold escapeText at h
    split at h <;> grind
  · exact escapeText_append h

/-- Three characters are escaped in texts, and all others stand for themselves. -/
theorem escapeText_eq_self_iff (c : Char) : escapeText c = [c] ↔ c ∉ ['&', '<', '>'] := by
  unfold escapeText
  split <;> simp_all

/-- In values the double quote is escaped as well. -/
theorem escapeValue_eq_self_iff (c : Char) : escapeValue c = [c] ↔ c ∉ ['&', '<', '>', '"'] := by
  unfold escapeValue
  split
  · simp
  · next hquote =>
    rw [escapeText_eq_self_iff]
    have hne : c ≠ '"' := hquote
    simp [hne]

/-- No character of a text is escaped to nothing. -/
theorem escapeText_ne_nil (c : Char) : escapeText c ≠ [] := by
  unfold escapeText
  split <;> exact List.cons_ne_nil _ _

theorem escapeValue_ne_nil (c : Char) : escapeValue c ≠ [] := by
  unfold escapeValue
  split
  · exact List.cons_ne_nil _ _
  · exact escapeText_ne_nil c

/-- Characters that are written as words, none empty and none the beginning of another, can be
told from the words. -/
theorem flatMap_injective {word : Char → List Char} (hnil : ∀ c, word c ≠ [])
    (happend : ∀ {c d rest more}, word c ++ rest = word d ++ more → c = d ∧ rest = more)
    {data other : List Char} (h : data.flatMap word = other.flatMap word) : data = other := by
  induction data generalizing other with
  | nil =>
    cases other with
    | nil => rfl
    | cons d other => simp [hnil] at h
  | cons c data ih =>
    cases other with
    | nil => simp [hnil] at h
    | cons d other =>
      rw [List.flatMap_cons, List.flatMap_cons] at h
      obtain ⟨rfl, hrest⟩ := happend h
      rw [ih hrest]

/-! ## Texts, values and names in their places -/

/-- A text in markup. -/
def textOf (data : String) : List Char := data.toList.flatMap escapeText

/-- A value in markup. -/
def valueOf (data : String) : List Char := data.toList.flatMap escapeValue

/-- Only the empty text is written as nothing. -/
theorem eq_empty_of_textOf {data : String} (h : textOf data = []) : data = "" := by
  have hchars : data.toList = [] := flatMap_injective escapeText_ne_nil escapeText_append h
  exact String.toList_eq_nil_iff.mp hchars

/-- A written text holds no character that ends a text. -/
theorem isText_of_mem_textOf {data : String} {c : Char} (h : c ∈ textOf data) :
    isText c = true := by
  obtain ⟨d, -, hd⟩ := List.mem_flatMap.mp h
  exact isText_of_mem_escapeText hd

theorem isValue_of_mem_valueOf {data : String} {c : Char} (h : c ∈ valueOf data) :
    isValue c = true := by
  obtain ⟨d, -, hd⟩ := List.mem_flatMap.mp h
  exact isValue_of_mem_escapeValue hd

/-- A text is found again where markup or nothing follows it. -/
theorem textOf_append {data other : String} {rest more : List Char} (hrest : Stops isText rest)
    (hmore : Stops isText more) (h : textOf data ++ rest = textOf other ++ more) :
    data = other ∧ rest = more := by
  obtain ⟨hdata, hrest⟩ := run_unique (fun _ => isText_of_mem_textOf)
    (fun _ => isText_of_mem_textOf) hrest hmore h
  have hchars := flatMap_injective escapeText_ne_nil escapeText_append hdata
  exact ⟨String.toList_inj.mp hchars, hrest⟩

/-- A value is found again where its closing quote follows it. -/
theorem valueOf_append {data other : String} {rest more : List Char}
    (h : valueOf data ++ '"' :: rest = valueOf other ++ '"' :: more) :
    data = other ∧ rest = more := by
  obtain ⟨hdata, hrest⟩ := run_unique (fun _ => isValue_of_mem_valueOf)
    (fun _ => isValue_of_mem_valueOf) (stops_cons (by decide) rest) (stops_cons (by decide) more) h
  have hchars := flatMap_injective escapeValue_ne_nil escapeValue_append hdata
  exact ⟨String.toList_inj.mp hchars, (List.cons.inj hrest).2⟩

/-- A letter, a digit or a hyphen of ASCII. -/
def isNameCharacter (c : Char) : Bool := c.isAlphanum || c == '-'

/-- The text is not empty and has letters, digits and hyphens only. -/
def IsName (name : String) : Prop := name ≠ "" ∧ ∀ c ∈ name.toList, isNameCharacter c = true

instance (name : String) : Decidable (IsName name) :=
  decidable_of_iff (name ≠ "" ∧ name.toList.all isNameCharacter = true) (by simp [IsName])

/-- A name is found again where something else follows it. -/
theorem name_append {name other : String} (hname : IsName name) (hother : IsName other)
    {rest more : List Char} (hrest : Stops isNameCharacter rest)
    (hmore : Stops isNameCharacter more) (h : name.toList ++ rest = other.toList ++ more) :
    name = other ∧ rest = more := by
  obtain ⟨hsame, hrest⟩ := run_unique hname.2 hother.2 hrest hmore h
  exact ⟨String.toList_inj.mp hsame, hrest⟩

/-- A name begins with a character of its own. -/
theorem exists_toList_of_isName {name : String} (h : IsName name) :
    ∃ c rest, name.toList = c :: rest ∧ isNameCharacter c = true := by
  cases hname : name.toList with
  | nil => exact absurd (String.toList_eq_nil_iff.mp hname) h.1
  | cons c rest => exact ⟨c, rest, rfl, h.2 c (by rw [hname]; exact List.mem_cons_self)⟩

/-! ## Start tags -/

/-- An attribute is written as a blank, its name and its quoted value. -/
theorem attributeText_append_eq (a : Attribute) (rest : List Char) :
    attributeText a ++ rest =
      ' ' :: (a.name.toList ++ '=' :: '"' :: (valueOf a.value ++ '"' :: rest)) := by
  simp [attributeText, valueOf]

/-- An attribute is found again, whatever follows it. -/
theorem attributeText_append {a b : Attribute} (ha : IsName a.name) (hb : IsName b.name)
    {rest more : List Char} (h : attributeText a ++ rest = attributeText b ++ more) :
    a.name = b.name ∧ a.value = b.value ∧ rest = more := by
  rw [attributeText_append_eq, attributeText_append_eq] at h
  obtain ⟨hname, hquoted⟩ := name_append ha hb (stops_cons (by decide) _)
    (stops_cons (by decide) _) (List.cons.inj h).2
  have hopen := (List.cons.inj (List.cons.inj hquoted).2).2
  obtain ⟨hvalue, hrest⟩ := valueOf_append hopen
  exact ⟨hname, hvalue, hrest⟩

/-- The attributes of a start tag are found again in their order, up to its end. -/
theorem attributes_append {as bs : List Attribute} (ha : ∀ a ∈ as, IsName a.name)
    (hb : ∀ b ∈ bs, IsName b.name) {rest more : List Char}
    (h : as.flatMap attributeText ++ '>' :: rest = bs.flatMap attributeText ++ '>' :: more) :
    as.map (fun a => (a.name, a.value)) = bs.map (fun b => (b.name, b.value)) ∧ rest = more := by
  induction as generalizing bs with
  | nil =>
    cases bs with
    | nil => exact ⟨rfl, (List.cons.inj h).2⟩
    | cons b bs => simp [attributeText] at h
  | cons a as ih =>
    cases bs with
    | nil => simp [attributeText] at h
    | cons b bs =>
      rw [List.flatMap_cons, List.flatMap_cons, List.append_assoc, List.append_assoc] at h
      obtain ⟨hname, hvalue, hlater⟩ := attributeText_append (ha a List.mem_cons_self)
        (hb b List.mem_cons_self) h
      obtain ⟨hpairs, hrest⟩ := ih (fun c hc => ha c (List.mem_cons_of_mem a hc))
        (fun c hc => hb c (List.mem_cons_of_mem b hc)) hlater
      refine ⟨?_, hrest⟩
      rw [List.map_cons, List.map_cons, hname, hvalue, hpairs]

/-- A start tag is written as its name and attributes between angle brackets. -/
theorem startTag_append_eq (name : ElementName) (attributes : List Attribute)
    (rest : List Char) :
    startTag name attributes ++ rest =
      '<' :: (name.tag.toList ++ (attributes.flatMap attributeText ++ '>' :: rest)) := by
  simp [startTag]

/-- What follows the name in a start tag is no part of it. -/
theorem stops_attributes (attributes : List Attribute) (rest : List Char) :
    Stops isNameCharacter (attributes.flatMap attributeText ++ '>' :: rest) := by
  cases attributes with
  | nil => exact stops_cons (by decide) rest
  | cons a attributes => exact stops_cons (by decide) _

/-- A start tag is found again, whatever follows it. -/
theorem startTag_append {name other : ElementName} {as bs : List Attribute}
    (hname : IsName name.tag) (hother : IsName other.tag) (ha : ∀ a ∈ as, IsName a.name)
    (hb : ∀ b ∈ bs, IsName b.name) {rest more : List Char}
    (h : startTag name as ++ rest = startTag other bs ++ more) :
    name.tag = other.tag ∧
      as.map (fun a => (a.name, a.value)) = bs.map (fun b => (b.name, b.value)) ∧
      rest = more := by
  rw [startTag_append_eq, startTag_append_eq] at h
  obtain ⟨htag, hlater⟩ := name_append hname hother (stops_attributes as rest)
    (stops_attributes bs more) (List.cons.inj h).2
  obtain ⟨hpairs, hrest⟩ := attributes_append ha hb hlater
  exact ⟨htag, hpairs, hrest⟩

end PageHost.Markup
