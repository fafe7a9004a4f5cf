import Mathlib.Control.Basic
import Mathlib.Data.Option.Basic
import PageHost.Edit.Wire
/-!
# Edits on the wire and back

What is written of an edit or a payload is read back as it was, if its whole numbers fit
the words of the wire. Whatever is read fits them, in whichever of the accepted forms it
was written; so what is read can be written in full and read again. The tag that an edit
is written with is the name of its instruction, and so is every tag under which one is
read.
-/

namespace PageHost

namespace Json

/-- A number below the limit is read back. -/
theorem word?_nat {n : Nat} (h : n < wordLimit) : word? (.nat n) = some n := by
  have hlt : (n : Int) < wordLimit := Int.ofNat_lt.mpr h
  rw [nat, word?, if_pos ⟨Int.natCast_nonneg n, hlt⟩, Int.toNat_natCast]

/-- What is read as a word is below the limit. -/
theorem lt_of_word? {v : Json} {n : Nat} (h : v.word? = some n) : n < wordLimit := by
  unfold word? at h
  split at h
  · split at h
    · next hv =>
      obtain ⟨hle, hlt⟩ := hv
      rw [← Option.some.inj h]
      omega
    · cases h
  · cases h

end Json

/-! ## Payloads -/

namespace Payload

/-- The handle of a payload, if it is one, is below the limit of words. -/
def Fits : Payload → Prop
  | .handle value => value < wordLimit
  | _ => True

/-- The kind and the value of an object that has no other members. -/
theorem ofJson?_pair (kind : String) (value : Json) :
    ofJson? (.object [("kind", .string kind), ("value", value)]) = ofParts? kind (some value) := by
  simp [ofJson?, Keyed.sole?, Keyed.valuesOf, kindName?]

/-- A handle is read from a number that fits a word. -/
theorem ofParts?_handle (value : Json) :
    ofParts? "handle" (some value) = value.word?.map handle := rfl

/-- A payload is read back from what is written of it. -/
theorem ofJson?_toJson {p : Payload} (h : p.Fits) : ofJson? p.toJson = some p := by
  cases p with
  | text value => exact ofJson?_pair "text" _
  | number value => exact ofJson?_pair "number" _
  | bool value => exact ofJson?_pair "bool" _
  | handle value =>
    rw [toJson, ofJson?_pair, ofParts?_handle, Json.word?_nat h, Option.map_some]
  | null => rfl

/-- A payload that is read from its parts fits. -/
theorem fits_of_ofParts? {kind : String} {value : Option Json} {p : Payload}
    (h : ofParts? kind value = some p) : p.Fits := by
  unfold ofParts? at h
  split at h
  case h_1 | h_2 | h_3 =>
    obtain ⟨_, -, rfl⟩ := Option.map_eq_some_iff.mp h
    trivial
  case h_4 =>
    obtain ⟨n, hn, rfl⟩ := Option.map_eq_some_iff.mp h
    exact Json.lt_of_word? hn
  case h_5 | h_6 =>
    cases h
    trivial
  case h_7 => cases h

/-- A payload that is read fits. -/
theorem fits_of_ofJson? {v : Json} {p : Payload} (h : ofJson? v = some p) : p.Fits := by
  unfold ofJson? at h
  split at h
  · simp only [Option.bind_eq_bind, Option.bind_eq_some_iff] at h
    obtain ⟨_, -, _, -, _, -, _, -, h⟩ := h
    exact fits_of_ofParts? h
  · simp only [Option.bind_eq_bind, Option.bind_eq_some_iff] at h
    obtain ⟨_, -, h⟩ := h
    exact fits_of_ofParts? h
  · cases h

end Payload

namespace Edit

/-! ## Namespaces and paths -/

/-- A namespace is read back. -/
theorem readSpace_ofOption (space : Option String) :
    readSpace (.ofOption .string space) = some space := by
  cases space <;> rfl

/-- A path of positions below the limit is read back. -/
theorem readPath_pathJson {path : List Nat} (h : ∀ n ∈ path, n < wordLimit) :
    readPath (pathJson path) = some path := by
  show (path.map Json.nat).mapM Json.word? = some path
  induction path with
  | nil => rfl
  | cons n rest ih =>
    rw [List.map_cons, List.mapM_cons, Json.word?_nat (h n List.mem_cons_self),
      ih fun m hm => h m (List.mem_cons_of_mem n hm)]
    rfl

/-- Every step of a path that is read fits a word. -/
theorem lt_of_mapM_word? {items : List Json} {path : List Nat}
    (h : items.mapM Json.word? = some path) : ∀ n ∈ path, n < wordLimit := by
  induction items generalizing path with
  | nil =>
    cases h
    intro n hn
    cases hn
  | cons item rest ih =>
    rw [List.mapM_cons] at h
    simp only [Option.bind_eq_bind, Option.bind_eq_some_iff] at h
    obtain ⟨n, hn, more, hmore, h⟩ := h
    cases h
    intro m hm
    rcases List.mem_cons.mp hm with rfl | hm
    · exact Json.lt_of_word? hn
    · exact ih hmore m hm

/-! ## Fields -/

namespace Fields

variable {α : Type} {f : Fields} {name : String} {position : Nat} {read : Json → Option α}

/-- A needed member is read when it is there and can be read. -/
theorem need_eq_some_iff {a : α} :
    f.need name position read = some a ↔
      ∃ value, f.find? name position = some (some value) ∧ read value = some a := by
  simp only [need, Option.bind_eq_bind, Option.bind_eq_some_iff]
  constructor
  · rintro ⟨_, hf, value, rfl, hr⟩
    exact ⟨value, hf, hr⟩
  · rintro ⟨value, hf, hr⟩
    exact ⟨_, hf, value, rfl, hr⟩

/-- A member with a default is read, or it is left out and the default stands for it. -/
theorem orElse_eq_some_iff {default a : α} :
    f.orElse name position default read = some a ↔
      (f.find? name position = some none ∧ default = a) ∨
      ∃ value, f.find? name position = some (some value) ∧ read value = some a := by
  simp only [orElse, Option.bind_eq_bind, Option.bind_eq_some_iff]
  constructor
  · rintro ⟨none | value, hf, hr⟩
    · exact .inl ⟨hf, Option.some.inj hr⟩
    · exact .inr ⟨value, hf, hr⟩
  · rintro (⟨hf, rfl⟩ | ⟨value, hf, hr⟩)
    · exact ⟨none, hf, rfl⟩
    · exact ⟨some value, hf, hr⟩

/-- The steps of a needed path fit a word. -/
theorem lt_of_need_path {path : List Nat} (h : f.need name position readPath = some path) :
    ∀ n ∈ path, n < wordLimit := by
  obtain ⟨value, -, hr⟩ := need_eq_some_iff.mp h
  simp only [readPath, Option.bind_eq_bind, Option.bind_eq_some_iff] at hr
  obtain ⟨items, -, hitems⟩ := hr
  exact lt_of_mapM_word? hitems

theorem lt_of_need {n : Nat} (h : f.need name position Json.word? = some n) : n < wordLimit := by
  obtain ⟨_, -, hr⟩ := need_eq_some_iff.mp h
  exact Json.lt_of_word? hr

/-- A needed payload fits. -/
theorem fits_of_need {p : Payload} (h : f.need name position Payload.ofJson? = some p) :
    p.Fits := by
  obtain ⟨_, -, hr⟩ := need_eq_some_iff.mp h
  exact Payload.fits_of_ofJson? hr

theorem fits_of_orElse {p : Payload} (h : f.orElse name position .null Payload.ofJson? = some p) :
    p.Fits := by
  rcases orElse_eq_some_iff.mp h with ⟨-, rfl⟩ | ⟨_, -, hr⟩
  · trivial
  · exact Payload.fits_of_ofJson? hr

/-! Fields of an object that names nothing twice. -/

variable {members : List (String × Json)} {value : Json} (hd : Keyed.Distinct members)

include hd

/-- A member is found under its name. -/
theorem find?_of_mem (hm : (name, value) ∈ members) (position : Nat) :
    (named members).find? name position = some (some value) := Keyed.sole?_of_mem hd hm

/-- A needed member that is there is read. -/
theorem need_of_mem (hm : (name, value) ∈ members) {a : α}
    (hr : read value = some a) : (named members).need name position read = some a :=
  need_eq_some_iff.mpr ⟨value, find?_of_mem hd hm position, hr⟩

/-- A member with a default that is there is read. -/
theorem orElse_of_mem (hm : (name, value) ∈ members)
    {default a : α} (hr : read value = some a) :
    (named members).orElse name position default read = some a :=
  orElse_eq_some_iff.mpr (.inr ⟨value, find?_of_mem hd hm position, hr⟩)

theorem need_string {text : String} (hm : (name, .string text) ∈ members) :
    (named members).need name position Json.string? = some text := need_of_mem hd hm rfl

theorem need_word {n : Nat} (hm : (name, .nat n) ∈ members) (hn : n < wordLimit) :
    (named members).need name position Json.word? = some n := need_of_mem hd hm (Json.word?_nat hn)

theorem need_path {path : List Nat} (hm : (name, pathJson path) ∈ members)
    (hp : ∀ n ∈ path, n < wordLimit) :
    (named members).need name position readPath = some path :=
  need_of_mem hd hm (readPath_pathJson hp)

/-- A needed payload that fits is read back. -/
theorem need_payload {p : Payload} (hm : (name, p.toJson) ∈ members) (hp : p.Fits) :
    (named members).need name position Payload.ofJson? = some p :=
  need_of_mem hd hm (Payload.ofJson?_toJson hp)

/-- A payload with a default that fits is read back. -/
theorem orElse_payload {p : Payload} (hm : (name, p.toJson) ∈ members) (hp : p.Fits) :
    (named members).orElse name position .null Payload.ofJson? = some p :=
  orElse_of_mem hd hm (Payload.ofJson?_toJson hp)

/-- A namespace is read back, and so is the lack of one. -/
theorem orElse_space {space : Option String} (hm : (name, .ofOption .string space) ∈ members) :
    (named members).orElse name position none readSpace = some space :=
  orElse_of_mem hd hm (readSpace_ofOption space)

end Fields

/-! ## The parts of an edit -/

/-- The fields are those of an edit: there are no more by position than it has, and each part of
the edit can be read from its field. -/
def Fields.Spell (f : Fields) : Edit → Prop
  | .createElement tag id =>
    f.atMost 2 ∧ f.need "tag" 0 Json.string? = some tag ∧ f.need "id" 1 Json.word? = some id
  | .createElementNs tag id space =>
    f.atMost 3 ∧ f.need "tag" 0 Json.string? = some tag ∧ f.need "id" 1 Json.word? = some id ∧
      f.need "namespace" 2 Json.string? = some space
  | .createTextNode text id =>
    f.atMost 2 ∧ f.need "text" 0 Json.string? = some text ∧ f.need "id" 1 Json.word? = some id
  | .createPlaceholder id => f.atMost 1 ∧ f.need "id" 0 Json.word? = some id
  | .setNode id value =>
    f.atMost 2 ∧ f.need "id" 0 Json.word? = some id ∧
      f.need "value" 1 Payload.ofJson? = some value
  | .pushRoot id => f.atMost 1 ∧ f.need "id" 0 Json.word? = some id
  | .popRoot => f.atMost 0
  | .appendChildren count => f.atMost 1 ∧ f.need "count" 0 Json.word? = some count
  | .replaceWith id count =>
    f.atMost 2 ∧ f.need "id" 0 Json.word? = some id ∧ f.need "count" 1 Json.word? = some count
  | .insertAfter id count =>
    f.atMost 2 ∧ f.need "id" 0 Json.word? = some id ∧ f.need "count" 1 Json.word? = some count
  | .insertBefore id count =>
    f.atMost 2 ∧ f.need "id" 0 Json.word? = some id ∧ f.need "count" 1 Json.word? = some count
  | .remove id => f.atMost 1 ∧ f.need "id" 0 Json.word? = some id
  | .setText id text =>
    f.atMost 2 ∧ f.need "id" 0 Json.word? = some id ∧ f.need "text" 1 Json.string? = some text
  | .setAttribute id name value space =>
    f.atMost 4 ∧ f.need "id" 0 Json.word? = some id ∧ f.need "name" 1 Json.string? = some name ∧
      f.orElse "value" 2 .null Payload.ofJson? = some value ∧
      f.orElse "namespace" 3 none readSpace = some space
  | .removeAttribute id name space =>
    f.atMost 3 ∧ f.need "id" 0 Json.word? = some id ∧ f.need "name" 1 Json.string? = some name ∧
      f.orElse "namespace" 2 none readSpace = some space
  | .newEventListener name id handler =>
    f.atMost 3 ∧ f.need "name" 0 Json.string? = some name ∧ f.need "id" 1 Json.word? = some id ∧
      f.orElse "handler" 2 .null Payload.ofJson? = some handler
  | .removeEventListener id name =>
    f.atMost 2 ∧ f.need "id" 0 Json.word? = some id ∧ f.need "name" 1 Json.string? = some name
  | .saveTemplate name count =>
    f.atMost 2 ∧ f.need "name" 0 Json.string? = some name ∧
      f.need "count" 1 Json.word? = some count
  | .loadTemplate name index id =>
    f.atMost 3 ∧ f.need "name" 0 Json.string? = some name ∧
      f.need "index" 1 Json.word? = some index ∧ f.need "id" 2 Json.word? = some id
  | .assignId path id =>
    f.atMost 2 ∧ f.need "path" 0 readPath = some path ∧ f.need "id" 1 Json.word? = some id
  | .replacePlaceholder path count =>
    f.atMost 2 ∧ f.need "path" 0 readPath = some path ∧ f.need "count" 1 Json.word? = some count

/-- Reading finds the edit of the name whose fields are given. -/
theorem ofFields?_eq_some_iff {type : String} {f : Fields} {edit : Edit} :
    ofFields? type f = some edit ↔ type = edit.opcode ∧ f.Spell edit := by
  constructor
  · intro h
    unfold ofFields? at h
    split at h
    case h_22 => cases h
    all_goals
      simp only [Option.bind_eq_bind, Option.bind_eq_some_iff, Option.guard_eq_some',
        Option.pure_def, Option.some.injEq] at h
      grind [opcode, Fields.Spell]
  · rintro ⟨rfl, h⟩
    cases edit <;> simp only [Fields.Spell] at h <;>
      simp only [opcode, ofFields?, h, guard_true, Option.pure_def, Option.bind_eq_bind,
        Option.bind_some]

/-- The ids, counts, positions and handles of an edit are below the limit of words. -/
def Fits : Edit → Prop
  | .createElement _ id | .createElementNs _ id _ | .createTextNode _ id
  | .createPlaceholder id | .pushRoot id | .remove id | .setText id _
  | .removeAttribute id _ _ | .removeEventListener id _ => id < wordLimit
  | .setNode id value | .setAttribute id _ value _ | .newEventListener _ id value =>
    id < wordLimit ∧ value.Fits
  | .popRoot => True
  | .appendChildren count | .saveTemplate _ count => count < wordLimit
  | .replaceWith id count | .insertAfter id count | .insertBefore id count
  | .loadTemplate _ count id => id < wordLimit ∧ count < wordLimit
  | .assignId path n | .replacePlaceholder path n => (∀ i ∈ path, i < wordLimit) ∧ n < wordLimit

/-- An edit that is read fits the words of the wire. -/
theorem Fields.Spell.fits {f : Fields} {edit : Edit} (h : f.Spell edit) : edit.Fits := by
  cases edit <;> simp only [Fields.Spell] at h <;>
    grind [Fits, Fields.lt_of_need, Fields.fits_of_need, Fields.fits_of_orElse,
      Fields.lt_of_need_path]

/-- No field of an edit is called like another or like its tag. -/
theorem distinct_members (edit : Edit) (tag : Json) :
    Keyed.Distinct (("type", tag) :: edit.members) := by
  cases edit <;> simp [members, Keyed.Distinct]

/-- What is written of an edit gives its fields. -/
theorem spell_members {edit : Edit} (h : edit.Fits) (tag : Json) :
    (Fields.named (("type", tag) :: edit.members)).Spell edit := by
  have hd := edit.distinct_members tag
  cases edit with
  | setAttribute id name value space =>
    exact ⟨rfl, Fields.need_word hd (by simp [members]) h.1,
      Fields.need_string hd (by simp [members]), Fields.orElse_payload hd (by simp [members]) h.2,
      Fields.orElse_space hd (by simp [members])⟩
  | _ =>
    simp only [Fits] at h
    simp only [Fields.Spell, members] at hd ⊢
    grind [Fields.atMost, Fields.need_string, Fields.need_word, Fields.need_path,
      Fields.need_payload, Fields.orElse_payload, Fields.orElse_space]

/-- The tag of an edit is the name of the instruction. -/
theorem tag_eq_opcode (edit : Edit) : edit.tag = edit.opcode := by
  cases edit <;> simp only [tag, constructorName, opcode] <;> decide +kernel

/-- An edit is written as its opcode, followed by its own members. -/
theorem toJson_eq (edit : Edit) :
    edit.toJson = .object (("type", .string edit.opcode) :: edit.members) := by
  rw [toJson, tag_eq_opcode]

/-! ## Reading what was written -/

/-- An edit that fits is read back. -/
theorem ofJson?_toJson {edit : Edit} (h : edit.Fits) : ofJson? edit.toJson = some edit := by
  have hd := edit.distinct_members (.string edit.opcode)
  rw [toJson_eq, ofJson?, Keyed.sole?_of_mem hd List.mem_cons_self]
  exact ofFields?_eq_some_iff.mpr ⟨rfl, spell_members h _⟩

/-- Edits that fit are read back as a list. -/
theorem listOfJson?_toJson {edits : List Edit} (h : ∀ edit ∈ edits, edit.Fits) :
    listOfJson? (.array (edits.map toJson)) = some edits := by
  show (edits.map toJson).mapM ofJson? = some edits
  induction edits with
  | nil => rfl
  | cons edit rest ih =>
    rw [List.map_cons, List.mapM_cons, ofJson?_toJson (h edit List.mem_cons_self),
      ih fun other hm => h other (List.mem_cons_of_mem edit hm)]
    rfl

/-- What the type of an edit is read from: the member of that name, or the first item. -/
def tag? : Json → Option Json
  | .object members => (Keyed.sole? members "type").join
  | .array items => items.head?
  | _ => none

/-- An edit is read from a value that is tagged with its name and gives its fields. -/
theorem spell_of_ofJson? {v : Json} {edit : Edit} (h : ofJson? v = some edit) :
    tag? v = some (.string edit.opcode) ∧ ∃ f : Fields, f.Spell edit := by
  have hstring : ∀ {value : Json} {name : String}, value.string? = some name →
      value = .string name := by
    intro value name hv
    cases value <;> cases hv
    rfl
  unfold ofJson? at h
  split at h
  · next members =>
    simp only [Option.bind_eq_bind, Option.bind_eq_some_iff] at h
    obtain ⟨_, htype, value, rfl, name, hname, h⟩ := h
    obtain ⟨rfl, hspell⟩ := ofFields?_eq_some_iff.mp h
    refine ⟨?_, _, hspell⟩
    rw [tag?, htype, hstring hname]
    rfl
  · next type items =>
    simp only [Option.bind_eq_bind, Option.bind_eq_some_iff] at h
    obtain ⟨name, hname, h⟩ := h
    obtain ⟨rfl, hspell⟩ := ofFields?_eq_some_iff.mp h
    refine ⟨?_, _, hspell⟩
    rw [tag?, hstring hname]
    rfl
  · cases h

/-- An edit that is read fits the words of the wire. -/
theorem fits_of_ofJson? {v : Json} {edit : Edit} (h : ofJson? v = some edit) : edit.Fits := by
  obtain ⟨-, f, hspell⟩ := spell_of_ofJson? h
  exact hspell.fits

/-- Edits and payloads that fit the words of the wire are read back from what is written of them.
Each edit is written under the name of its instruction and read under that name only. Whatever
form an edit or a payload was read from, it is read again from what is written of it. -/
theorem wire_round_trip :
    (∀ edits : List Edit, (∀ edit ∈ edits, edit.Fits) →
      listOfJson? (.array (edits.map toJson)) = some edits) ∧
    (∀ value : Payload, value.Fits → Payload.ofJson? value.toJson = some value) ∧
    (∀ edit : Edit, tag? edit.toJson = some (.string edit.opcode)) ∧
    (∀ v edit, ofJson? v = some edit →
      tag? v = some (.string edit.opcode) ∧ ofJson? edit.toJson = some edit) ∧
    (∀ v value, Payload.ofJson? v = some value →
      Payload.ofJson? value.toJson = some value) := by
  refine ⟨fun edits h => listOfJson?_toJson h, fun value h => Payload.ofJson?_toJson h, ?_, ?_, ?_⟩
  · intro edit
    have hd := edit.distinct_members (.string edit.opcode)
    rw [toJson_eq, tag?, Keyed.sole?_of_mem hd List.mem_cons_self]
    rfl
  · intro v edit h
    exact ⟨(spell_of_ofJson? h).1, ofJson?_toJson (fits_of_ofJson? h)⟩
  · intro v value h
    exact Payload.ofJson?_toJson (Payload.fits_of_ofJson? h)

/-- Edits with an id at the limit, a number, a path, a namespace and a defaulted handler. -/
def wireSample : List Edit :=
  [.setNode 18446744073709551615 (.number 0.5), .assignId [0, 3] 7,
    .setAttribute 7 "href" (.text "#a") (some "http://www.w3.org/1999/xlink"),
    .newEventListener "click" 7 .null, .popRoot]

/-- The sample is read back; an edit given by position with its defaults left out, and one given by
name with its fields in another order and one unknown, are read again from their full forms. -/
theorem wire_round_trip_sample :
    (∀ edit ∈ wireSample, edit.Fits) ∧
    listOfJson? (.array (wireSample.map toJson)) = some wireSample ∧
    ofJson? (.array [.string "set_attribute", .nat 1, .string "hidden"]) =
      some (.setAttribute 1 "hidden" .null none) ∧
    ofJson? (toJson (.setAttribute 1 "hidden" .null none)) =
      some (.setAttribute 1 "hidden" .null none) ∧
    ofJson? (.object [("count", .nat 2), ("by", .null), ("type", .string "insert_after"),
      ("id", .nat 1)]) = some (.insertAfter 1 2) ∧
    ofJson? (toJson (.insertAfter 1 2)) = some (.insertAfter 1 2) := by
  have hfits : ∀ edit ∈ wireSample, edit.Fits := by
    simp [wireSample, Fits, Payload.Fits, wordLimit]
  have hshort : ofJson? (.array [.string "set_attribute", .nat 1, .string "hidden"]) =
      some (.setAttribute 1 "hidden" .null none) := rfl
  have hmixed : ofJson? (.object [("count", .nat 2), ("by", .null),
      ("type", .string "insert_after"), ("id", .nat 1)]) = some (.insertAfter 1 2) := rfl
  obtain ⟨hlist, -, -, hagain, -⟩ := wire_round_trip
  exact ⟨hfits, hlist wireSample hfits, hshort, (hagain _ _ hshort).2, hmixed,
    (hagain _ _ hmixed).2⟩

end Edit

end PageHost
