import PageHost.History
/-!
# Histories as zippers

A zipper is a current place between the places before it and the places after it. A
history is one list with a position, and reads as a zipper: every move answers as the
zipper does and leaves the history that reads as the zipper after it. What a zipper
makes plain then holds of histories: a step back and a step forward undo each other, and
a step back undoes a push as far as the place and those before it go.
-/

namespace PageHost.History

/-! ## Moves -/

/-- What a script asks of a history. -/
inductive Move where
  | push (state : Json) (title : String) (reference : Option String)
  | replace (state : Json) (title : String) (reference : Option String)
  | back
  | forward

/-- What a move answers. -/
inductive Reply where
  | done
  | refused (cause : NavigationError)
  /-- Where a step leads; none at an end of the history. -/
  | arrived (location : Option Location)
deriving DecidableEq

/-- The history after a step that may not be possible, and where the step leads. -/
def stepTo (h : History) : Option History → Reply × History
  | some next => (.arrived (some next.location), next)
  | none => (.arrived none, h)

/-- The history that is left by a change, which may have been refused. -/
def changeTo : EStateM.Result NavigationError History Unit → Reply × History
  | .ok _ next => (.done, next)
  | .error e after => (.refused e, after)

/-- Makes a move. -/
def move (h : History) : Move → Reply × History
  | .push state title reference => changeTo (pushInPlace state title reference h)
  | .replace state title reference => changeTo (replaceInPlace state title reference h)
  | .back => h.stepTo h.back?
  | .forward => h.stepTo h.forward?

/-- Makes moves one after the other. -/
def moveAll (h : History) : List Move → List Reply × History
  | [] => ([], h)
  | m :: rest =>
    let (reply, next) := h.move m
    let (replies, last) := next.moveAll rest
    (reply :: replies, last)

end History

/-! ## Zippers -/

/-- A place between those before it and those after it, both the nearest first. -/
structure Zipper where
  past : List HistoryEntry
  here : HistoryEntry
  future : List HistoryEntry

namespace Zipper

open History (Move Reply)

/-- Puts a place after the current one and goes there; what came after is dropped. -/
def push (z : Zipper) (entry : HistoryEntry) : Zipper := ⟨z.here :: z.past, entry, []⟩

/-- Puts a place where the current one was. -/
def replace (z : Zipper) (entry : HistoryEntry) : Zipper := ⟨z.past, entry, z.future⟩

/-- Carries the current place over to the future. -/
def back? (z : Zipper) : Option Zipper :=
  match z.past with
  | [] => none
  | nearest :: rest => some ⟨rest, nearest, z.here :: z.future⟩

/-- Carries the current place over to the past. -/
def forward? (z : Zipper) : Option Zipper :=
  match z.future with
  | [] => none
  | nearest :: rest => some ⟨z.here :: z.past, nearest, rest⟩

/-- The URL that a reference asks for here: what a history of this place alone makes of it. -/
def resolve (z : Zipper) (reference : Option String) : Except NavigationError Url :=
  (History.ofUrl z.here.url).resolve reference

/-- The zipper after a change to the place of a URL, unless the URL is refused. -/
def changeTo (z : Zipper) (reference : Option String) (change : Url → Zipper) : Reply × Zipper :=
  match z.resolve reference with
  | .ok url => (.done, change url)
  | .error e => (.refused e, z)

/-- The zipper after a step that may not be possible, and where the step leads. -/
def stepTo (z : Zipper) : Option Zipper → Reply × Zipper
  | some next => (.arrived (some (.ofUrl next.here.url)), next)
  | none => (.arrived none, z)

/-- Makes a move. -/
def move (z : Zipper) : Move → Reply × Zipper
  | .push state title reference => z.changeTo reference fun url => z.push ⟨url, title, state⟩
  | .replace state title reference => z.changeTo reference fun url => z.replace ⟨url, title, state⟩
  | .back => z.stepTo z.back?
  | .forward => z.stepTo z.forward?

/-- Makes moves one after the other. -/
def moveAll (z : Zipper) : List Move → List Reply × Zipper
  | [] => ([], z)
  | m :: rest =>
    let (reply, next) := z.move m
    let (replies, last) := next.moveAll rest
    (reply :: replies, last)

end Zipper

namespace History

/-- The history, read from its current place. -/
def zipper (h : History) : Zipper :=
  ⟨(h.entries.take h.index).reverse, h.current, h.entries.drop (h.index + 1)⟩

variable (h : History)

/-! ## Reading a history -/

theorem getElem_index (hlt : h.index < h.entries.length) : h.entries[h.index] = h.current := rfl

/-- A history of one URL has neither past nor future. -/
theorem zipper_ofUrl (url : Url) : (ofUrl url).zipper = ⟨[], ⟨url, "", .null⟩, []⟩ := rfl

/-- There are as many past entries as the index says. -/
theorem length_past : h.zipper.past.length = h.index := by
  have hlt := h.index_lt
  simp only [zipper, List.length_reverse, List.length_take]
  omega

/-- The entries after the index are the future. -/
theorem length_future : h.zipper.future.length = h.size - (h.index + 1) := List.length_drop

/-- The places in order: those before, the current one, those after. -/
theorem entries_eq :
    h.entries = h.zipper.past.reverse ++ h.zipper.here :: h.zipper.future := by
  have hlt := h.index_lt
  have hdrop : h.entries.drop h.index = h.current :: h.entries.drop (h.index + 1) :=
    List.drop_eq_getElem_cons hlt
  rw [zipper, List.reverse_reverse, ← hdrop, List.take_append_drop]

/-- A history is what its zipper says of it. -/
theorem eq_of_zipper_eq {a b : History} (hz : a.zipper = b.zipper) : a = b := by
  have hentries : a.entries = b.entries := by rw [a.entries_eq, b.entries_eq, hz]
  have hindex : a.index = b.index := by rw [← a.length_past, ← b.length_past, hz]
  cases a
  cases b
  simp_all

/-- A reference is resolved at the current place alone. -/
theorem resolve_zipper (reference : Option String) :
    h.zipper.resolve reference = h.resolve reference := rfl

/-! ## Moving -/

/-- A pushed entry is pushed onto the zipper. -/
theorem zipper_pushEntry (entry : HistoryEntry) :
    (h.pushEntry entry).zipper = h.zipper.push entry := by
  have hlt := h.index_lt
  have hlength : (h.entries.take (h.index + 1)).length = h.index + 1 := by
    rw [List.length_take]
    omega
  have hpast : ((h.pushEntry entry).entries.take (h.pushEntry entry).index).reverse =
      h.current :: (h.entries.take h.index).reverse := by
    show ((h.entries.take (h.index + 1) ++ [entry]).take (h.index + 1)).reverse = _
    rw [List.take_append_of_le_length (by omega), List.take_take, Nat.min_self,
      List.take_succ_eq_append_getElem hlt, List.reverse_append]
    rfl
  have hcurrent : (h.pushEntry entry).current = entry := by
    rw [← getElem_index _ (h.pushEntry entry).index_lt]
    simp only [pushEntry, List.getElem_append_right (Nat.le_of_eq hlength), hlength, Nat.sub_self,
      List.getElem_cons_zero]
  have hfuture : (h.pushEntry entry).entries.drop ((h.pushEntry entry).index + 1) = [] := by
    apply List.drop_eq_nil_of_le
    simp only [pushEntry, List.length_append, hlength, List.length_singleton, Nat.le_refl]
  rw [zipper, hpast, hcurrent, hfuture]
  rfl

theorem zipper_replaceEntry (entry : HistoryEntry) :
    (h.replaceEntry entry).zipper = h.zipper.replace entry := by
  have hcurrent : (h.replaceEntry entry).current = entry := List.getElem_set_self _
  have hpast : (h.entries.set h.index entry).take h.index = h.entries.take h.index :=
    List.take_set_of_le (Nat.le_refl _)
  have hfuture : (h.entries.set h.index entry).drop (h.index + 1) =
      h.entries.drop (h.index + 1) := List.drop_set_of_lt (Nat.lt_succ_self _)
  rw [zipper, hcurrent]
  simp only [replaceEntry, hpast, hfuture]
  rfl

/-- A step back is one of the zipper. -/
theorem zipper_back? : h.back?.map zipper = h.zipper.back? := by
  obtain ⟨entries, index, hlt⟩ := h
  cases index with
  | zero => rfl
  | succ index =>
    have hbefore : index < entries.length := by omega
    have hpast : (entries.take (index + 1)).reverse =
        entries[index] :: (entries.take index).reverse := by
      rw [List.take_succ_eq_append_getElem hbefore, List.reverse_append]
      rfl
    have hfuture : entries.drop (index + 1) = entries[index + 1] :: entries.drop (index + 2) :=
      List.drop_eq_getElem_cons hlt
    simp only [back?, zipper, Zipper.back?, hpast, Nat.zero_lt_succ, if_true, Option.map_some,
      Nat.add_sub_cancel, hfuture]
    rfl

theorem zipper_forward? : h.forward?.map zipper = h.zipper.forward? := by
  obtain ⟨entries, index, hlt⟩ := h
  by_cases hnext : index + 1 < entries.length
  · have hpast : (entries.take (index + 1)).reverse =
        entries[index] :: (entries.take index).reverse := by
      rw [List.take_succ_eq_append_getElem hlt, List.reverse_append]
      rfl
    have hfuture : entries.drop (index + 1) = entries[index + 1] :: entries.drop (index + 2) :=
      List.drop_eq_getElem_cons hnext
    simp only [forward?, zipper, Zipper.forward?, hfuture, hnext, dif_pos, Option.map_some, hpast]
    rfl
  · have hfuture : entries.drop (index + 1) = [] := List.drop_eq_nil_of_le (by omega)
    simp only [forward?, zipper, Zipper.forward?, hfuture, hnext, dif_neg, not_false_iff,
      Option.map_none]

/-- A change answers as the same change of the zipper does, and one that is refused leaves the
history as it was. -/
theorem zipper_changeTo {change : History → Url → History} {onZipper : Url → Zipper}
    (hchange : ∀ url, (change h url).zipper = onZipper url) (reference : Option String) :
    Prod.map id zipper (changeTo (changeInPlace reference change h)) =
      h.zipper.changeTo reference onZipper := by
  rw [Zipper.changeTo, resolve_zipper, changeInPlace]
  cases h.resolve reference with
  | ok url => exact congrArg (Prod.mk Reply.done) (hchange url)
  | error e => rfl

/-- A step answers as the same step of the zipper does. -/
theorem zipper_stepTo (step : Option History) :
    Prod.map id zipper (h.stepTo step) = h.zipper.stepTo (step.map zipper) := by
  cases step <;> rfl

/-- Every move does to the zipper what it does to the history, and answers the same. -/
theorem zipper_move (m : Move) : Prod.map id zipper (h.move m) = h.zipper.move m := by
  cases m with
  | push state title reference =>
    exact h.zipper_changeTo (fun url => h.zipper_pushEntry ⟨url, title, state⟩) reference
  | replace state title reference =>
    exact h.zipper_changeTo (fun url => h.zipper_replaceEntry ⟨url, title, state⟩) reference
  | back =>
    rw [Zipper.move, ← h.zipper_back?]
    exact h.zipper_stepTo h.back?
  | forward =>
    rw [Zipper.move, ← h.zipper_forward?]
    exact h.zipper_stepTo h.forward?

/-- A history follows its zipper over any moves. -/
theorem zipper_moveAll (moves : List Move) :
    Prod.map id zipper (h.moveAll moves) = h.zipper.moveAll moves := by
  induction moves generalizing h with
  | nil => rfl
  | cons m rest ih =>
    simp only [Zipper.moveAll, ← h.zipper_move m, Prod.map_fst, Prod.map_snd, ← ih]
    rfl

/-! ## What a history shows -/

/-- All that a history shows of itself is what the zipper shows. -/
structure Shows (h : History) (z : Zipper) : Prop where
  current : h.current = z.here
  location : h.location = .ofUrl z.here.url
  entries : h.entries = z.past.reverse ++ z.here :: z.future
  index : h.index = z.past.length
  size : h.size = z.past.length + 1 + z.future.length
  canGoBack : h.canGoBack = !z.past.isEmpty
  canGoForward : h.canGoForward = !z.future.isEmpty
  isEmpty : h.isEmpty = false

/-- The size counts past, current entry and future. -/
theorem size_eq : h.size = h.zipper.past.length + 1 + h.zipper.future.length := by
  have hlt : h.index < h.size := h.index_lt
  rw [h.length_past, h.length_future]
  omega

/-- A history shows what its zipper holds. -/
theorem shows_zipper : h.Shows h.zipper where
  current := rfl
  location := rfl
  entries := h.entries_eq
  index := h.length_past.symm
  size := h.size_eq
  canGoBack := by
    rw [canGoBack, ← h.length_past]
    cases h.zipper.past <;> simp
  canGoForward := by
    have hsize : h.entries.length = _ := h.size_eq
    rw [canGoForward, hsize, ← h.length_past]
    cases h.zipper.future <;> simp
  isEmpty := by
    rw [isEmpty, h.entries_eq, List.isEmpty_eq_false_iff]
    simp

/-! ## Steps that undo moves -/

variable {h}

/-- The history that a change leads to is the changed one, unless the reference is refused. -/
theorem outcome_changeInPlace (h : History) (reference : Option String)
    (change : History → Url → History) :
    (outcome (changeInPlace reference change) h).map Prod.snd =
      (h.resolve reference).map (change h) := by
  unfold outcome changeInPlace
  cases h.resolve reference <;> rfl

/-- A push is refused when its reference is, and else puts the entry after the current one. -/
theorem push_eq (h : History) (state : Json) (title : String) (reference : Option String) :
    h.push state title reference =
      (h.resolve reference).map fun url => h.pushEntry ⟨url, title, state⟩ :=
  h.outcome_changeInPlace reference _

/-- A replacement is refused when its reference is, and else exchanges the current entry. -/
theorem replace_eq (h : History) (state : Json) (title : String) (reference : Option String) :
    h.replace state title reference =
      (h.resolve reference).map fun url => h.replaceEntry ⟨url, title, state⟩ :=
  h.outcome_changeInPlace reference _

/-- A step back is undone by a step forward. -/
theorem forward?_of_back? {before : History} (hb : h.back? = some before) :
    before.forward? = some h := by
  have hz : h.zipper.back? = some before.zipper := by rw [← h.zipper_back?, hb, Option.map_some]
  have hforward : before.forward?.map zipper = some h.zipper := by
    rw [before.zipper_forward?]
    unfold Zipper.back? at hz
    split at hz
    · cases hz
    · rename_i nearest rest hpast
      rw [← Option.some.inj hz, Zipper.forward?, ← hpast]
  obtain ⟨next, hnext, hsame⟩ := Option.map_eq_some_iff.mp hforward
  rw [hnext, eq_of_zipper_eq hsame]

/-- A step forward is undone by a step back. -/
theorem back?_of_forward? {next : History} (hf : h.forward? = some next) :
    next.back? = some h := by
  have hz : h.zipper.forward? = some next.zipper := by
    rw [← h.zipper_forward?, hf, Option.map_some]
  have hback : next.back?.map zipper = some h.zipper := by
    rw [next.zipper_back?]
    unfold Zipper.forward? at hz
    split at hz
    · cases hz
    · rename_i nearest rest hfuture
      rw [← Option.some.inj hz, Zipper.back?, ← hfuture]
  obtain ⟨before, hbefore, hsame⟩ := Option.map_eq_some_iff.mp hback
  rw [hbefore, eq_of_zipper_eq hsame]

/-- A step back from a pushed place leads to the place and the past before the push. -/
theorem back?_of_push {next : History} {state : Json} {title : String}
    {reference : Option String} (hp : h.push state title reference = .ok next) :
    ∃ returned, next.back? = some returned ∧ returned.zipper.past = h.zipper.past ∧
      returned.current = h.current := by
  rw [push_eq] at hp
  cases hr : h.resolve reference with
  | error e =>
    rw [hr] at hp
    cases hp
  | ok url =>
    rw [hr] at hp
    cases hp
    have hback := (h.pushEntry ⟨url, title, state⟩).zipper_back?
    rw [h.zipper_pushEntry, Zipper.push, Zipper.back?] at hback
    obtain ⟨returned, hreturned, hz⟩ := Option.map_eq_some_iff.mp hback
    have hreturned' : returned.zipper.past = h.zipper.past := by rw [hz]
    exact ⟨returned, hreturned, hreturned', congrArg Zipper.here hz⟩

/-- A history starts at the URL in a text, with nothing before or after it. -/
theorem start_eq_ok_iff {text : String} :
    start text = .ok h ↔ ∃ url, Url.parse (Text.trimBlanks text) = .ok url ∧ h = ofUrl url := by
  unfold start
  cases Url.parse (Text.trimBlanks text) with
  | ok url => simp [eq_comm]
  | error e => simp

/-- A text that can be parsed starts a history at its URL. -/
theorem start_of_parse {text : String} {url : Url}
    (hp : (Url.parse (Text.trimBlanks text)).toOption = some url) :
    start text = .ok (ofUrl url) := by
  unfold start
  cases hr : Url.parse (Text.trimBlanks text) with
  | ok read =>
    rw [hr] at hp
    rw [← Option.some.inj hp]
  | error e =>
    rw [hr] at hp
    cases hp

/-! ## Runs -/

/-- From the start of a history on, every run of moves answers as the zipper does and ends where
the zipper ends, with a current place inside the history. Wherever a run ends, steps in both
directions undo each other, and a step back from a pushed place returns to the place before. -/
theorem moves_follow_zipper {text : String} (hs : start text = .ok h) :
    (∃ url, Url.parse (Text.trimBlanks text) = .ok url ∧
      h.zipper = ⟨[], ⟨url, "", .null⟩, []⟩) ∧
    ∀ moves : List Move, ∃ after, (h.moveAll moves).2 = after ∧
      (h.moveAll moves).1 = (h.zipper.moveAll moves).1 ∧
      after.Shows (h.zipper.moveAll moves).2 ∧
      (1 ≤ after.size ∧ after.index < after.size) ∧
      (∀ before, after.back? = some before → before.forward? = some after) ∧
      (∀ next, after.forward? = some next → next.back? = some after) ∧
      ∀ state title reference next, after.push state title reference = .ok next →
        ∃ returned, next.back? = some returned ∧ returned.zipper.past = after.zipper.past ∧
          returned.current = after.current := by
  constructor
  · obtain ⟨url, hurl, rfl⟩ := start_eq_ok_iff.mp hs
    exact ⟨url, hurl, zipper_ofUrl url⟩
  · intro moves
    have hrun := h.zipper_moveAll moves
    have hreplies : (h.moveAll moves).1 = (h.zipper.moveAll moves).1 := congrArg Prod.fst hrun
    have hlast : (h.moveAll moves).2.zipper = (h.zipper.moveAll moves).2 := congrArg Prod.snd hrun
    refine ⟨(h.moveAll moves).2, rfl, hreplies, ?_, ?_, ?_, ?_, ?_⟩
    · rw [← hlast]
      exact shows_zipper _
    · have hlt : (h.moveAll moves).2.index < (h.moveAll moves).2.size :=
        (h.moveAll moves).2.index_lt
      omega
    · exact fun before hb => forward?_of_back? hb
    · exact fun next hf => back?_of_forward? hf
    · exact fun state title reference next hp => back?_of_push hp

/-- A page of news. -/
def newsPage (path : String) : Url :=
  ⟨"https", some ⟨"", none, .domain "news.example", none⟩, path, none, none⟩

/-- Two pushes of which the second leads elsewhere, a step back past the start, a step forward
and a replacement. -/
def newsTour : List Move :=
  [.push .null "one" (some "page/1"), .push .null "two" (some "//evil.example/"), .back, .back,
    .forward, .replace .null "other" (some "../other"), .forward]

/-- A run from a page of news. -/
theorem moves_follow_zipper_news :
    start " https://news.example/ " = .ok (ofUrl (newsPage "/")) ∧
    ((ofUrl (newsPage "/")).zipper.moveAll newsTour).1 =
      [.done,
        .refused (.crossOrigin (.tuple "https" (.domain "news.example") 443)
          (.tuple "https" (.domain "evil.example") 443)),
        .arrived (some ⟨"https://news.example/", "/", "", ""⟩), .arrived none,
        .arrived (some ⟨"https://news.example/page/1", "/page/1", "", ""⟩), .done,
        .arrived none] ∧
    ((ofUrl (newsPage "/")).moveAll newsTour).1 =
      ((ofUrl (newsPage "/")).zipper.moveAll newsTour).1 := by
  have hs : start " https://news.example/ " = .ok (ofUrl (newsPage "/")) :=
    start_of_parse (by decide +kernel)
  obtain ⟨-, hrun⟩ := moves_follow_zipper hs
  obtain ⟨_, -, hreplies, -⟩ := hrun newsTour
  exact ⟨hs, by decide +kernel, hreplies⟩

end History

end PageHost
