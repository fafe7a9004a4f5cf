import PageHost.Outcome
import PageHost.Json.Basic
import PageHost.Text.Blank
import PageHost.Url.Query
import PageHost.Url.Reference
/-!
# Session history

The places that a page has been to and the one at which it is. A push drops the
places after the current one; moving back and forward drops nothing. A page may
only name places of its own origin, except by leaving the URL as it is.
-/

namespace PageHost

/-- Where a page is, taken apart for its scripts. -/
structure Location where
  href : String
  path : String
  /-- Without its sign, and empty when there is none. -/
  query : String
  /-- Without its sign, and empty when there is none. -/
  fragment : String
deriving Repr, DecidableEq

namespace Location

/-- The location of a URL. -/
def ofUrl (url : Url) : Location where
  href := url.href
  path := url.path
  query := url.query.getD ""
  fragment := url.fragment.getD ""

/-- The decoded names and values of the query. -/
def pairs (location : Location) : List (String × String) := Url.queryPairs location.query

end Location

/-- Why a history does not move. -/
inductive NavigationError where
  | invalidUrl (text : String) (cause : Url.UrlError)
  | crossOrigin (current target : Url.Origin)
deriving Repr, DecidableEq

/-- The text of an error. -/
def NavigationError.message : NavigationError → String
  | .invalidUrl text cause => "failed to parse URL '" ++ text ++ "': " ++ cause.message
  | .crossOrigin current target =>
    "cannot move history from " ++ current.text ++ " to a different origin (" ++ target.text ++ ")"

/-- A place in a history. -/
structure HistoryEntry where
  url : Url
  title : String
  /-- What a script keeps with the place. -/
  state : Json

/-- The places that a page has been to, and the position of the current one. -/
structure History where
  entries : List HistoryEntry
  index : Nat
  index_lt : index < entries.length

namespace History

/-- A history of one place. -/
def ofUrl (url : Url) : History where
  entries := [⟨url, "", .null⟩]
  index := 0
  index_lt := by simp

/-- A history that starts at the URL in a text. Blanks around it do not count,
but an error quotes them. -/
def start (text : String) : Except NavigationError History :=
  match Url.parse (Text.trimBlanks text) with
  | .ok url => .ok (ofUrl url)
  | .error e => .error (.invalidUrl text e)

/-- The current place. -/
def current (h : History) : HistoryEntry := h.entries.get ⟨h.index, h.index_lt⟩

/-- The current location. -/
def location (h : History) : Location := .ofUrl h.current.url

/-- The number of places. -/
def size (h : History) : Nat := h.entries.length

/-- Whether there are no places. -/
def isEmpty (h : History) : Bool := h.entries.isEmpty

/-- Whether there is a place before the current one. -/
def canGoBack (h : History) : Bool := decide (0 < h.index)

/-- Whether there is a place after the current one. -/
def canGoForward (h : History) : Bool := decide (h.index + 1 < h.entries.length)

/-- The URL that a script asks for: the current one if it names none, otherwise
one of the same origin. -/
def resolve (h : History) (reference : Option String) : Except NavigationError Url :=
  let here := h.current.url
  match reference with
  | none => .ok here
  | some text =>
    match here.join text with
    | .error e => .error (.invalidUrl text e)
    | .ok there =>
      if there.origin.same here.origin then .ok there
      else .error (.crossOrigin here.origin there.origin)

/-- The history with a place put after the current one, which is then the last. -/
def pushEntry (h : History) (entry : HistoryEntry) : History where
  entries := h.entries.take (h.index + 1) ++ [entry]
  index := h.index + 1
  index_lt := by
    have := h.index_lt
    simp only [List.length_append, List.length_take, List.length_singleton]
    omega

/-- The history with another place instead of the current one. -/
def replaceEntry (h : History) (entry : HistoryEntry) : History where
  entries := h.entries.set h.index entry
  index := h.index
  index_lt := by simpa using h.index_lt

/-- Changes the history for the URL of a reference, unless the reference is refused. -/
def changeInPlace (reference : Option String) (change : History → Url → History) :
    EStateM NavigationError History Unit := fun h =>
  match h.resolve reference with
  | .error e => .error e h
  | .ok url => .ok () (change h url)

/-- Moves to a new place after the current one. -/
def pushInPlace (state : Json) (title : String) (reference : Option String) :
    EStateM NavigationError History Unit :=
  changeInPlace reference fun h url => h.pushEntry ⟨url, title, state⟩

/-- The history after a move to a new place, or why it does not move. -/
def push (h : History) (state : Json) (title : String) (reference : Option String) :
    Except NavigationError History :=
  (outcome (pushInPlace state title reference) h).map Prod.snd

/-- Replaces the current place. -/
def replaceInPlace (state : Json) (title : String) (reference : Option String) :
    EStateM NavigationError History Unit :=
  changeInPlace reference fun h url => h.replaceEntry ⟨url, title, state⟩

/-- The history with another current place, or why it is not replaced. -/
def replace (h : History) (state : Json) (title : String) (reference : Option String) :
    Except NavigationError History :=
  (outcome (replaceInPlace state title reference) h).map Prod.snd

/-- Moves one place back, if there is one. -/
def back? (h : History) : Option History :=
  if 0 < h.index then
    some ⟨h.entries, h.index - 1, Nat.lt_of_le_of_lt (Nat.sub_le h.index 1) h.index_lt⟩
  else none

/-- Moves one place forward, if there is one. -/
def forward? (h : History) : Option History :=
  if hlt : h.index + 1 < h.entries.length then some ⟨h.entries, h.index + 1, hlt⟩ else none

end History

end PageHost
