import PageHost.Config.Reader
import PageHost.Document.Markup
import PageHost.Edit.Wire
import PageHost.Json.Reader
import PageHost.Session
/-!
# Replaying batches

Recorded batches are applied to a blank page with a mount point, and what is then
in its body is printed. A batch that fails does not keep the later ones from being
applied, but the replay as a whole fails.
-/

namespace PageHost

/-- Why a replay fails. -/
inductive ReplayError where
  /-- No batches are named. -/
  | usage
  | config (cause : ConfigError)
  /-- The batches cannot be read from the place with this name. -/
  | unreadable (name : String)
  | malformedBatches
  | session (cause : SessionError)
  | failedBatches (failed total : Nat)
deriving Repr, DecidableEq

/-- What failed, without its causes. -/
def ReplayError.message : ReplayError → String
  | .usage => "usage: replay <batches.json> [config.yaml]"
  | .config _ => "failed to load interpreter config"
  | .unreadable name => "failed to read " ++ name
  | .malformedBatches => "batches must be a JSON array of edit arrays"
  | .session cause => cause.summary
  | .failedBatches failed total => toString failed ++ " of " ++ toString total ++ " batches failed"

namespace Replay

/-- What a replay prints, and why it fails if it does. -/
structure Report where
  printed : String
  error : Option ReplayError
deriving Repr, DecidableEq

/-- The report of a replay that applies nothing. -/
def Report.failure (e : ReplayError) : Report := ⟨"", some e⟩

/-- Reads batches. -/
def batches? (text : String) : Option (List (List Edit)) := do
  let items ← (← Json.parse? text).array?
  items.mapM Edit.listOfJson?

/-- Applies batches; the number of those that fail. -/
def applyAll (page : Page) : List (List Edit) → Nat × Page
  | [] => (0, page)
  | batch :: rest =>
    match Page.applyBatch batch page with
    | .ok _ page => applyAll page rest
    | .error _ page =>
      let (failed, page) := applyAll page rest
      (failed + 1, page)

/-- Replays batches in a session. -/
def inSession (session : Session) (batches : List (List Edit)) : Report :=
  let (failed, page) := applyAll session.page batches
  ⟨page.document.innerHtml Document.body ++ "\n",
    if failed = 0 then none else some (.failedBatches failed batches.length)⟩

/-- Replays the batches in a text. -/
def ofText (config : Config) (text : String) : Report :=
  match batches? text with
  | none => .failure .malformedBatches
  | some batches =>
    match Session.start Page.mounted config true with
    | .error e => .failure (.session e)
    | .ok session => inSession session batches

/-- Replays the batches of a named place, whose text is missing if it cannot be
read. The configuration is read first. -/
def run (sources : Config.Sources) (name : String) (text : Option String) : Report :=
  match Config.load sources with
  | .error e => .failure (.config e)
  | .ok config =>
    match text with
    | none => .failure (.unreadable name)
    | some text => ofText config text

end Replay

end PageHost
