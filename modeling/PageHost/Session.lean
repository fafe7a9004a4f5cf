import PageHost.Fetch.Bridge
import PageHost.History
import PageHost.Page
import PageHost.Scheduler.Clock
/-!
# Sessions

A session is a page with what the engine drives it through: a scheduler, a
history and a bridge for fetching, all built from one configuration. Reports of
events queue up until the engine takes them, and are dropped once it listens no
more.
-/

namespace PageHost

/-- Why a session cannot start, the first reason in this order. -/
inductive SessionError where
  /-- There is nothing that could run timers. -/
  | noRuntime
  | history (cause : NavigationError)
  | fetch (cause : Fetch.BridgeError)
deriving Repr, DecidableEq

/-- The text of the error that there is no runtime. -/
def noRuntimeMessage : String := "no tokio runtime is running on this thread"

namespace SessionError

/-- What failed. -/
def summary : SessionError → String
  | .noRuntime => "failed to start scheduler"
  | .history _ => "invalid base_url"
  | .fetch _ => "failed to build fetch client"

/-- Why it failed, the outermost cause first. -/
def causes : SessionError → List String
  | .noRuntime => [noRuntimeMessage]
  | .history (.invalidUrl text cause) =>
    [(NavigationError.invalidUrl text cause).message, cause.message]
  | .history cause => [cause.message]
  | .fetch .userAgent => [Fetch.BridgeError.userAgent.message, "failed to parse header value"]
  | .fetch (.baseUrl cause) => [(Fetch.BridgeError.baseUrl cause).message, cause.message]

/-- The text of an error with its causes. -/
def message (e : SessionError) : String := ": ".intercalate (e.summary :: e.causes)

end SessionError

/-- A session. -/
structure Session where
  page : Page
  scheduler : Scheduler
  history : History
  bridge : Fetch.Bridge
  /-- Reports that the engine has not taken, the oldest first. -/
  reports : List EventRecord
  /-- Whether the engine still takes reports. -/
  listening : Bool

namespace Session

/-- Starts a session on a document, if there is a runtime and the configuration
allows it. -/
def start (document : Document) (config : Config) (runtime : Bool) :
    Except SessionError Session :=
  if !runtime then .error .noRuntime
  else
    match History.start config.baseUrl with
    | .error e => .error (.history e)
    | .ok history =>
      match Fetch.Bridge.ofConfig config with
      | .error e => .error (.fetch e)
      | .ok bridge => .ok {
          page := Page.ofDocument document config.strictStack
          scheduler := Scheduler.start (Timing.ofConfig config)
          history
          bridge
          reports := []
          listening := true }

/-- Hands an event to the page and queues the report of it. -/
def handleEvent (s : Session) (event : NativeEvent) : Outcome × Session :=
  let outcome := s.page.dispatch event
  (outcome,
    if s.listening then { s with reports := s.reports ++ outcome.record.toList } else s)

/-- Takes the reports that have queued up. -/
def takeReports (s : Session) : List EventRecord × Session := (s.reports, { s with reports := [] })

/-- Takes no more reports. -/
def stopListening (s : Session) : Session := { s with reports := [], listening := false }

end Session

end PageHost
