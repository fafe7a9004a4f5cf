import PageHost.Config.Basic
import PageHost.Files
import PageHost.Keyed
import PageHost.Url.Reference
import PageHost.Yaml.Node
/-!
# Reading a configuration

A configuration is written as a YAML mapping. Settings that are left out keep
their defaults, unknown ones are ignored, and a repeated one or one of the wrong
type makes the whole text malformed. The base URL has to be a URL.
-/

namespace PageHost

/-- Why a configuration cannot be read. -/
inductive ConfigError where
  | file (cause : FileError)
  | malformed
  | baseUrl (cause : Url.UrlError)
deriving Repr, DecidableEq

/-- The text of an error. -/
def ConfigError.message : ConfigError → String
  | .file cause => cause.message
  | .malformed => "failed to parse YAML"
  | .baseUrl cause => "invalid base_url: " ++ cause.message

namespace Config

/-- The base URL of a configuration. -/
def base (config : Config) : Except Url.UrlError Url := Url.parse config.baseUrl

/-! ## The document -/

/-- The settings of a mapping by name; every key has to be a scalar. Where nothing
is written there are no settings. -/
def settings? : Yaml.Node → Option (Keyed String Yaml.Node)
  | .mapping pairs => pairs.mapM fun pair => pair.1.text?.map fun name => (name, pair.2)
  | .scalar "" .plain _ => some []
  | _ => none

/-- A setting, or its default where it is left out; none if it is repeated or of
the wrong type. -/
def setting? {α : Type} (settings : Keyed String Yaml.Node) (name : String)
    (read : Yaml.Node → Option α) (default : α) : Option α := do
  match ← Keyed.sole? settings name with
  | none => return default
  | some node => read node

/-- Reads the capabilities of a host. -/
def capabilities? (default : Capabilities) (node : Yaml.Node) : Option Capabilities := do
  let settings ← settings? node
  let idleCallback ← setting? settings "idle_callback" Yaml.Node.bool? default.idleCallback
  let animationFrame ← setting? settings "animation_frame" Yaml.Node.bool? default.animationFrame
  return ⟨idleCallback, animationFrame⟩

/-- Reads a document. -/
def ofNode? (node : Yaml.Node) : Option Config := do
  let settings ← settings? node
  let word (name : String) (default : Nat) : Option Nat :=
    setting? settings name Yaml.Node.word? default
  let text (name : String) (default : String) : Option String :=
    setting? settings name Yaml.Node.text? default
  let strictStack ← setting? settings "strict_stack" Yaml.Node.bool? default.strictStack
  let frameIntervalMs ← word "frame_interval_ms" default.frameIntervalMs
  let idleDelayMs ← word "idle_delay_ms" default.idleDelayMs
  let idleBudgetMs ← word "idle_budget_ms" default.idleBudgetMs
  let fetchTimeoutSecs ← word "fetch_timeout_secs" default.fetchTimeoutSecs
  let userAgent ← text "user_agent" default.userAgent
  let baseUrl ← text "base_url" default.baseUrl
  let capabilities ←
    setting? settings "capabilities" (capabilities? default.capabilities) default.capabilities
  return {
    strictStack, frameIntervalMs, idleDelayMs, idleBudgetMs, fetchTimeoutSecs, userAgent
    baseUrl, capabilities }

/-- Reads a text without a look at its base URL; one without a document has only
defaults. -/
def ofText? (text : String) : Option Config := do
  match ← Yaml.document? text with
  | none => return default
  | some node => ofNode? node

/-- Reads a text. -/
def ofText (text : String) : Except ConfigError Config :=
  match ofText? text with
  | none => .error .malformed
  | some config =>
    match config.base with
    | .error e => .error (.baseUrl e)
    | .ok _ => .ok config

/-! ## Where it is found -/

/-- The texts of the places where a configuration may be found. -/
structure Sources where
  /-- The file that the caller names, which has to be readable. -/
  named : Option (Except FileError String)
  /-- The file that the environment names, if it exists. -/
  environment : Option (Except FileError String)
  /-- The file of the user, if it exists. -/
  user : Option (Except FileError String)

/-- Reads the first place that there is, the defaults if there is none. -/
def load (sources : Sources) : Except ConfigError Config :=
  match sources.named.or (sources.environment.or sources.user) with
  | none => .ok default
  | some (.error e) => .error (.file e)
  | some (.ok text) => ofText text

end Config

end PageHost
