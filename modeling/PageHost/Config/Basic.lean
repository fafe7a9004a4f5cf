/-!
# Configuration

The settings of a host and their defaults. Times are whole numbers in the unit
that the name says. How a configuration is read and where it is found stands in
the modules beside this one.
-/

namespace PageHost

/-- Which callbacks the host can schedule. -/
structure Capabilities where
  idleCallback : Bool
  animationFrame : Bool
deriving Repr, DecidableEq

/-- The settings of a host. -/
structure Config where
  /-- Whether batches must not leave operands behind. -/
  strictStack : Bool
  frameIntervalMs : Nat
  /-- The delay before an idle callback runs. -/
  idleDelayMs : Nat
  idleBudgetMs : Nat
  fetchTimeoutSecs : Nat
  userAgent : String
  baseUrl : String
  capabilities : Capabilities
deriving Repr, DecidableEq

namespace Config

/-- The settings of a host that is not configured. -/
def default : Config where
  strictStack := true
  frameIntervalMs := 16
  idleDelayMs := 1
  idleBudgetMs := 50
  fetchTimeoutSecs := 30
  userAgent := "mutation-interpreter/0.1.0"
  baseUrl := "http://localhost/"
  capabilities := ⟨true, true⟩

/-- The time between frames, at least a millisecond. -/
def frameInterval (config : Config) : Nat := max config.frameIntervalMs 1

/-- The time after which a fetch is given up, in milliseconds. -/
def fetchTimeoutMs (config : Config) : Nat := config.fetchTimeoutSecs * 1000

end Config

end PageHost
