/-!
# Log settings

There are two logs: the general one, whose level is chosen, and the wire log,
which is either on, at the level of debugging, or off, at that of warnings.
Settings may be made again and again; they replace the levels, but the console
the general log writes to is attached once.
-/

namespace CloudClient

/-- The state of the logs. -/
structure LogSettings where
  /-- The level of the general log. -/
  level : Int
  /-- The level of the wire log. -/
  wireLevel : Int
  /-- How many consoles the general log writes to. -/
  consoles : Nat
  deriving DecidableEq, Repr

namespace LogSettings

/-- The name of the general log. -/
def logName : String := "novagate"

/-- The level of debugging. -/
def debug : Int := 10

/-- The level of information, which is the general log's unless another is
chosen. -/
def info : Int := 20

/-- The level of warnings. -/
def warning : Int := 30

/-- The state before any settings are made. -/
def initial : LogSettings := ⟨info, warning, 0⟩

/-- The state after settings are made. -/
def configure (s : LogSettings) (level : Int) (wire : Bool) : LogSettings :=
  ⟨level, if wire then debug else warning, max s.consoles 1⟩

end LogSettings

end CloudClient
