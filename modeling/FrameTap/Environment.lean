import FrameTap.Text.Basic

/-!
# The environment

The environment variables that the program looks at.  A variable that is not set has no
value, which is not the same as an empty one.
-/

namespace FrameTap

/-- The variable with endpoints for a command line that names none. -/
def endpointsVariable : Text := "ZMQ_PRINTER_ENDPOINTS".toList

/-- The variable that says which lines of the log are shown. -/
def logVariable : Text := "RUST_LOG".toList

/-- The variable that switches styles on where the program would leave them out. -/
def stylesVariable : Text := "CLICOLOR_FORCE".toList

/-- The variable that switches styles off, whatever else asks for them. -/
def noStylesVariable : Text := "NO_COLOR".toList

structure Environment where
  endpoints? : Option Bytes := none
  log? : Option Bytes := none
  styles? : Option Bytes := none
  noStyles? : Option Bytes := none

namespace Environment

/-- The environment that a look-up by names gives. -/
def ofLookup (value? : Text → Option Bytes) : Environment where
  endpoints? := value? endpointsVariable
  log? := value? logVariable
  styles? := value? stylesVariable
  noStyles? := value? noStylesVariable

/-- A switch is on if its variable has a value that is not empty. -/
def isOn (value? : Option Bytes) : Bool := value?.any fun value => !value.isEmpty

/-- What the command line answers is written with its styles.  The output of the program
is never taken for a terminal, so it takes a variable to ask for them. -/
def showsStyles (env : Environment) : Bool := isOn env.styles? && !isOn env.noStyles?

end Environment
end FrameTap
