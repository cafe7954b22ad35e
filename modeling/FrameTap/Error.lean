import FrameTap.Endpoint
import FrameTap.Transport.Code

/-!
# Errors

What can go wrong while a listener is set up and runs.  An error that only passes on
the report of something below it has that report as its cause.
-/

namespace FrameTap

/-- Why a sink did not take what it was given: it said so in words of its own, or it
went on taking nothing. -/
inductive WriteFault where
  | refused (why : Text)
  | tookNothing
  deriving DecidableEq

def WriteFault.message : WriteFault → Text
  | .refused why => why
  | .tookNothing => "failed to write whole buffer".toList

inductive Error where
  | transport (code : Transport.Code)
  | endpoint (fault : Endpoint.ParseError)
  | noEndpoints
  | output (fault : WriteFault)
  | json (fault : WriteFault)
  deriving DecidableEq

namespace Error

def message : Error → Text
  | transport code => "transport error: ".toList ++ code.message
  | endpoint fault => fault.message
  | noEndpoints => "no endpoints configured".toList
  | output fault => "failed to write output: ".toList ++ fault.message
  | json fault => "failed to render frame as json: ".toList ++ fault.message

/-- The report that the error passes on, if it adds words to one. -/
def cause? : Error → Option Text
  | transport code => some code.message
  | output fault => some fault.message
  | json fault => some fault.message
  | endpoint _ | noEndpoints => none

end Error
end FrameTap
