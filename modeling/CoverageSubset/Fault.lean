/-!
# Faults of the coverage service

The exception reports of the service: each fault has a text, an exception code, the request
parameter it is located at and a status. All but an internal fault blame the request. Trimming where
only slicing is offered keeps a kind of its own, though its code is that of any other bad subset.
-/

namespace CoverageSubset

/-- The exception codes of the service. -/
inductive ExceptionCode where
  | invalidAxisLabel
  | invalidSubsetting
  | invalidParameterValue
  | missingParameterValue
  | noSuchCoverage
  | noApplicableCode
deriving DecidableEq

/-- The name of a code in a report. -/
def ExceptionCode.name : ExceptionCode → String
  | invalidAxisLabel => "InvalidAxisLabel"
  | invalidSubsetting => "InvalidSubsetting"
  | invalidParameterValue => "InvalidParameterValue"
  | missingParameterValue => "MissingParameterValue"
  | noSuchCoverage => "NoSuchCoverage"
  | noApplicableCode => "NoApplicableCode"

/-- What a request can be answered with instead of a result (specification 11.1, `WcsError`). -/
inductive Fault where
  /-- An axis label that names no axis. -/
  | invalidAxisLabel (locator text : String)
  /-- A subset that cannot be taken. -/
  | invalidSubsetting (locator text : String)
  /-- An interval on a dimension that only offers slices. -/
  | trimmingNotSupported (locator dimension : String)
  /-- A parameter with a value that means nothing here. -/
  | invalidParameter (locator text : String)
  /-- A parameter that is required. -/
  | missingParameter (parameter : String)
  /-- An identifier that names no coverage. -/
  | noSuchCoverage (id : String)
  /-- A failure that is not the request's. -/
  | internal (text : String)
deriving DecidableEq

namespace Fault

/-- The parameter at which faults of subsets are located. -/
def subsetLocator : String := "subset"

/-- The text of a report. -/
def message : Fault → String
  | invalidAxisLabel _ text => text
  | invalidSubsetting _ text => text
  | trimmingNotSupported _ dimension =>
    "Trimming on " ++ dimension ++ " is not supported at the moment, only slicing is"
  | invalidParameter locator text => "Invalid parameter value for '" ++ locator ++ "': " ++ text
  | missingParameter parameter => "Missing required parameter: " ++ parameter
  | noSuchCoverage id => "No such coverage: " ++ id
  | internal text => "Internal error: " ++ text

/-- The exception code of a report (specification 11.1, `exception_code`). -/
def code : Fault → ExceptionCode
  | invalidAxisLabel _ _ => .invalidAxisLabel
  | invalidSubsetting _ _ => .invalidSubsetting
  | trimmingNotSupported _ _ => .invalidSubsetting
  | invalidParameter _ _ => .invalidParameterValue
  | missingParameter _ => .missingParameterValue
  | noSuchCoverage _ => .noSuchCoverage
  | internal _ => .noApplicableCode

/-- The request parameter a fault is located at (specification 11.1, `locator`). -/
def locator : Fault → Option String
  | invalidAxisLabel locator _ => some locator
  | invalidSubsetting locator _ => some locator
  | trimmingNotSupported locator _ => some locator
  | invalidParameter locator _ => some locator
  | missingParameter parameter => some parameter
  | noSuchCoverage _ => some "coverageId"
  | internal _ => none

/-- The fault only says that trimming is not offered. -/
def isUnsupported : Fault → Bool
  | trimmingNotSupported _ _ => true
  | _ => false

/-- The status of the response (specification 11.1, `http_status_code`). -/
def status : Fault → Nat
  | noSuchCoverage _ => 404
  | internal _ => 500
  | _ => 400

end Fault

end CoverageSubset
