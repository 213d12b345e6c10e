import Fleet.Text.Quoted
import Fleet.Time.Span

/-!
# Errors

What can go wrong, as causes; `Error.message` words them.

* `Error.code?`: the code of an error the service reported.
* `isConflict`, `isTransient`, `isRetryable`: how a caller may react.
* `isLocal`: raised by the client before anything is sent.
-/

namespace Fleet

open Text

/-- The codes the service reports. -/
inductive Code where
  | unknown | invalidArgument | notFound | alreadyExists | permissionDenied | unauthenticated
  | failedPrecondition | aborted | resourceExhausted | unavailable | deadlineExceeded | internal
  | unimplemented
  deriving DecidableEq, Repr

/-- The written form of a code. -/
def Code.text : Code → String
  | unknown => "unknown"
  | invalidArgument => "invalid_argument"
  | notFound => "not_found"
  | alreadyExists => "already_exists"
  | permissionDenied => "permission_denied"
  | unauthenticated => "unauthenticated"
  | failedPrecondition => "failed_precondition"
  | aborted => "aborted"
  | resourceExhausted => "resource_exhausted"
  | unavailable => "unavailable"
  | deadlineExceeded => "deadline_exceeded"
  | internal => "internal"
  | unimplemented => "unimplemented"

/-- What the service reports about a failed call. -/
structure Status where
  code : Code
  reason : String
  deriving DecidableEq, Repr

/-- The code and the reason of a status. -/
def Status.text (s : Status) : String :=
  s.code.text ++ ": " ++ s.reason

/-- Why a selector term is refused. -/
inductive TermFault where
  | unbalanced | missingSet | unterminatedSet | notSetTerm | emptySet | unknownOperator
  deriving DecidableEq, Repr

/-- The wording of a refused selector term. -/
def TermFault.text : TermFault → String
  | unbalanced => "unbalanced parenthesis"
  | missingSet => "missing value set"
  | unterminatedSet => "unterminated value set"
  | notSetTerm => "expected \x60key in (...)\x60 or \x60key notin (...)\x60"
  | emptySet => "empty value set"
  | unknownOperator => "unknown set operator"

/-- Why an argument is refused. -/
inductive ArgumentFault where
  | emptyId (label : String)
  | emptyWireName (label : String)
  | badPattern (pattern : String)
  | badKey (term : String)
  | badTerm (fault : TermFault) (term : String)
  | other (reason : String)
  deriving DecidableEq, Repr

/-- What stands for the pattern compiler's own words. -/
def patternReason : String := "<regex>"

/-- The wording of a refused argument. -/
def ArgumentFault.text : ArgumentFault → String
  | emptyId label => label ++ " id must not be empty"
  | emptyWireName label => "empty wire type name for kind " ++ label
  | badPattern pattern => "invalid id pattern " ++ quote pattern ++ ": " ++ patternReason
  | badKey term => "invalid label key in selector term " ++ quote term
  | badTerm fault term => fault.text ++ " in selector term " ++ quote term
  | other reason => reason

/-- Why a document is refused. -/
inductive DocumentFault where
  | unreadable
  | wrongKind (declared label wireName : String)
  | noId
  | noDocuments
  | other (reason : String)
  deriving DecidableEq, Repr

/-- The wording of a refused document. What stands for a reader's own words is `<decoder>`. -/
def DocumentFault.text : DocumentFault → String
  | unreadable => "<decoder>"
  | wrongKind declared label wireName =>
    "document type " ++ declared ++ " does not match kind " ++ label ++ " (" ++ wireName ++ ")"
  | noId => "document metadata has no id"
  | noDocuments => "no documents found"
  | other reason => reason

/-- Why a configuration is refused. -/
inductive ConfigFault where
  | emptyEndpoint | zeroTimeout | longTimeout (most : Span) | emptyNamespace
  | unset (name : String)
  | badReadOnly (name value : String)
  | badTimeout (name : String)
  | clockOverflow (timeout : Span)
  | unserved (endpoint : String)
  | other (reason : String)
  deriving DecidableEq, Repr

/-- The wording of a refused configuration. What stands for the words about a bad span is
`<duration>`. -/
def ConfigFault.text : ConfigFault → String
  | emptyEndpoint => "endpoint must not be empty"
  | zeroTimeout => "timeout must be greater than zero"
  | longTimeout most => "timeout must not exceed " ++ most.text
  | emptyNamespace => "default namespace must not be empty"
  | unset name => name ++ " is not set"
  | badReadOnly name value => "invalid " ++ name ++ " value: " ++ value
  | badTimeout name => "invalid " ++ name ++ ": <duration>"
  | clockOverflow timeout => "timeout " ++ timeout.brief ++ " overflows the clock"
  | unserved endpoint => "memory connector cannot serve endpoint " ++ endpoint
  | other reason => reason

/-- Why a file cannot be read. -/
inductive FileFault where
  | notFound | invalidData
  | other (reason : String)
  deriving DecidableEq, Repr

/-- The wording of an unreadable file. -/
def FileFault.text : FileFault → String
  | notFound => "NotFound"
  | invalidData => "InvalidData"
  | other reason => reason

/-- Everything that can go wrong in a call. -/
inductive Error where
  | notRegistered (label : String)
  | invalidArgument (fault : ArgumentFault)
  | readOnly (operation type : String)
  | deadlineExceeded (operation : String) (timeout : Span)
  | cancelled (operation : String)
  | remote (status : Status)
  | document (source : String) (fault : DocumentFault)
  | encoding (reason : String)
  | configuration (fault : ConfigFault)
  | internal (reason : String)
  | file (fault : FileFault)
  deriving DecidableEq, Repr

namespace Error

/-- The wording of an error. -/
def message : Error → String
  | notRegistered label => "Resource kind not registered: " ++ label
  | invalidArgument fault => "Invalid argument: " ++ fault.text
  | readOnly operation type =>
    "Operation " ++ operation ++ " on " ++ type ++ " rejected: client is in read-only mode"
  | deadlineExceeded operation timeout =>
    "Deadline exceeded for " ++ operation ++ " after " ++ timeout.brief
  | cancelled operation => "Call " ++ operation ++ " was cancelled"
  | remote status => "Remote error: " ++ status.text
  | document source fault => "Failed to parse " ++ source ++ ": " ++ fault.text
  | encoding reason => "Failed to encode spec: " ++ reason
  | configuration fault => "Configuration error: " ++ fault.text
  | internal reason => "Internal error: " ++ reason
  | file fault => "IO error: " ++ fault.text

/-- The code of an error the service reported. -/
def code? : Error → Option Code
  | remote status => some status.code
  | _ => none

/-- The service knows no such resource. -/
def isNotFound (e : Error) : Bool := e.code? == some .notFound

/-- The service holds the resource already. -/
def isAlreadyExists (e : Error) : Bool := e.code? == some .alreadyExists

/-- The service refused a write over its present state. -/
def isConflict (e : Error) : Bool :=
  e.code? == some .aborted || e.code? == some .failedPrecondition

/-- The service denies the caller. -/
def isPermissionDenied (e : Error) : Bool := e.code? == some .permissionDenied

/-- The client refuses to write. -/
def isReadOnly : Error → Bool
  | readOnly _ _ => true
  | _ => false

/-- A deadline passed. -/
def isDeadlineExceeded : Error → Bool
  | deadlineExceeded _ _ => true
  | _ => false

/-- The cause may pass by itself. -/
def isTransient (e : Error) : Bool :=
  e.isDeadlineExceeded || e.code? == some .unavailable || e.code? == some .deadlineExceeded ||
    e.code? == some .resourceExhausted

/-- The same call may succeed when made again. -/
def isRetryable (e : Error) : Bool := e.isTransient || e.isConflict

/-- Raised by the client on its own, before a call. -/
def isLocal : Error → Bool
  | notRegistered _ | invalidArgument _ | readOnly _ _ | document _ _ | file _ => true
  | _ => false

end Error

end Fleet
