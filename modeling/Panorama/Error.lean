import Panorama.Error.Invalid
import Panorama.Error.Mismatch

/-!
# Errors

Everything the library can refuse, as causes. A cause says what is wrong; its wording is derived
from it by the `message` functions. Errors come in seven kinds, and the kind decides the words in
front of a message and whether an attempt may be repeated. `Failure` adds the outcome of an
operation whose precondition was broken by its caller.
-/

namespace Panorama

/-- Memory that is not to be had. -/
inductive Exhaustion where
  /-- A buffer is larger than any buffer can be. -/
  | allocation (bytes : Nat)
  /-- The size of a buffer does not fit in a word. -/
  | product (left right : Nat)
  /-- The size of a frame does not fit in a word. -/
  | frameSize
  deriving DecidableEq

/-- The wording of an exhaustion. -/
def Exhaustion.message : Exhaustion → String
  | .allocation bytes =>
    s!"allocate {bytes} byte buffer: memory allocation failed because the computed capacity " ++
      "exceeded the collection's maximum"
  | .product left right => s!"buffer size overflow: {left} * {right}"
  | .frameSize => "frame size overflow"

/-- A call that the state of a pipeline or an assembler does not allow. -/
inductive Misuse where
  /-- An input delivers two frames for one set. -/
  | secondFrame (input : Nat)
  /-- A frame set is submitted while the pipeline drains. -/
  | submitAfterEnd
  /-- A frame set is submitted in front of an unretrieved one. -/
  | submitTooEarly (waiting : Nat)
  /-- The worker hands back another cycle than is due. -/
  | wrongCycle (got expected : Nat)
  /-- The worker has nothing to hand back. -/
  | workerStopped
  /-- A job is sent to a worker that has stopped. -/
  | workerGone
  deriving DecidableEq

/-- The wording of a misuse. -/
def Misuse.message : Misuse → String
  | .secondFrame input => s!"input {input} delivered a second frame before the set was complete"
  | .submitAfterEnd => "submit after end of stream"
  | .submitTooEarly waiting => s!"submit while frame {waiting} is still waiting to be retrieved"
  | .wrongCycle got expected => s!"worker returned frame {got} while frame {expected} was expected"
  | .workerStopped => "worker thread stopped unexpectedly"
  | .workerGone => "worker thread is not accepting jobs"

/-- The kinds of errors. -/
inductive ErrorKind where
  | malformedTemplate | sizeMismatch | resourceExhaustion | validation | pipeline | io | other
  deriving DecidableEq, Repr

namespace ErrorKind

/-- A message with the words of its kind in front. -/
def describe (kind : ErrorKind) (message : String) : String :=
  match kind with
  | .malformedTemplate => "malformed template: " ++ message
  | .sizeMismatch => "size mismatch: " ++ message
  | .resourceExhaustion => "resource exhaustion: " ++ message
  | .validation => "validation error: " ++ message
  | .pipeline => "pipeline error: " ++ message
  | .io => "io error: " ++ message
  | .other => message

/-- Whether the host may try again later. -/
def isRetryable : ErrorKind → Bool
  | .resourceExhaustion => true
  | _ => false

end ErrorKind

/-- Everything that can be refused. -/
inductive Error where
  /-- A template is none. -/
  | malformedTemplate (flaw : TemplateFlaw)
  /-- Sizes do not agree. -/
  | sizeMismatch (mismatch : Mismatch)
  /-- Memory is short. -/
  | exhausted (exhaustion : Exhaustion)
  /-- A value is not allowed. -/
  | invalid (flaw : Invalid)
  /-- A call is not allowed now. -/
  | misused (misuse : Misuse)
  /-- A stream failed. -/
  | io (failure : DeviceFailure)
  /-- A raw stream ends inside a frame. -/
  | truncatedFrame
  /-- A file could not be opened or made; `action` says for what. -/
  | file (action path : String) (failure : DeviceFailure)
  deriving DecidableEq

namespace Error

/-- The kind of an error. -/
def kind : Error → ErrorKind
  | .malformedTemplate _ => .malformedTemplate
  | .sizeMismatch _ => .sizeMismatch
  | .exhausted _ => .resourceExhaustion
  | .invalid _ => .validation
  | .misused _ => .pipeline
  | .io _ | .truncatedFrame => .io
  | .file _ _ _ => .other

/-- What an error says, without the words of its kind. -/
def detail : Error → String
  | .malformedTemplate flaw => flaw.message
  | .sizeMismatch mismatch => mismatch.message
  | .exhausted exhaustion => exhaustion.message
  | .invalid flaw => flaw.message
  | .misused misuse => misuse.message
  | .io failure => failure.message
  | .truncatedFrame => "truncated raw frame"
  | .file action path _ => s!"{action} '{path}'"

/-- The full text of an error. -/
def message (error : Error) : String :=
  error.kind.describe error.detail

/-- The texts of what stands behind an error, nearest first. -/
def causes : Error → List String
  | .io failure => [failure.message]
  | .truncatedFrame => ["truncated raw frame"]
  | .file _ _ failure => [failure.message]
  | _ => []

/-- Whether the host may try again later. -/
def isRetryable (error : Error) : Bool :=
  error.kind.isRetryable

end Error

/-- How an operation can end without a result. -/
inductive Failure where
  /-- The operation was refused and says why. -/
  | refused (error : Error)
  /-- A precondition did not hold: an index out of range, a frame of the wrong size. -/
  | fault
  deriving DecidableEq

/-- The result of an operation that may be refused. -/
abbrev Result (α : Type) := Except Error α

/-- The result of an operation that also has preconditions. -/
abbrev Outcome (α : Type) := Except Failure α

/-- An operation that may be refused, as one that has preconditions too. -/
def Outcome.ofResult {α : Type} : Result α → Outcome α
  | .ok value => .ok value
  | .error error => .error (.refused error)

/-- An operation that has only preconditions: no result means that one was broken. -/
def Outcome.ofOption {α : Type} : Option α → Outcome α
  | some value => .ok value
  | none => .error .fault

end Panorama
