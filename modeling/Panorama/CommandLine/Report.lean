import Panorama.Error

/-!
# Error reports

What a failed command writes: its error and, below it, what stands behind.
-/

namespace Panorama.CommandLine

/-- Why a command failed. -/
structure Report where
  /-- What failed. -/
  message : String
  /-- What stands behind it, nearest first. -/
  causes : List String
  deriving DecidableEq, Repr

namespace Report

/-- The report of an error. -/
def ofError (error : Error) : Report := ⟨error.message, error.causes⟩

/-- The report of an operation that ended without a result. -/
def ofFailure : Failure → Report
  | .refused error => ofError error
  | .fault => ⟨"a precondition does not hold", []⟩

/-- The report of an error that came up while something was done. -/
def within (action : String) (error : Error) : Report :=
  ⟨action, error.message :: error.causes⟩

/-- The report of a device that failed while something was done. -/
def ofDevice (action : String) (failure : DeviceFailure) : Report :=
  ⟨action, [failure.message]⟩

/-- The lines of a cause, the first of them behind a text and the others below it. -/
def indent (first others cause : String) : List String :=
  match cause.splitOn "\n" with
  | [] => []
  | line :: rest => (first ++ line) :: rest.map (others ++ ·)

/-- The causes as lines. Several ones are numbered. -/
def causeLines : List String → List String
  | [] => []
  | [cause] => "" :: "Caused by:" :: indent "    " "    " cause
  | causes => "" :: "Caused by:" :: causes.zipIdx.flatMap fun (cause, index) ↦
      indent s!"    {index}: " "       " cause

/-- The whole text. -/
def text (report : Report) : String :=
  "\n".intercalate (("Error: " ++ report.message) :: causeLines report.causes) ++ "\n"

end Report

/-- How a command ends. -/
inductive Ending where
  /-- It did what it was asked to do. -/
  | success
  /-- It failed. -/
  | failure
  /-- It was not understood. -/
  | misuse
  deriving DecidableEq, Repr

/-- The exit code of an ending. -/
def Ending.code : Ending → UInt32
  | .success => 0
  | .failure => 1
  | .misuse => 2

end Panorama.CommandLine
