import Panorama.Decimal.Reading
import Panorama.Error
import Panorama.Gain.Table
import Panorama.Text.Blank

/-!
# Gain schedules

A gain schedule is a list of rows with one gain per source; later frames use the last row. Its text
is the number of rows followed by the gains, row by row, with blanks in between.
-/

namespace Panorama

/-- Whether a gain is finite and positive. -/
def isMultiplier (gain : Float32) : Bool :=
  gain.isFinite && 0 < gain

/-- Refuse the first gain that is not finite and positive. -/
def checkMultipliers (gains : List Float32) : Except Invalid Unit :=
  match gains.find? fun gain ↦ !isMultiplier gain with
  | some gain => .error (.multiplier gain)
  | none => .ok ()

/-- The words of a text, which are taken one after the other. -/
structure WordSource where
  /-- The words that are left. -/
  rest : List (List Char)
  /-- How often a word was asked for. -/
  asked : Nat

/-- Reading words, which may be refused at any of them. -/
abbrev WordReader := ExceptT Failure (StateM WordSource)

namespace WordReader

/-- Ask for the next word. -/
def next : WordReader (Option (List Char)) :=
  modifyGet fun source ↦ (source.rest.head?, ⟨source.rest.tail, source.asked + 1⟩)

/-- Refuse what is read. -/
def refuse {α : Type} (flaw : Invalid) : WordReader α :=
  throw (.refused (.invalid flaw))

/-- Take the next word, which must be there. -/
def take (missing : Invalid) : WordReader (List Char) := do
  let some word ← next | refuse missing
  return word

/-- Refuse further words. -/
def finish (excess : Invalid) : WordReader Unit := do
  if (← next).isSome then refuse excess

/-- Go on with a checked value. -/
def checked {α : Type} : Except Invalid α → WordReader α
  | .error flaw => refuse flaw
  | .ok value => return value

end WordReader

/-- Rows of gains for one frame after the other. -/
structure GainSchedule where
  rows : List (List Float32)
  deriving DecidableEq

namespace GainSchedule

open WordReader (refuse take finish checked)

/-- Check the rows from position `frame` on. -/
def checkRows (inputs frame : Nat) : List (List Float32) → Except Invalid Unit
  | [] => .ok ()
  | row :: rest => do
    if row.length ≠ inputs then throw (.scheduleRow frame row.length inputs)
    checkMultipliers row
    checkRows inputs (frame + 1) rest

/-- Refuse a schedule without rows, with rows of another length, or with gains that are none. -/
def validate (schedule : GainSchedule) (inputs : Nat) : Except Invalid Unit := do
  if schedule.rows.isEmpty then throw .scheduleWithoutFrames
  checkRows inputs 0 schedule.rows

/-- Read the gains of one row, from position `input` on. -/
def readRow (frame input : Nat) : Nat → WordReader (List Float32)
  | 0 => return []
  | count + 1 => do
    let word ← take (.scheduleEnd frame input)
    let some gain := Decimal.readSingle? word | refuse (.scheduleValue (String.ofList word))
    return gain :: (← readRow frame (input + 1) count)

/-- Read rows, from position `frame` on. -/
def readRows (inputs frame : Nat) : Nat → WordReader (List (List Float32))
  | 0 => return []
  | count + 1 => do
    let row ← readRow frame 0 inputs
    return row :: (← readRows inputs (frame + 1) count)

/-- Read the rows of a schedule that declares `count` of them, up to the end of the text. -/
def readBody (inputs count : Nat) : WordReader GainSchedule := do
  let rows ← readRows inputs 0 count
  finish .scheduleExcess
  let schedule : GainSchedule := ⟨rows⟩
  checked (schedule.validate inputs)
  return schedule

/-- Read a schedule. There must be memory for a row, if there is one. -/
def read (inputs : Nat) : WordReader GainSchedule := do
  let word ← take .emptySchedule
  let count ← checked ((Decimal.readCount? word).mapError .scheduleCount)
  if count = 0 || Memory.holds inputs GainTable.gainBytes then readBody inputs count
  else throw .fault

/-- Read the schedule in a text. -/
def parse (text : String) (inputs : Nat) : Outcome GainSchedule :=
  (read inputs ⟨Text.words text, 0⟩).1

/-- The row of a frame: its own, or else the last one. -/
def row? (schedule : GainSchedule) (frame : Nat) : Option (List Float32) :=
  schedule.rows[min frame (schedule.rows.length - 1)]?

end GainSchedule

end Panorama
