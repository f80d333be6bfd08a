import Panorama.CommandLine.Info
import Panorama.CommandLine.Stitch
import Panorama.Text.Lenient

/-!
# The program

A command line and the files there are determine the exit code, what is printed, and the files
that are left.
-/

namespace Panorama.CommandLine

/-- What a run of the program comes to. -/
structure Conclusion where
  /-- How it ends. -/
  ending : Ending
  /-- What is printed. -/
  stdout : String
  /-- What is reported. -/
  stderr : String
  /-- The files afterwards. -/
  store : FileStore

/-- Do what is asked for. -/
def Request.run (store : FileStore) : Request → Conclusion
  | .print text => ⟨.success, text, "", store⟩
  | .misuse reason =>
    ⟨.misuse, "", s!"error: {reason}\n\nFor more information, try '--help'.\n", store⟩
  | .info path =>
    match describe store path with
    | .ok text => ⟨.success, text, "", store⟩
    | .error report => ⟨.failure, "", report.text, store⟩
  | .stitch request =>
    let stitched := request.run store
    let printed := Text.ofBytes stitched.store.printed.toList
    match stitched.result with
    | .ok () => ⟨.success, printed, stitched.log, stitched.store⟩
    | .error report => ⟨.failure, printed, stitched.log ++ report.text, stitched.store⟩

/-- Run the program with the words of a command line. -/
def run (store : FileStore) (words : List String) : Conclusion :=
  (Request.ofWords words).run store

end Panorama.CommandLine
