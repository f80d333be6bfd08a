import Panorama.CommandLine.Request
import Panorama.CommandLine.Session
import Panorama.Config.Build

/-!
# Stitching files

The configuration and its templates are loaded, the inputs are opened, the files for the outputs
are made, and a session does the rest.
-/

namespace Panorama.CommandLine

/-- Open a file for writing: make it, with the directories above it, or empty it. -/
def create (store : FileStore) (path : String) : Except Report FileStore := do
  let store ← match Path.parent? path with
    | none | some "" => pure store
    | some directory =>
      match store.makeDirectories directory with
      | .ok store => pure store
      | .error failure => throw (.ofDevice s!"create output dir '{directory}'" failure)
  match store.writeFile path [] with
  | .ok store => return store
  | .error failure => throw (.ofDevice s!"create '{path}'" failure)

/-- Open several files for writing. Those in front of a failure stay. -/
def createAll (store : FileStore) : List String → Except Report Unit × FileStore
  | [] => (.ok (), store)
  | path :: rest =>
    match create store path with
    | .ok store => createAll store rest
    | .error report => (.error report, store)

/-- How a stitch command ends: the messages and the files. -/
structure Stitched where
  /-- Whether it failed. -/
  result : Except Report Unit
  /-- The messages. -/
  log : String
  /-- The files. -/
  store : FileStore

namespace StitchRequest

/-- The sizes of the raw frames: those of the template's sources, unless a width is given. -/
def rawSizes (request : StitchRequest) (template : Template) : List Canvas :=
  template.inputs.map fun size ↦ { size with width := request.inputWidth.getD size.width }

/-- The configuration, with its templates and the stitcher that they make. -/
def prepare (request : StitchRequest) (store : FileStore) :
    Except Report (StitchConfig × List Canvas × Stitcher) := do
  let config ← (StitchConfig.loadFile store request.config).mapError .ofError
  if request.inputs.length ≠ config.inputs then
    throw ⟨s!"config declares {config.inputs} inputs, {request.inputs.length} --input given", []⟩
  let templates ← (config.loadTemplates store).mapError .ofError
  let stitcher ← (config.buildStitcher store templates).mapError .ofFailure
  return (config, (templates.head?.map request.rawSizes).getD [], stitcher)

/-- Refuse an input that cannot be opened. -/
def checkInputs (store : FileStore) : List String → Except Report Unit
  | [] => .ok ()
  | path :: rest =>
    match store.openFile path with
    | .ok _ => checkInputs store rest
    | .error failure => .error (.ofDevice s!"open input '{path}'" failure)

/-- The paths that are written to. -/
def outputs (request : StitchRequest) : List String :=
  request.out :: request.previewOut.toList

/-- A session at its start. Inputs may have been emptied as outputs. -/
def session (request : StitchRequest) (config : StitchConfig) (sizes : List Canvas)
    (stitcher : Stitcher) (assembler : FrameAssembler) (store : FileStore) : Session where
  format := config.inputFormat
  sizes := sizes
  inputs := request.inputs.map (.start store)
  assembler := assembler
  pipeline := .start stitcher
  submitted := 0
  delivered := 0
  out := .start request.out
  preview := request.previewOut.map .start
  picture := request.png
  store := store
  log := ""

/-- The last message of a session. -/
def summary (request : StitchRequest) (session : Session) : String :=
  let stats := session.pipeline.stats
  s!"stitched {session.delivered} of {stats.submitted} frame sets into {request.out} " ++
    s!"(pool: {stats.pool.allocatedFrames} allocated, {stats.pool.retainedFrames} retained)\n"

/-- Run a session to its end. -/
def finish (request : StitchRequest) (session : Session) : Stitched :=
  match session.run request.frames with
  | (.error report, session) => ⟨.error report, session.log, session.store⟩
  | (.ok (), session) => ⟨.ok (), session.log ++ request.summary session, session.store⟩

/-- Stitch files. -/
def run (request : StitchRequest) (store : FileStore) : Stitched :=
  let ready := do
    let prepared ← request.prepare store
    checkInputs store request.inputs
    return prepared
  match ready with
  | .error report => ⟨.error report, "", store⟩
  | .ok (config, sizes, stitcher) =>
    match createAll store request.outputs, FrameAssembler.start? config.inputs with
    | (.error report, store), _ => ⟨.error report, "", store⟩
    | (.ok (), store), none => ⟨.error (.ofFailure .fault), "", store⟩
    | (.ok (), store), some assembler =>
      request.finish (request.session config sizes stitcher assembler store)

end StitchRequest

end Panorama.CommandLine
