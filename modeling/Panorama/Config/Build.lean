import Panorama.Config.Json
import Panorama.Pipeline.Basic
import Panorama.Template.File

/-!
# From configurations to pipelines

A configuration is read from a file, and relative paths in it are paths from the file's directory.
Its templates and gain schedules are loaded, and together they make a stitcher.
-/

namespace Panorama

/-- Read the schedule in a file. -/
def GainSchedule.loadFile (store : FileStore) (path : String) (inputs : Nat) :
    Outcome GainSchedule :=
  match store.readFile path with
  | .error failure => .error (.refused (.invalid (.scheduleFile path failure)))
  | .ok bytes =>
    match String.fromUTF8? ⟨bytes.toArray⟩ with
    | none => .error (.refused (.invalid (.scheduleFile path .notText)))
    | some text => parse text inputs

namespace OutputConfig

/-- The output with its paths taken from a directory. -/
def below (output : OutputConfig) (directory : String) : OutputConfig :=
  { output with
    template := Path.join directory output.template
    gainSchedule := output.gainSchedule.map (Path.join directory) }

/-- How the gains of an output come about: as configured, or else as its template says. -/
def gainMode (output : OutputConfig) (store : FileStore) (inputs : Nat) (template : Template) :
    Outcome GainMode :=
  match output.gain, output.gainSchedule with
  | some mode, _ => .ok mode
  | none, some path => .scheduled <$> GainSchedule.loadFile store path inputs
  | none, none => .ok (.ofHint template.gain)

/-- An output with its template. -/
def spec (output : OutputConfig) (template : Template) : OutputSpec where
  template := template
  blend := output.blend.getD template.blend
  region := output.region.getD template.region

end OutputConfig

namespace StitchConfig

/-- Read the configuration in a file. -/
def loadFile (store : FileStore) (path : String) : Result StitchConfig :=
  match store.openFile path with
  | .error failure => .error (.invalid (.configFile path failure))
  | .ok source => do
    if source.failure.isSome then throw (.invalid .configText)
    let config ← parse source.bytes
    match Path.parent? path with
    | none => return config
    | some directory =>
      return { config with outputs := config.outputs.map fun output ↦ output.below directory }

/-- Load the template of an output. -/
def loadTemplate (config : StitchConfig) (store : FileStore) (output : OutputConfig) :
    Result Template := do
  let template ← Template.loadFile store output.template
  if template.inputs.length ≠ config.inputs then
    throw (.sizeMismatch (.templateFile output.template template.inputs.length config.inputs))
  return template

/-- Load the templates of all outputs. -/
def loadTemplates (config : StitchConfig) (store : FileStore) : Result (List Template) :=
  config.outputs.mapM (config.loadTemplate store)

/-- How the compositor samples. -/
def compositeOptions (config : StitchConfig) : CompositeOptions where
  interpolation := config.interpolation
  fill := config.fill
  threads := config.workerThreads

/-- The stitcher of a configuration with one template per output. -/
def buildStitcher (config : StitchConfig) (store : FileStore) (templates : List Template) :
    Outcome Stitcher := do
  if templates.length ≠ config.outputs.length then
    throw (.refused (.invalid (.configTemplates templates.length config.outputs.length)))
  let pairs := config.outputs.zip templates
  let modes ← pairs.mapM fun (output, template) ↦ output.gainMode store config.inputs template
  let specs := pairs.map fun (output, template) ↦ output.spec template
  let compositor ← Outcome.ofResult <|
    Compositor.make config.inputFormat config.crop specs config.layout config.compositeOptions
  let gains ← GainCompensator.make modes config.inputs config.interpolation
  Outcome.ofResult (Stitcher.make compositor gains config.preview config.pool)

/-- The pipeline of a configuration. -/
def buildPipeline (config : StitchConfig) (store : FileStore) : Outcome Pipeline := do
  let templates ← Outcome.ofResult (config.loadTemplates store)
  return .start (← config.buildStitcher store templates)

end StitchConfig

end Panorama
