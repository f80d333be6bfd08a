import Panorama.CommandLine.Report
import Panorama.Template.File

/-!
# Describing a template

The text in which the program describes a template file.
-/

namespace Panorama.CommandLine

/-- What a blend mode is called in a description. -/
def blendText : BlendMode → String
  | .weighted => "Weighted"
  | .hardSeam => "HardSeam"

/-- What a gain hint is called in a description. -/
def gainText : GainHint → String
  | .off => "Off"
  | .adaptive => "Adaptive"

/-- What an edge mode is called in a description. -/
def edgeText : EdgeMode → String
  | .fill => "Fill"
  | .wrap => "Wrap"

/-- The description of the template at a path. -/
def infoText (path : String) (template : Template) : String :=
  let number := Decimal.doubleText
  let region := template.region
  let coverage := template.coverage
  let inputs := ", ".intercalate (template.inputs.map Canvas.text)
  let lines := [
    s!"template:    {path}",
    s!"output:      {template.size.text}",
    s!"inputs:      {template.inputs.length} [{inputs}]",
    s!"region:      x={number region.x} y={number region.y} w={number region.width} " ++
      s!"h={number region.height}",
    s!"blend:       {blendText template.blend}",
    s!"gain:        {gainText template.gain}",
    s!"edge:        x={edgeText template.edge.x} y={edgeText template.edge.y}",
    s!"coverage:    mapped={coverage.mapped} unmapped={coverage.unmapped} " ++
      s!"overlap={coverage.overlap} max_sources={coverage.maxSources}",
    s!"fingerprint: {Decimal.hexText 16 template.fingerprint.toNat}"]
  String.join (lines.map (· ++ "\n"))

/-- Describe the template in a file. -/
def describe (store : FileStore) (path : String) : Except Report String :=
  match Template.loadFile store path with
  | .ok template => .ok (infoText path template)
  | .error error => .error (.ofError error)

end Panorama.CommandLine
