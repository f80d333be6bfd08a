import Panorama.CommandLine.Run

/-!
# Paths of a request

Which places of a file system a request can look at, and which places have changed afterwards.
-/

namespace Panorama

/-- The beginnings of a path, from its first name to the whole of it. -/
def Path.beginnings (path : String) : List String :=
  let names := pieces path
  ((List.range names.length).map fun count ↦ "/".intercalate (names.take (count + 1))).filter
    fun beginning ↦ !beginning.isEmpty

namespace FileStore

/-- The path of a place from the working directory. -/
def pathOf (place : Place) : String :=
  match place with
  | "/" :: names => "/" ++ "/".intercalate names
  | names => "/".intercalate names

/-- What stands at other places than before, or is something else. -/
def changes (before after : FileStore) : List (String × FileNode) :=
  (after.nodes.filter fun node ↦ !before.nodes.contains node).map fun (place, node) ↦
    (pathOf place, node)

end FileStore

/-- The files that a configuration names. -/
def StitchConfig.paths (config : StitchConfig) : List String :=
  config.outputs.flatMap fun output ↦ output.template :: output.gainSchedule.toList

namespace CommandLine.Request

/-- The paths that a request names. -/
def paths : Request → List String
  | .info template => [template]
  | .stitch request =>
    request.config :: request.inputs ++ request.out :: request.previewOut.toList ++
      request.png.toList
  | _ => []

/-- The paths that the configuration of a request names. -/
def configuredPaths (store : FileStore) : Request → List String
  | .stitch request =>
    match StitchConfig.loadFile store request.config with
    | .ok config => config.paths
    | .error _ => []
  | _ => []

end CommandLine.Request

end Panorama
