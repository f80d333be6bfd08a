import Panorama.Files.Store
import Panorama.Template.Codec

/-!
# Templates in files

Templates are read from and written to files by path. A flaw of a template names its file.
-/

namespace Panorama.Template

/-- Read the template in a file. -/
def loadFile (store : FileStore) (path : String) : Result Template :=
  match store.openFile path with
  | .error failure => .error (.file "open template" path failure)
  | .ok source =>
    match load source with
    | .error (.malformedTemplate flaw) => .error (.malformedTemplate (.inFile path flaw))
    | result => result

/-- Write the template to a file, instead of what the file holds. -/
def saveFile (template : Template) (store : FileStore) (path : String) : Result FileStore :=
  match store.writeFile path [] with
  | .error failure => .error (.file "create template" path failure)
  | .ok store => (store.writeAt path 0 template.encode).mapError .io

end Panorama.Template
