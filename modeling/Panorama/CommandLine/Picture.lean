import Panorama.Error.Device
import Panorama.Files.Store
import Panorama.Picture.Format
import Panorama.Text.Quoted

/-!
# Writing pictures

Writing a frame as a picture file. The extension of the path decides on the format. The file is
made before a format refuses the picture, and then stays empty.
-/

namespace Panorama.CommandLine

/-- Why no picture was written. -/
inductive PictureFailure where
  /-- The path has no extension. -/
  | noExtension
  /-- No format has this extension. -/
  | unknownExtension (extension : String)
  /-- The file cannot be made or written. -/
  | device (failure : DeviceFailure)
  /-- The format does not take the picture. -/
  | refused (refusal : PictureRefusal)
  deriving DecidableEq, Repr

/-- Why no picture was written, nearest cause first. -/
def PictureFailure.causes : PictureFailure → List String
  | .noExtension => ["The image format could not be determined"]
  | .unknownExtension extension =>
    ["The file extension \x60." ++ Text.quote extension ++
      "\x60 was not recognized as an image format"]
  | .device failure => [failure.message]
  | .refused refusal => refusal.causes

/-- The format that the extension of a path names, or why there is none. -/
def pictureFormat (path : String) : Except PictureFailure PictureFormat :=
  match Path.extension? path with
  | none => .error .noExtension
  | some extension =>
    match PictureFormat.ofExtension? extension with
    | none => .error (.unknownExtension extension)
    | some format => .ok format

/-- Write a picture to a file, and say why if that fails. -/
def savePicture (store : FileStore) (path : String) (picture : Picture) :
    Except PictureFailure Unit × FileStore :=
  match pictureFormat path with
  | .error failure => (.error failure, store)
  | .ok format =>
    match store.writeFile path [] with
    | .error failure => (.error (.device failure), store)
    | .ok store =>
      match format.refusal? picture.size with
      | some refusal => (.error (.refused refusal), store)
      | none =>
        match store.writeAt path 0 (format.encode picture) with
        | .error failure => (.error (.device failure), store)
        | .ok store => (.ok (), store)

end Panorama.CommandLine
