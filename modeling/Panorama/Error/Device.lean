/-!
# Failing devices

What a file, a stream or a directory answers when it cannot do what is asked of it.
-/

namespace Panorama

/-- A failing device: a file, a stream or a directory. -/
inductive DeviceFailure where
  /-- No file has this name. -/
  | noSuchFile
  /-- A file stands where a directory is needed. -/
  | notADirectory
  /-- A directory stands where a file is needed. -/
  | isADirectory
  /-- A file stands where a directory should be made. -/
  | alreadyExists
  /-- A name has more than 255 bytes. -/
  | nameTooLong
  /-- A name holds the character NUL. -/
  | invalidName
  /-- A text file is not UTF-8. -/
  | notText
  /-- There is no room for more bytes. -/
  | noSpace
  /-- The device's own words. -/
  | reported (message : String)
  deriving DecidableEq, Repr

/-- What a device failure is called. -/
def DeviceFailure.message : DeviceFailure → String
  | .noSuchFile => "No such file or directory (os error 2)"
  | .notADirectory => "Not a directory (os error 20)"
  | .isADirectory => "Is a directory (os error 21)"
  | .alreadyExists => "File exists (os error 17)"
  | .nameTooLong => "File name too long (os error 36)"
  | .invalidName => "file name contained an unexpected NUL byte"
  | .notText => "stream did not contain valid UTF-8"
  | .noSpace => "No space left on device (os error 28)"
  | .reported message => message

end Panorama
