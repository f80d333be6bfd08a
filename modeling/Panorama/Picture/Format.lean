import Panorama.Picture.Bmp
import Panorama.Picture.Gif.File
import Panorama.Picture.Ico
import Panorama.Picture.Jpeg.File
import Panorama.Picture.Pam
import Panorama.Picture.Png.Compact
import Panorama.Picture.Qoi
import Panorama.Picture.Refusal
import Panorama.Picture.Tga
import Panorama.Picture.Tiff
import Panorama.Picture.Webp.File

/-!
# Formats of picture files

The extension of a path names the format of a picture file. Not all formats can take a picture of
three bytes per pixel, and some have a limit for its sides.
-/

namespace Panorama

/-- A format of picture files. -/
inductive PictureFormat where
  | avif | bmp | dds | farbfeld | gif | hdr | ico | jpeg | openExr | png | pnm | qoi | tga | tiff
  | webp
  deriving DecidableEq, Repr

namespace PictureFormat

/-- The format that an extension names, in whatever case it is written. -/
def ofExtension? (extension : String) : Option PictureFormat :=
  match extension.toLower with
  | "avif" => some .avif
  | "bmp" => some .bmp
  | "dds" => some .dds
  | "ff" => some .farbfeld
  | "gif" => some .gif
  | "hdr" => some .hdr
  | "ico" => some .ico
  | "jpg" | "jpeg" | "jfif" => some .jpeg
  | "exr" => some .openExr
  | "png" | "apng" => some .png
  | "pbm" | "pam" | "ppm" | "pgm" | "pnm" => some .pnm
  | "qoi" => some .qoi
  | "tga" => some .tga
  | "tif" | "tiff" => some .tiff
  | "webp" => some .webp
  | _ => none

/-- What a format is called. -/
def name : PictureFormat → String
  | .avif => "Avif"
  | .bmp => "Bmp"
  | .dds => "Dds"
  | .farbfeld => "Farbfeld"
  | .gif => "Gif"
  | .hdr => "Hdr"
  | .ico => "Ico"
  | .jpeg => "Jpeg"
  | .openExr => "OpenExr"
  | .png => "Png"
  | .pnm => "Pnm"
  | .qoi => "Qoi"
  | .tga => "Tga"
  | .tiff => "Tiff"
  | .webp => "WebP"

/-- The longest side that a format can store, if it has a limit. -/
def longestSide? : PictureFormat → Option UInt32
  | .ico => some 256
  | .webp => some 16384
  | .avif | .gif | .jpeg | .tga => some 65535
  | _ => none

/-- Why a format does not take a picture with a side that is too long. -/
def sizeRefusal (format : PictureFormat) (axis : Axis) (size : Canvas) : PictureRefusal :=
  match format with
  | .ico => .icon axis (axis.length size)
  | .jpeg => .encoder format.name (.imageSize size)
  | .tga => .encoder format.name (.side axis (axis.length size))
  | .webp => .encoder format.name .dimensions
  | .avif => .encoder format.name .coder
  | _ => .dimensions

/-- Why a format does not take a picture of a size, if it does not. -/
def refusal? (format : PictureFormat) (size : Canvas) : Option PictureRefusal :=
  match format with
  | .dds => some (.unwritable format.name)
  | .farbfeld | .hdr | .openExr => some (.colors format.name)
  | _ =>
    match format.longestSide? with
    | none => none
    | some limit =>
      ([Axis.width, .height].find? fun axis ↦ decide (limit < axis.length size)).map fun axis ↦
        format.sizeRefusal axis size

/-- The file of a picture. AVIF files hold a PNG picture, and so would files of formats that refuse
all pictures. -/
def encode (format : PictureFormat) (picture : Picture) : List UInt8 :=
  match format with
  | .bmp => Bmp.encode picture
  | .gif => Gif.encode picture
  | .ico => Ico.encode picture
  | .jpeg => Jpeg.encode picture
  | .pnm => Pam.encode picture
  | .qoi => Qoi.encode picture
  | .tga => Tga.encode picture
  | .tiff => Tiff.encode picture
  | .webp => Webp.encode picture
  | _ => Png.encode picture

end PictureFormat

end Panorama
