import Panorama.Number.LittleEndian
import Panorama.Picture.Png.Compact

/-!
# Icon files

A picture as the only one in an icon file: a directory with one entry, and the PNG file of the
picture.
-/

namespace Panorama.Ico

/-- The entry of a picture in the directory. A side of 256 is stored as zero. -/
def entry (width height length : Nat) : List UInt8 :=
  [.ofNat width, .ofNat height, 0, 0, 0, 0, 24, 0] ++ Number.LittleEndian.encode 4 length ++
    Number.LittleEndian.encode 4 22

/-- The icon file of a picture. -/
def encode (picture : Picture) : List UInt8 :=
  let content := Png.encode picture
  [0, 0, 1, 0, 1, 0] ++ entry picture.width picture.height content.length ++ content

end Panorama.Ico
