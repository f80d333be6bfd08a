import Panorama.Picture.Basic

/-!
# PAM files

A picture as a PAM file: a header of lines of text, and the bytes of the picture.
-/

namespace Panorama.Pam

/-- The header of the file. -/
def header (width height : Nat) : String :=
  s!"P7\nWIDTH {width}\nHEIGHT {height}\nDEPTH 3\nMAXVAL 255\nTUPLTYPE RGB\nENDHDR\n"

/-- The PAM file of a picture. -/
def encode (picture : Picture) : List UInt8 :=
  (header picture.width picture.height).toUTF8.toList ++ picture.bytes

end Panorama.Pam
