import TripleIndex.Digest.Md5
import TripleIndex.Text.Quoted

/-!
Identifiers made from names: the UUID of version 3, which is the MD5 digest of a name with the bits
of the version and of the variant set.
-/

namespace TripleIndex

namespace NameUuid

/-- Set the version in the seventh byte and the variant in the ninth. -/
def stamp (i : Nat) (byte : UInt8) : UInt8 :=
  if i = 6 then (byte &&& 0x0F) ||| 0x30
  else if i = 8 then (byte &&& 0x3F) ||| 0x80
  else byte

def byteText (byte : UInt8) : List Char := hexText 2 byte.toNat

/-- Hyphens stand before the bytes with these numbers. -/
def hyphenBefore : List Nat := [4, 6, 8, 10]

def bytesText (bytes : List UInt8) : List Char :=
  (bytes.zipIdx).flatMap fun (byte, i) =>
    (if hyphenBefore.contains i then ['-'] else []) ++ byteText (stamp i byte)

end NameUuid

def nameUuid (name : String) : String :=
  String.ofList (NameUuid.bytesText (Md5.digest name.toUTF8.toList))

end TripleIndex
