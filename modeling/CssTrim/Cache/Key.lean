import CssTrim.Digest.Sha256
import CssTrim.Text.Utf8
import CssTrim.Value

/-!
# Keys made from content

The key of a list of parts is a digest of their printed forms, each with a zero
octet behind it.
-/

namespace CssTrim.Cache.Key

/-- The octets that stand for a part. -/
def octetsOf (part : Value) : List UInt8 := Text.Utf8.encode part.render ++ [0]

/-- The message that a key is the digest of. -/
def message (parts : List Value) : List UInt8 := parts.flatMap octetsOf

/-- The key of a list of parts. -/
def ofParts (parts : List Value) : Text := Digest.Sha256.hex (message parts)

end CssTrim.Cache.Key
