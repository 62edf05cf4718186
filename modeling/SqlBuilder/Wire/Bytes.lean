/-!
# Numbers as bytes

Numbers in the binary format have a fixed width and their most significant byte first; signed
ones are in two's complement.
-/

namespace SqlBuilder.Wire

/-- The lowest `width` bytes of a number, most significant first. -/
def bigEndian : (width : Nat) → Nat → List UInt8
  | 0, _ => []
  | w + 1, n => bigEndian w (n / 256) ++ [UInt8.ofNat n]

/-- The number that bytes stand for. -/
def ofBigEndian (bytes : List UInt8) : Nat := bytes.foldl (fun n b => 256 * n + b.toNat) 0

/-- The two's complement of a number in `width` bytes. -/
def signedBigEndian (width : Nat) (n : Int) : List UInt8 :=
  bigEndian width (n % Nat.pow 256 width).toNat

/-- The number that bytes stand for in two's complement. -/
def ofSignedBigEndian (bytes : List UInt8) : Int :=
  Int.bmod (ofBigEndian bytes) (Nat.pow 256 bytes.length)

/-- The bytes of a text. -/
def utf8 (s : String) : List UInt8 := s.toUTF8.data.toList

/-- The text that bytes stand for. -/
def ofUtf8? (bytes : List UInt8) : Option String := String.fromUTF8? ⟨bytes.toArray⟩

end SqlBuilder.Wire
