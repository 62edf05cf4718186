import SqlBuilder.Text.Hex

/-!
# UUIDs

A UUID is 128 bits. Its text has 32 hexadecimal digits, written in lower case in groups of 8,
4, 4, 4 and 12 with hyphens between them, and read in either case with or without the hyphens.
-/

namespace SqlBuilder

open Text

/-- A universally unique identifier. -/
structure Uuid where
  bits : BitVec 128
  deriving DecidableEq

namespace Uuid

/-- The hyphenated lower-case text. -/
def toText (u : Uuid) : String :=
  let digits := hexOfNat 32 u.bits.toNat
  String.ofList <|
    digits.take 8 ++ '-' :: (digits.drop 8).take 4 ++ '-' :: (digits.drop 12).take 4 ++
      '-' :: (digits.drop 16).take 4 ++ '-' :: digits.drop 20

/-- The hyphens stand after 8, 12, 16 and 20 digits. -/
def isHyphenated (text : List Char) : Bool :=
  text.length == 36 && text[8]? == some '-' && text[13]? == some '-' &&
    text[18]? == some '-' && text[23]? == some '-'

/-- Reads hyphenated or plain digits. -/
def parse? (text : String) : Option Uuid :=
  let cs := text.toList
  let digits :=
    if isHyphenated cs then
      cs.take 8 ++ (cs.drop 9).take 4 ++ (cs.drop 14).take 4 ++ (cs.drop 19).take 4 ++ cs.drop 24
    else cs
  if digits.length = 32 then (hexNumber? digits).map fun n => ⟨BitVec.ofNat 128 n⟩ else none

/-- The sixteen bytes, most significant first. -/
def toBytes (u : Uuid) : List UInt8 :=
  (List.range 16).map fun i => UInt8.ofNat (u.bits.toNat >>> (8 * (15 - i)))

/-- Reads sixteen bytes. -/
def ofBytes? (bytes : List UInt8) : Option Uuid :=
  if bytes.length = 16 then
    some ⟨BitVec.ofNat 128 (bytes.foldl (fun n b => 256 * n + b.toNat) 0)⟩
  else none

end Uuid

end SqlBuilder
