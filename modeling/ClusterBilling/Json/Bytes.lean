import ClusterBilling.Files.Resource
import ClusterBilling.Json.Reader

/-!
# JSON that arrives as bytes

Bytes that encode no text can still be a document: the reader passes over the strings that nobody
asks for without decoding them. A string with such bytes is one that cannot be read, as is one with
half of a surrogate pair, so `mend` writes the bytes as two leading halves, which nothing that
stands beside them can complete. Outside of strings, and behind a backslash, they stay, and the
document is refused.
-/

namespace ClusterBilling.Json

/-- Where in a document a byte stands. -/
inductive BytePlace
  | outside
  | inString
  /-- Behind a backslash. -/
  | escaped
deriving DecidableEq, Repr

/-- The place behind a byte. -/
def BytePlace.after : BytePlace → UInt8 → BytePlace
  | .outside, byte => if byte = 34 then .inString else .outside
  | .inString, byte => if byte = 34 then .outside else if byte = 92 then .escaped else .inString
  | .escaped, _ => .inString

/-- How many bytes at the front encode a character, if any do. -/
def charLength? (bytes : List UInt8) : Option Nat :=
  [1, 2, 3, 4].find? fun count => (decodeText? (bytes.take count)).isSome

/-- Two leading halves of surrogate pairs, as escapes. -/
def leadingHalves : List UInt8 := encodeText "\\ud800\\ud800"

/-- The bytes with those written as escapes that encode nothing and stand in a string. So many bytes
at the front, `whole`, belong to a character that was found. -/
def mend : BytePlace → Nat → List UInt8 → List UInt8
  | _, _, [] => []
  | place, whole + 1, byte :: rest => byte :: mend place whole rest
  | place, 0, byte :: rest =>
    match charLength? (byte :: rest) with
    | some count => byte :: mend (place.after byte) (count - 1) rest
    | none =>
      if place = .inString then leadingHalves ++ mend .inString 0 rest
      else byte :: mend (place.after byte) 0 rest

/-- **The document that some bytes are.** -/
def parseBytes? (bytes : List UInt8) : Option Json :=
  (decodeText? bytes <|> decodeText? (mend .outside 0 bytes)).bind parse?

end ClusterBilling.Json
