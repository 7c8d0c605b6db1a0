import ClusterBilling.Gzip.Inflate

/-!
# Gzip members

A member is a header, a deflated stream and a trailer that repeats the length of the content and a
check sum over it. Reading takes the first member and ignores what follows. Writing stores the
content as it is, in blocks, without making it smaller.
-/

namespace ClusterBilling.Gzip

/-- The check sum after one more bit of the polynomial division. -/
def crcShift (crc : UInt32) : UInt32 :=
  if crc &&& 1 == 1 then (crc >>> 1) ^^^ 0xedb88320 else crc >>> 1

def crcByte (crc : UInt32) (byte : UInt8) : UInt32 :=
  (List.range 8).foldl (fun crc _ => crcShift crc) (crc ^^^ byte.toUInt32)

/-- The 32-bit cyclic redundancy check of some bytes. -/
def crc32 (bytes : List UInt8) : UInt32 :=
  bytes.foldl crcByte 0xffffffff ^^^ 0xffffffff

/-- A number in some bytes, lowest first. -/
def littleEndian : Nat → Nat → List UInt8
  | 0, _ => []
  | count + 1, n => UInt8.ofNat (n % 256) :: littleEndian count (n / 256)

/-- The bytes after the next zero byte, if at most so many others stand in front of it. -/
def afterZero? : Nat → List UInt8 → Option (List UInt8)
  | _, [] => none
  | 0, byte :: rest => if byte = 0 then some rest else none
  | most + 1, byte :: rest => if byte = 0 then some rest else afterZero? most rest

/-- The longest text in a header. -/
def mostText : Nat := 65535

/-- The bytes after an extra field, if the flag for one is set. -/
def skipExtra? (present : Bool) (bytes : List UInt8) : Option (List UInt8) :=
  if present then
    match bytes with
    | a :: b :: rest =>
      let length := a.toNat + 256 * b.toNat
      if length ≤ rest.length then some (rest.drop length) else none
    | _ => none
  else some bytes

/-- The bytes after a text that ends in a zero byte, if the flag for one is set. -/
def skipText? (present : Bool) (bytes : List UInt8) : Option (List UInt8) :=
  if present then afterZero? mostText bytes else some bytes

/-- The bytes after the check of the header, if the flag for one is set and it is right. -/
def skipHeaderCheck? (present : Bool) (all bytes : List UInt8) : Option (List UInt8) :=
  if present then
    match bytes with
    | a :: b :: rest =>
      let header := all.take (all.length - bytes.length)
      if a.toNat + 256 * b.toNat = (crc32 header).toNat % 65536 then some rest else none
    | _ => none
  else some bytes

/-- The bytes after the header. -/
def skipHeader? (bytes : List UInt8) : Option (List UInt8) := do
  match bytes with
  | 0x1f :: 0x8b :: 0x08 :: flags :: _ :: _ :: _ :: _ :: _ :: _ :: rest =>
    if flags.toNat < 32 then
      let rest ← skipExtra? (flags.toNat.testBit 2) rest
      let rest ← skipText? (flags.toNat.testBit 3) rest
      let rest ← skipText? (flags.toNat.testBit 4) rest
      skipHeaderCheck? (flags.toNat.testBit 1) bytes rest
    else none
  | _ => none

/-- **The content of the first member**, if the member is whole and its checks are right. -/
def unpack? (bytes : List UInt8) : Option (List UInt8) := do
  let stream ← skipHeader? bytes
  let (content, trailer) ← inflate stream
  if trailer.take 8 = littleEndian 4 (crc32 content).toNat ++ littleEndian 4 content.length then
    some content
  else none

/-- The most bytes a stored block takes. -/
def blockSize : Nat := 65535

/-- Stored blocks for some bytes; the first argument bounds their number. -/
def storedBlocks : Nat → List UInt8 → List UInt8
  | 0, _ => []
  | fuel + 1, bytes =>
    let block := bytes.take blockSize
    let rest := bytes.drop blockSize
    let head : UInt8 := if rest.isEmpty then 1 else 0
    head :: (littleEndian 2 block.length ++ littleEndian 2 (blockSize - block.length) ++ block
      ++ (if rest.isEmpty then [] else storedBlocks fuel rest))

/-- The header of a member without a name or a date. -/
def plainHeader : List UInt8 := [0x1f, 0x8b, 0x08, 0, 0, 0, 0, 0, 0, 0xff]

/-- **A member** with the content. -/
def pack (content : List UInt8) : List UInt8 :=
  plainHeader ++ storedBlocks (content.length + 1) content
    ++ littleEndian 4 (crc32 content).toNat ++ littleEndian 4 content.length

end ClusterBilling.Gzip
