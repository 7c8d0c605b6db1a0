import ClusterBilling.Arithmetic

/-!
# Inflating

The decompression of the format that gzip wraps: blocks of stored bytes, and blocks of literals
and back references under prefix codes, fixed or sent along. Bits are taken from each byte lowest
first. A stream that ends early, sends a code that is no prefix code or uses an unassigned code
inflates to nothing. Ahead of the stream stand zero bytes: a reference back beyond its beginning
repeats those.
-/

namespace ClusterBilling.Gzip

/-- Compressed input: the bits left of the byte begun, lowest first, and the bytes after it. -/
structure BitReader where
  bits : List Bool
  bytes : List UInt8

namespace BitReader

/-- The bits of a byte, lowest first. -/
def bitsOf (byte : UInt8) : List Bool := (List.range 8).map byte.toNat.testBit

def bit? : BitReader → Option (Bool × BitReader)
  | ⟨b :: bits, bytes⟩ => some (b, ⟨bits, bytes⟩)
  | ⟨[], byte :: bytes⟩ =>
    match bitsOf byte with
    | b :: bits => some (b, ⟨bits, bytes⟩)
    | [] => none
  | ⟨[], []⟩ => none

/-- A number of some bits, lowest first. -/
def number? : Nat → BitReader → Option (Nat × BitReader)
  | 0, r => some (0, r)
  | count + 1, r => do
    let (b, r) ← r.bit?
    let (n, r) ← number? count r
    return (2 * n + b.toNat, r)

/-- Skips to the next whole byte. -/
def align (r : BitReader) : BitReader := ⟨[], r.bytes⟩

/-- How many bits are left. -/
def size (r : BitReader) : Nat := r.bits.length + 8 * r.bytes.length

end BitReader

/-- A prefix code: how many codes there are of each length from 1 on, and the symbols in the order
of their codes. -/
structure PrefixCode where
  counts : List Nat
  symbols : Array Nat

namespace PrefixCode

/-- The longest code. -/
def maxLength : Nat := 15

/-- Codes not used up by the lengths, in units of the longest code; negative when there are too
many codes. -/
def unused (counts : List Nat) : Int :=
  counts.foldl (fun (left : Int) (count : Nat) => 2 * left - count) 1

/-- The codes with these lengths, one per symbol, zero for symbols without a code. -/
def ofLengths (lengths : List Nat) : PrefixCode :=
  let tagged := lengths.zipIdx
  let ofLength := fun l => (tagged.filter fun entry => entry.1 == l).map Prod.snd
  let byLength := (List.range maxLength).map fun l => ofLength (l + 1)
  ⟨byLength.map List.length, byLength.flatten.toArray⟩

/-- Whether every long enough sequence of bits begins with a code, and with one only. -/
def isComplete (code : PrefixCode) : Bool := unused code.counts == 0

/-- Whether there is no code, or a single one of one bit. -/
def isTrivial (code : PrefixCode) : Bool :=
  natSum code.counts == 0 || (natSum code.counts == 1 && code.counts.head? == some 1)

/-- The code for code lengths; it has to be complete. -/
def complete? (lengths : List Nat) : Option PrefixCode :=
  let code := ofLengths lengths
  if code.isComplete then some code else none

/-- The code for literals or distances; a block with a single symbol has only that in its code. -/
def sent? (lengths : List Nat) : Option PrefixCode :=
  let code := ofLengths lengths
  if code.isComplete || code.isTrivial then some code else none

/-- The symbol at a place of the code, reached bit by bit: `code` is what was read, `first` the
first code of this length, `index` the symbols with shorter codes. -/
def symbolFrom (symbols : Array Nat) : List Nat → (code first index : Nat) → BitReader →
    Option (Nat × BitReader)
  | [], _, _, _, _ => none
  | count :: counts, code, first, index, r => do
    let (b, r) ← r.bit?
    let code := 2 * code + b.toNat
    let first := 2 * first
    if code < first + count then
      let symbol ← symbols[index + (code - first)]?
      return (symbol, r)
    else symbolFrom symbols counts code (first + count) (index + count) r

def symbol? (code : PrefixCode) (r : BitReader) : Option (Nat × BitReader) :=
  symbolFrom code.symbols code.counts 0 0 0 r

end PrefixCode

/-- Lengths of matches: the least length and the extra bits of each length symbol. -/
def lengthTable : List (Nat × Nat) :=
  [(3, 0), (4, 0), (5, 0), (6, 0), (7, 0), (8, 0), (9, 0), (10, 0), (11, 1), (13, 1), (15, 1),
    (17, 1), (19, 2), (23, 2), (27, 2), (31, 2), (35, 3), (43, 3), (51, 3), (59, 3), (67, 4),
    (83, 4), (99, 4), (115, 4), (131, 5), (163, 5), (195, 5), (227, 5), (258, 0)]

/-- Distances of matches: the least distance and the extra bits of each distance symbol. -/
def distanceTable : List (Nat × Nat) :=
  [(1, 0), (2, 0), (3, 0), (4, 0), (5, 1), (7, 1), (9, 2), (13, 2), (17, 3), (25, 3), (33, 4),
    (49, 4), (65, 5), (97, 5), (129, 6), (193, 6), (257, 7), (385, 7), (513, 8), (769, 8),
    (1025, 9), (1537, 9), (2049, 10), (3073, 10), (4097, 11), (6145, 11), (8193, 12), (12289, 12),
    (16385, 13), (24577, 13)]

/-- A number of a table: its least value plus the extra bits. -/
def extended? (table : List (Nat × Nat)) (symbol : Nat) (r : BitReader) :
    Option (Nat × BitReader) := do
  let (least, extra) ← table[symbol]?
  let (more, r) ← r.number? extra
  return (least + more, r)

/-- The byte that stands `distance` back, zero ahead of the stream. -/
def byteBack (distance : Nat) (out : Array UInt8) : UInt8 :=
  if distance ≤ out.size then out.getD (out.size - distance) 0 else 0

/-- Repeats bytes that stand `distance` back, one after the other. -/
def copyBack (distance : Nat) : Nat → Array UInt8 → Array UInt8
  | 0, out => out
  | length + 1, out => copyBack distance length (out.push (byteBack distance out))

/-- The symbols of a block up to its end; the first argument bounds their number. -/
def inflateSymbols (literals distances : PrefixCode) : Nat → Array UInt8 → BitReader →
    Option (Array UInt8 × BitReader)
  | 0, _, _ => none
  | fuel + 1, out, r => do
    let (symbol, r) ← literals.symbol? r
    if symbol < 256 then inflateSymbols literals distances fuel (out.push (UInt8.ofNat symbol)) r
    else if symbol = 256 then return (out, r)
    else
      let (length, r) ← extended? lengthTable (symbol - 257) r
      let (symbol, r) ← distances.symbol? r
      let (distance, r) ← extended? distanceTable symbol r
      inflateSymbols literals distances fuel (copyBack distance length out) r

/-- The code lengths of the fixed codes. -/
def fixedLiteralLengths : List Nat :=
  List.replicate 144 8 ++ List.replicate 112 9 ++ List.replicate 24 7 ++ List.replicate 8 8

def fixedDistanceLengths : List Nat := List.replicate 32 5

/-- The order in which the lengths of the code for code lengths are sent. -/
def lengthCodeOrder : List Nat :=
  [16, 17, 18, 0, 8, 7, 9, 6, 10, 5, 11, 4, 12, 3, 13, 2, 14, 1, 15]

/-- Reads `count` numbers of three bits. -/
def threeBitNumbers? : Nat → BitReader → Option (List Nat × BitReader)
  | 0, r => some ([], r)
  | count + 1, r => do
    let (n, r) ← r.number? 3
    let (rest, r) ← threeBitNumbers? count r
    return (n :: rest, r)

/-- Code lengths up to `total`, last one first: lengths as such, the last one repeated, or runs of
zeros. The first argument bounds the symbols. -/
def codeLengths? (code : PrefixCode) (total : Nat) : Nat → List Nat → BitReader →
    Option (List Nat × BitReader)
  | 0, _, _ => none
  | fuel + 1, done, r =>
    if total ≤ done.length then if done.length = total then some (done.reverse, r) else none
    else do
      let (symbol, r) ← code.symbol? r
      if symbol < 16 then codeLengths? code total fuel (symbol :: done) r
      else if symbol = 16 then
        let last ← done.head?
        let (more, r) ← r.number? 2
        codeLengths? code total fuel (List.replicate (3 + more) last ++ done) r
      else if symbol = 17 then
        let (more, r) ← r.number? 3
        codeLengths? code total fuel (List.replicate (3 + more) 0 ++ done) r
      else
        let (more, r) ← r.number? 7
        codeLengths? code total fuel (List.replicate (11 + more) 0 ++ done) r

/-- How many lengths can be sent for literals and for distances. -/
def mostLiterals : Nat := 286

def mostDistances : Nat := 30

/-- The codes sent ahead of a block. -/
def sentCodes? (r : BitReader) : Option ((PrefixCode × PrefixCode) × BitReader) := do
  let (literals, r) ← r.number? 5
  let (distances, r) ← r.number? 5
  let (sent, r) ← r.number? 4
  let literals := literals + 257
  let distances := distances + 1
  if mostLiterals < literals || mostDistances < distances then none
  let (lengths, r) ← threeBitNumbers? (sent + 4) r
  let ordered := (List.range 19).map fun symbol =>
    ((lengthCodeOrder.zip lengths).lookup symbol).getD 0
  let lengthCode ← PrefixCode.complete? ordered
  let total := literals + distances
  let (all, r) ← codeLengths? lengthCode total (total + 1) [] r
  let literalCode ← PrefixCode.sent? (all.take literals)
  let distanceCode ← PrefixCode.sent? (all.drop literals)
  return ((literalCode, distanceCode), r)

/-- A stored block: its length twice, the second time inverted, and its bytes. -/
def inflateStored (out : Array UInt8) (r : BitReader) : Option (Array UInt8 × BitReader) :=
  match r.align.bytes with
  | a :: b :: c :: d :: rest =>
    let length := a.toNat + 256 * b.toNat
    let check := c.toNat + 256 * d.toNat
    if length + check = 65535 && length ≤ rest.length then
      some (out ++ (rest.take length).toArray, ⟨[], rest.drop length⟩)
    else none
  | _ => none

/-- The blocks up to the last one; the first argument bounds their number. -/
def inflateBlocks : Nat → Array UInt8 → BitReader → Option (Array UInt8 × BitReader)
  | 0, _, _ => none
  | fuel + 1, out, r => do
    let (last, r) ← r.bit?
    let (kind, r) ← r.number? 2
    let (out, r) ←
      if kind = 0 then inflateStored out r
      else if kind = 1 then
        let literals := PrefixCode.ofLengths fixedLiteralLengths
        let distances := PrefixCode.ofLengths fixedDistanceLengths
        inflateSymbols literals distances (r.size + 1) out r
      else if kind = 2 then do
        let (codes, r) ← sentCodes? r
        inflateSymbols codes.1 codes.2 (r.size + 1) out r
      else none
    if last then return (out, r) else inflateBlocks fuel out r

/-- **The inflated bytes** of a stream, and the bytes behind it. -/
def inflate (bytes : List UInt8) : Option (List UInt8 × List UInt8) := do
  let (out, r) ← inflateBlocks (8 * bytes.length + 1) #[] ⟨[], bytes⟩
  return (out.toList, r.bytes)

end ClusterBilling.Gzip
