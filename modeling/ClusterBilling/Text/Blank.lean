/-!
# Blanks, trimming and lines

White space is the property of that name in the character standard: 25 characters, not only the
ASCII ones. Trimming, splitting and breaking into lines are functions on lists of characters,
so that laws about them are list laws; the `String` forms only wrap them.
-/

namespace ClusterBilling.Text

/-- White space, as the character standard lists it. -/
def isBlank (c : Char) : Bool :=
  let n := c.toNat
  (9 ≤ n && n ≤ 13) || n == 0x20 || n == 0x85 || n == 0xa0 || n == 0x1680
    || (0x2000 ≤ n && n ≤ 0x200a) || n == 0x2028 || n == 0x2029 || n == 0x202f
    || n == 0x205f || n == 0x3000

/-- Without the blanks in front. -/
def trimFront (cs : List Char) : List Char := cs.dropWhile isBlank

/-- Without the characters at the end that satisfy `drop`. -/
def trimBackIf (drop : Char → Bool) (cs : List Char) : List Char :=
  (cs.reverse.dropWhile drop).reverse

/-- Without the blanks at either end. -/
def trimChars (cs : List Char) : List Char := trimBackIf isBlank (trimFront cs)

def trim (s : String) : String := String.ofList (trimChars s.toList)

/-- The pieces between the separators; a text without one is a single piece. -/
def splitOn (separator : Char) (s : String) : List String :=
  (s.toList.splitOn separator).map String.ofList

/-- **Lines** end at a line feed, and a carriage return right before it belongs to the end. A
text that ends in a line feed has no further, empty line. -/
def lines (s : String) : List String :=
  let pieces := s.toList.splitOn '\n'
  let terminated := pieces.dropLast.map fun line =>
    if line.getLast? = some '\r' then line.dropLast else line
  let last := pieces.getLast?.getD []
  (if last.isEmpty then terminated else terminated ++ [last]).map String.ofList

/-- Whether `part` occurs in `whole`. -/
def occursIn (part : List Char) : List Char → Bool
  | [] => part.isEmpty
  | c :: rest => part.isPrefixOf (c :: rest) || occursIn part rest

def contains (whole part : String) : Bool := occursIn part.toList whole.toList

end ClusterBilling.Text
