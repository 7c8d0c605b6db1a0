import ClusterBilling.Text.CaseTable

/-!
# Letter case

The lower-case form of a text under the full mapping of the character standard: letter by
letter, one letter becoming two characters, and the Greek capital sigma becoming its final form
at the end of a word. Two weaker comparisons stand beside it: equality up to the case of ASCII
letters, and the capital form of a text where that form is ASCII.
-/

namespace ClusterBilling.Text

/-- Whether a code point lies in one of the closed ranges. -/
def inRanges (ranges : List (Nat × Nat)) (n : Nat) : Bool :=
  ranges.any fun range => range.1 ≤ n && n ≤ range.2

def isCased (c : Char) : Bool := inRanges casedRanges c.toNat

def isCaseIgnorable (c : Char) : Bool := inRanges caseIgnorableRanges c.toNat

/-- The lower-case form of one letter away from its neighbours. -/
def lowerChar (c : Char) : List Char :=
  if c.toNat < 0x80 then [c.toLower]
  else if c.toNat = 0x130 then ['i', Char.ofNat 0x307]
  else
    let run := lowerRuns.find? fun (first, last, step, _) =>
      first ≤ c.toNat && c.toNat ≤ last && (c.toNat - first) % step == 0
    match run with
    | some (_, _, _, shift) => [Char.ofNat (Int.ofNat c.toNat + shift).toNat]
    | none => [c]

/-- Whether the nearest character that counts for case has one. -/
def nextIsCased (cs : List Char) : Bool :=
  match cs.dropWhile isCaseIgnorable with
  | [] => false
  | c :: _ => isCased c

/-- **Final sigma.** A capital sigma that ends a word, with a cased letter before it and none
after, becomes the final form; `before` holds what was read, nearest first. -/
def lowerFrom (before : List Char) : List Char → List Char
  | [] => []
  | c :: rest =>
    let here :=
      if c = 'Σ' then
        if nextIsCased before && !nextIsCased rest then ['ς'] else ['σ']
      else lowerChar c
    here ++ lowerFrom (c :: before) rest

/-- The lower-case form. -/
def lower (s : String) : String := String.ofList (lowerFrom [] s.toList)

/-- Equality up to the case of ASCII letters. -/
def sameUpToAsciiCase (a b : String) : Bool :=
  a.toList.map Char.toLower == b.toList.map Char.toLower

/-- The capital form of one character where that form is ASCII: beside the ASCII letters these
are the long s, the dotless i, the sharp s and the Latin ligatures. -/
def asciiCapital (c : Char) : Option (List Char) :=
  if c.toNat < 0x80 then some [c.toUpper]
  else match c with
  | 'ß' => some ['S', 'S']
  | 'ı' => some ['I']
  | 'ſ' => some ['S']
  | 'ﬀ' => some ['F', 'F']
  | 'ﬁ' => some ['F', 'I']
  | 'ﬂ' => some ['F', 'L']
  | 'ﬃ' => some ['F', 'F', 'I']
  | 'ﬄ' => some ['F', 'F', 'L']
  | 'ﬅ' => some ['S', 'T']
  | 'ﬆ' => some ['S', 'T']
  | _ => none

/-- The capital form of a text, where that form is ASCII throughout. -/
def asciiCapitals (cs : List Char) : Option (List Char) :=
  match cs with
  | [] => some []
  | c :: rest => do
    let here ← asciiCapital c
    let there ← asciiCapitals rest
    return here ++ there

end ClusterBilling.Text
