import ClusterBilling.Text.Following

/-!
# Display width

How many columns of a terminal a line of text takes: those of its characters, measured from the
end, without the colour sequences (escape, bracket, parameters, `m`), of which only the escape
takes a column.
-/

namespace ClusterBilling.Text

/-- Columns of a text that is not read for colour sequences. -/
def plainWidth (cs : List Char) : Nat :=
  let step (c : Char) (behind : Int × Following) : Int × Following :=
    let (columns, following) := Following.before c behind.2
    (columns + behind.1, following)
  (cs.foldr step (0, {})).1.toNat

/-- Where a scan stands with respect to a colour sequence. -/
inductive ColourScan
  | plain
  | escape
  | parameters
deriving DecidableEq, Repr

/-- Whether a character can be seen by itself: control characters and marks cannot. -/
def isVisible (c : Char) : Bool :=
  !inRanges [(0, 0x1f), (0x7f, 0x9f)] c.toNat && 0 < charWidth c

/-- How many characters belong to colour sequences, from the bracket to the `m`; a control
character or a mark among the parameters does not count. -/
def hiddenChars (state : ColourScan) : List Char → Nat
  | [] => 0
  | c :: rest =>
    let hidden := if isVisible c then 1 else 0
    match state with
    | .plain => hiddenChars (if c = '\x1b' then .escape else .plain) rest
    | .escape =>
      if c = '[' then hidden + hiddenChars .parameters rest else hiddenChars .plain rest
    | .parameters => hidden + hiddenChars (if c = 'm' then .plain else .parameters) rest

/-- Columns of a text on a terminal. -/
def width (s : String) : Nat := plainWidth s.toList - hiddenChars .plain s.toList

end ClusterBilling.Text
