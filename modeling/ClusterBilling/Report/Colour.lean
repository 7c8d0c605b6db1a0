/-!
# Colour on a terminal

A warning may be set in yellow, between a sequence that switches the colour on and one that
switches all colours off. A text that switches colours off itself has yellow switched on again
behind every such place.
-/

namespace ClusterBilling.Report

/-- Switches yellow on. -/
def yellowOn : List Char := ['\x1b', '[', '3', '3', 'm']

/-- Switches all colours off. -/
def coloursOff : List Char := ['\x1b', '[', '0', 'm']

/-- Switches yellow on behind every place that switches colours off. `passed` counts the
characters of such a place that are still to come. -/
def keepYellow (passed : Nat) : List Char → List Char
  | [] => []
  | c :: rest =>
    let passed := if passed = 0 && coloursOff.isPrefixOf (c :: rest) then coloursOff.length
      else passed
    if passed = 1 then c :: (yellowOn ++ keepYellow 0 rest)
    else c :: keepYellow (passed - 1) rest

/-- A text in yellow, where colours are wanted. -/
def yellow (colours : Bool) (text : String) : String :=
  if colours then String.ofList (yellowOn ++ keepYellow 0 text.toList ++ coloursOff) else text

end ClusterBilling.Report
