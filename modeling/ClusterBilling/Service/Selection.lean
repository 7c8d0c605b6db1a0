import ClusterBilling.Inventory.Record
import ClusterBilling.Text.Blank

/-!
# Selections of clusters

A selection names clusters in one text, set off by bars, the whole in parentheses or not. Blanks
around names do not count, empty names are dropped, and no cluster is selected twice.
-/

namespace ClusterBilling.Selection

/-- The text inside a pair of parentheses, if there is one around it. -/
def enclosed? : List Char → Option (List Char)
  | '(' :: rest => if rest.getLast? = some ')' then some rest.dropLast else none
  | _ => none

/-- The names between the bars, without blanks around them. -/
def names (text : List Char) : List String :=
  (text.splitOn '|').map fun name => String.ofList (Text.trimChars name)

/-- **The clusters of a selection**, each at its first place. -/
def clusters (selection : String) : List ClusterId :=
  let text := Text.trimChars selection.toList
  ((names ((enclosed? text).getD text)).filter fun name => name != "").eraseDups

end ClusterBilling.Selection
