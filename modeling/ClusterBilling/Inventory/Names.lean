import ClusterBilling.Inventory.Record
import ClusterBilling.Text.Blank
import ClusterBilling.Text.Case

/-!
# Names given by people

Pricing modes and platforms as people type them: letter case does not count, a pricing mode may be
set off by blanks and spelled with hyphens, and a platform goes by several names. A name that
means nothing is answered by a text that quotes it.
-/

namespace ClusterBilling

/-- The pricing mode of a name. -/
def PricingMode.ofText (s : String) : Except String PricingMode :=
  let capitals := Text.asciiCapitals (Text.trimChars s.toList)
  let name := capitals.map fun cs => String.ofList (cs.map fun c => if c = '-' then '_' else c)
  match PricingMode.all.find? fun mode => name == some mode.name with
  | some mode => .ok mode
  | none => .error ("Invalid pricing mode: " ++ s)

/-- The names a platform goes by. -/
def Platform.aliases : Platform → List String
  | .emr => ["emr", "aws_emr"]
  | .databricks => ["databricks", "dbx", "aws_dbx"]

/-- The platform of a name. -/
def Platform.ofText (s : String) : Except String Platform :=
  match Platform.all.find? fun platform => platform.aliases.contains (Text.lower s) with
  | some platform => .ok platform
  | none => .error ("Invalid platform: " ++ s)

end ClusterBilling
