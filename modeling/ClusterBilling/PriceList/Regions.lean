import ClusterBilling.Inventory.Record
import ClusterBilling.Text.Blank

/-!
# Regions

The regions for which price lists are published, and how people choose among them: by name, several
of them set off by commas, or all with a star. Unknown names are passed over and no region is
chosen twice.
-/

namespace ClusterBilling.Region

/-- The regions with price lists. -/
def known : List Region :=
  ["us-east-1", "us-east-2", "us-west-1", "us-west-2", "af-south-1", "ap-east-1", "ap-south-1",
    "ap-south-2", "ap-southeast-1", "ap-southeast-2", "ap-southeast-3", "ap-southeast-4",
    "ap-northeast-1", "ap-northeast-2", "ap-northeast-3", "ca-central-1", "eu-central-1",
    "eu-central-2", "eu-west-1", "eu-west-2", "eu-west-3", "eu-south-1", "eu-south-2",
    "eu-north-1", "il-central-1", "me-south-1", "me-central-1", "sa-east-1"]

/-- What stands for all regions. -/
def wildcard : String := "*"

/-- The names in some texts, blanks around them and empty ones dropped. -/
def requested (texts : List String) : List String :=
  (texts.flatMap fun text => (Text.splitOn ',' text).map Text.trim).filter fun name => name != ""

/-- **The regions chosen.** All of them where a star is among the names or there is no name at
all; else the known names, each at its first place. -/
def choose (texts : List String) : List Region :=
  let names := requested texts
  if names.isEmpty || names.contains wildcard then known
  else (names.filter known.contains).eraseDups

end ClusterBilling.Region
