/-!
# JSON values

A value keeps what a document says before anyone decides what it means: members in written order,
repeated names included, numbers by their literal, and texts that cannot be read because an escape
names half of a surrogate pair. Such a text may stand wherever a reader passes over it; it is
refused where it is wanted.
-/

namespace ClusterBilling

/-- The text of a JSON string; absent where its escapes name half of a surrogate pair. -/
abbrev JsonText := Option String

/-- A JSON value as written. -/
inductive Json
  | null
  | bool (value : Bool)
  | number (literal : String)
  | string (text : JsonText)
  | array (elements : List Json)
  | object (members : List (JsonText × Json))
deriving Repr, BEq

namespace Json

/-- A string value. -/
def text (s : String) : Json := .string (some s)

/-- A whole number. -/
def nat (n : Nat) : Json := .number (toString n)

/-- An object with the members in the given order. -/
def record (members : List (String × Json)) : Json :=
  .object (members.map fun member => (some member.1, member.2))

end Json

end ClusterBilling
