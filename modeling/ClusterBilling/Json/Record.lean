import ClusterBilling.Json.Value
import ClusterBilling.Decimal.Reader
import ClusterBilling.OrderedMap

/-!
# Records in JSON

How records are read out of JSON values. A record is an object, whose unknown members are passed
over and whose known ones stand once; or an array of its fields in order, from which fields at the
end may be left out. A reader answers `none` for a value it refuses.

Passing a member over and keeping it differ: what is kept must be readable throughout. `Kept`
collects that: texts with whole characters, finite numbers, and no nesting beyond a limit.
-/

namespace ClusterBilling.Json

/-- The most levels of arrays and objects inside each other, that of the document included. -/
def maxNesting : Nat := 127

/-- The text of a string. -/
def asText? : Json → Option String
  | .string text => text
  | _ => none

def asBool? : Json → Option Bool
  | .bool b => some b
  | _ => none

/-- The binary number nearest to the decimal that a literal writes, if it is finite. A reader that
multiplies by powers of ten instead finds the same one for up to fifteen digits and powers up to
22; for longer literals it may be one place off. -/
def literalFloat? (literal : String) : Option Float :=
  match Decimal.readFloat? literal with
  | some x => if x.isFinite then some x else none
  | none => none

/-- A number of binary floating point; whole numbers count as such, numbers beyond all finite ones
are refused. -/
def asFloat? : Json → Option Float
  | .number literal => literalFloat? literal
  | _ => none

/-- A whole number below a bound, written without sign, point or power of ten. -/
def asNat? (bound : Nat) : Json → Option Nat
  | .number literal =>
    if literal.toList.all Char.isDigit then Decimal.readNat? bound literal else none
  | _ => none

/-- `null` or a value. -/
def asOptional? {α : Type} (read : Json → Option α) : Json → Option (Option α)
  | .null => some none
  | value => (read value).map some

/-- The elements of an array, each read. -/
def asList? {α : Type} (read : Json → Option α) : Json → Option (List α)
  | .array elements => elements.mapM read
  | _ => none

/-- The members of an object, in written order. -/
def asMembers? : Json → Option (List (String × Json))
  | .object members => members.mapM fun member => member.1.map fun name => (name, member.2)
  | _ => none

/-- An object as a map: every value is read, and the last one of a name stays. -/
def asMap? {α : Type} (read : Json → Option α) (value : Json) : Option (OrderedMap String α) := do
  let members ← value.asMembers?
  let entries ← members.mapM fun member => (read member.2).map fun v => (member.1, v)
  return OrderedMap.ofList entries

/-- One of the named constants: its name, or an object that gives the name alone with `null`. -/
def asName? : Json → Option String
  | .string text => text
  | .object [(name, .null)] => name
  | _ => none

/-- The members of an object that carry one of the names, in the order of `names`; `none` for a
name no member carries. A name carried twice is refused. -/
def selectFields? (names : List String) (members : List (String × Json)) :
    Option (List (Option Json)) :=
  names.mapM fun name =>
    match members.filter (·.1 == name) with
    | [] => some none
    | [member] => some (some member.2)
    | _ => none

/-- **The fields of a record**, in declared order: by name from an object, by position from an
array that is no longer than the record. -/
def fields? (names : List String) : Json → Option (List (Option Json))
  | .array elements =>
    if elements.length ≤ names.length then
      some (elements.map some ++ List.replicate (names.length - elements.length) none)
    else none
  | value => do
    let members ← value.asMembers?
    selectFields? names members

/-- A field that must be present. -/
def required? {α : Type} (read : Json → Option α) (field : Option Json) : Option α :=
  field.bind read

/-- A field with a default for its absence. -/
def defaulted? {α : Type} (default : α) (read : Json → Option α) : Option Json → Option α
  | none => some default
  | some value => read value

mutual

/-- Whether a value can be kept: its texts are whole, its numbers finite, and its containers nest
no deeper than `levels`. -/
def Kept (levels : Nat) : Json → Bool
  | .null => true
  | .bool _ => true
  | .number literal => (literalFloat? literal).isSome
  | .string text => text.isSome
  | .array elements => 1 ≤ levels && keptElements (levels - 1) elements
  | .object members => 1 ≤ levels && keptMembers (levels - 1) members

def keptElements (levels : Nat) : List Json → Bool
  | [] => true
  | element :: rest => Kept levels element && keptElements levels rest

def keptMembers (levels : Nat) : List (JsonText × Json) → Bool
  | [] => true
  | (name, value) :: rest => name.isSome && Kept levels value && keptMembers levels rest

end

end ClusterBilling.Json
