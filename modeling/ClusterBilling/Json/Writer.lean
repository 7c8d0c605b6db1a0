import ClusterBilling.Json.Value
import ClusterBilling.Decimal.Shortest

/-!
# Writing JSON

Documents are written in two shapes: compact, without any blank, and indented by two columns per
level. Strings escape the quote, the backslash and control characters and nothing else. Numbers
are written by their literal; a number of binary floating point by its shortest decimal, and as
`null` when it is no finite number.
-/

namespace ClusterBilling.Json

def hexDigit (n : Nat) : Char := Nat.digitChar n

/-- One character inside a string. -/
def escape (c : Char) : List Char :=
  match c with
  | '"' => ['\\', '"']
  | '\\' => ['\\', '\\']
  | '\x08' => ['\\', 'b']
  | '\x0c' => ['\\', 'f']
  | '\n' => ['\\', 'n']
  | '\r' => ['\\', 'r']
  | '\t' => ['\\', 't']
  | c =>
    if c.toNat < 0x20 then
      ['\\', 'u', '0', '0', hexDigit (c.toNat / 16), hexDigit (c.toNat % 16)]
    else [c]

/-- A string with its quotes. -/
def quote (s : String) : String :=
  String.ofList ('"' :: (s.toList.flatMap escape ++ ['"']))

/-- Numbers are positional from `0.00001` to below `10 ^ 16` and scientific beyond, with the sign
of the exponent written out. -/
def numberFormat : Decimal.Format := ⟨16, -5, "+"⟩

/-- A number of binary floating point. -/
def float (x : Float) : Json :=
  match numberFormat.text? x with
  | some literal => .number literal
  | none => .null

/-- The text of a string value; a text that cannot be read is written as an empty one. -/
def quoteText (text : JsonText) : String := quote (text.getD "")

mutual

/-- The text without any blank. -/
def compact : Json → String
  | .null => "null"
  | .bool b => if b then "true" else "false"
  | .number literal => literal
  | .string text => quoteText text
  | .array elements => "[" ++ compactElements true elements ++ "]"
  | .object members => "\x7b" ++ compactMembers true members ++ "\x7d"

def compactElements (first : Bool) : List Json → String
  | [] => ""
  | element :: rest =>
    (if first then "" else ",") ++ compact element ++ compactElements false rest

def compactMembers (first : Bool) : List (JsonText × Json) → String
  | [] => ""
  | (name, value) :: rest =>
    (if first then "" else ",") ++ quoteText name ++ ":" ++ compact value
      ++ compactMembers false rest

end

/-- A line feed and the blanks of a level. -/
def newline (level : Nat) : String :=
  String.ofList ('\n' :: List.replicate (2 * level) ' ')

mutual

/-- The text with every element and member on a line of its own. -/
def indented (level : Nat) : Json → String
  | .null => "null"
  | .bool b => if b then "true" else "false"
  | .number literal => literal
  | .string text => quoteText text
  | .array elements =>
    if elements.isEmpty then "[]"
    else "[" ++ indentedElements (level + 1) true elements ++ newline level ++ "]"
  | .object members =>
    if members.isEmpty then "\x7b\x7d"
    else "\x7b" ++ indentedMembers (level + 1) true members ++ newline level ++ "\x7d"

def indentedElements (level : Nat) (first : Bool) : List Json → String
  | [] => ""
  | element :: rest =>
    (if first then "" else ",") ++ newline level ++ indented level element
      ++ indentedElements level false rest

def indentedMembers (level : Nat) (first : Bool) : List (JsonText × Json) → String
  | [] => ""
  | (name, value) :: rest =>
    (if first then "" else ",") ++ newline level ++ quoteText name ++ ": " ++ indented level value
      ++ indentedMembers level false rest

end

def pretty (value : Json) : String := indented 0 value

end ClusterBilling.Json
