import ClusterBilling.Json.Value

/-!
# Reading JSON

A document is cut into tokens and the tokens are put together by a machine with a stack of
unfinished containers. Both steps are strict: no comments, no trailing commas, no leading zeros,
no raw control characters in strings, one value and nothing after it but blanks. How deep values
nest is not the reader's concern; see `Json.Kept`.
-/

namespace ClusterBilling.Json

/-- A token: punctuation, or a value that is not a container. -/
inductive Token
  | openArray
  | closeArray
  | openObject
  | closeObject
  | colon
  | comma
  | scalar (value : Json)

/-- The blanks of the format. -/
def isSpace (c : Char) : Bool := c = ' ' || c = '\t' || c = '\n' || c = '\r'

def hexValue? (c : Char) : Option Nat :=
  let n := c.toNat
  if 48 ≤ n && n ≤ 57 then some (n - 48)
  else if 97 ≤ n && n ≤ 102 then some (n - 87)
  else if 65 ≤ n && n ≤ 70 then some (n - 55)
  else none

/-- Four hexadecimal digits in front. -/
def takeUnit? : List Char → Option (Nat × List Char)
  | a :: b :: c :: d :: rest => do
    let a ← hexValue? a
    let b ← hexValue? b
    let c ← hexValue? c
    let d ← hexValue? d
    return (((a * 16 + b) * 16 + c) * 16 + d, rest)
  | _ => none

/-- The character a one-letter escape stands for. -/
def simpleEscape? : Char → Option Char
  | '"' => some '"'
  | '\\' => some '\\'
  | '/' => some '/'
  | 'b' => some '\x08'
  | 'f' => some '\x0c'
  | 'n' => some '\n'
  | 'r' => some '\r'
  | 't' => some '\t'
  | _ => none

/-- What a string holds so far: its characters, last one first; whether a half of a surrogate pair
was met that has no other half; and the leading half that waits for its other half. -/
structure StringSoFar where
  chars : List Char
  broken : Bool
  lead : Option Nat

/-- A waiting leading half that was not followed by its other half breaks the text. -/
def StringSoFar.settle (s : StringSoFar) : StringSoFar :=
  ⟨s.chars, s.broken || s.lead.isSome, none⟩

def StringSoFar.push (s : StringSoFar) (c : Char) : StringSoFar :=
  let s := s.settle
  ⟨c :: s.chars, s.broken, none⟩

/-- Takes in one 16-bit unit: a character, the first half of a pair, or the second. -/
def StringSoFar.pushUnit (s : StringSoFar) (unit : Nat) : StringSoFar :=
  if 0xd800 ≤ unit && unit < 0xdc00 then
    let s := s.settle
    ⟨s.chars, s.broken, some unit⟩
  else if 0xdc00 ≤ unit && unit < 0xe000 then
    match s.lead with
    | some lead =>
      ⟨Char.ofNat (0x10000 + (lead - 0xd800) * 0x400 + (unit - 0xdc00)) :: s.chars, s.broken, none⟩
    | none => ⟨s.chars, true, none⟩
  else s.push (Char.ofNat unit)

def StringSoFar.text (s : StringSoFar) : JsonText :=
  let s := s.settle
  if s.broken then none else some (String.ofList s.chars.reverse)

/-- The rest of a string behind its opening quote, and what follows the closing one. The first
argument bounds the characters looked at. -/
def takeString : Nat → StringSoFar → List Char → Option (JsonText × List Char)
  | 0, _, _ => none
  | _ + 1, _, [] => none
  | fuel + 1, s, c :: rest =>
    if c = '"' then some (s.text, rest)
    else if c = '\\' then
      match rest with
      | [] => none
      | e :: rest =>
        if e = 'u' then do
          let (unit, rest) ← takeUnit? rest
          takeString fuel (s.pushUnit unit) rest
        else do
          let e ← simpleEscape? e
          takeString fuel (s.push e) rest
    else if c.toNat < 0x20 then none
    else takeString fuel (s.push c) rest

/-- A run of digits that must not be empty. -/
def takeDigits? (cs : List Char) : Option (List Char × List Char) :=
  let ds := cs.takeWhile Char.isDigit
  if ds.isEmpty then none else some (ds, cs.dropWhile Char.isDigit)

/-- The whole part of a number: one zero, or digits that do not begin with one. -/
def takeWhole? : List Char → Option (List Char × List Char)
  | '0' :: rest => some (['0'], rest)
  | cs => takeDigits? cs

/-- The literal of a number in front. -/
def takeNumber? (cs : List Char) : Option (List Char × List Char) := do
  let (sign, cs) := match cs with
    | '-' :: rest => (['-'], rest)
    | cs => ([], cs)
  let (whole, cs) ← takeWhole? cs
  let (fraction, cs) ← match cs with
    | '.' :: rest => (takeDigits? rest).map fun (ds, rest) => ('.' :: ds, rest)
    | cs => some ([], cs)
  let (power, cs) ← match cs with
    | c :: rest =>
      if c = 'e' || c = 'E' then
        let (sign, rest) := match rest with
          | '+' :: more => (['+'], more)
          | '-' :: more => (['-'], more)
          | more => ([], more)
        (takeDigits? rest).map fun (ds, rest) => (c :: (sign ++ ds), rest)
      else some ([], c :: rest)
    | [] => some ([], [])
  return (sign ++ whole ++ fraction ++ power, cs)

/-- A word in front. -/
def takeWord? (word : String) (cs : List Char) : Option (List Char) :=
  if word.toList.isPrefixOf cs then some (cs.drop word.toList.length) else none

/-- The first token of a text that begins with no blank. -/
def takeToken? : List Char → Option (Token × List Char)
  | [] => none
  | c :: rest =>
    match c with
    | '[' => some (.openArray, rest)
    | ']' => some (.closeArray, rest)
    | '\x7b' => some (.openObject, rest)
    | '\x7d' => some (.closeObject, rest)
    | ':' => some (.colon, rest)
    | ',' => some (.comma, rest)
    | '"' =>
      (takeString (rest.length + 1) ⟨[], false, none⟩ rest).map fun (text, rest) =>
        (.scalar (.string text), rest)
    | 'n' => (takeWord? "null" (c :: rest)).map fun rest => (.scalar .null, rest)
    | 't' => (takeWord? "true" (c :: rest)).map fun rest => (.scalar (.bool true), rest)
    | 'f' => (takeWord? "false" (c :: rest)).map fun rest => (.scalar (.bool false), rest)
    | _ =>
      (takeNumber? (c :: rest)).map fun (literal, rest) =>
        (.scalar (.number (String.ofList literal)), rest)

/-- The tokens of a text; the first argument bounds their number. -/
def tokensWithin : Nat → List Token → List Char → Option (List Token)
  | 0, _, _ => none
  | fuel + 1, done, cs =>
    match cs.dropWhile isSpace with
    | [] => some done.reverse
    | c :: rest =>
      match takeToken? (c :: rest) with
      | none => none
      | some (token, rest) => tokensWithin fuel (token :: done) rest

/-- The tokens of a text. Every token takes at least one character. -/
def tokens (cs : List Char) : Option (List Token) := tokensWithin (cs.length + 1) [] cs

/-- A container that waits for a value: its finished parts, last one first, and in an object the
name of the value. -/
inductive Frame
  | array (done : List Json)
  | object (done : List (JsonText × Json)) (name : JsonText)

/-- What may come next. -/
inductive Stage
  /-- A value. -/
  | value
  /-- The first element of an array, or its end. -/
  | firstElement
  /-- The first name of an object, or its end. -/
  | firstName
  /-- A further name of an object. -/
  | name (done : List (JsonText × Json))
  /-- The colon behind a name. -/
  | colon (done : List (JsonText × Json)) (name : JsonText)
  /-- Whatever may follow a finished value. -/
  | finished (value : Json)

/-- One token of a document; `none` where it may not stand. -/
def step (stage : Stage) (stack : List Frame) (token : Token) : Option (Stage × List Frame) :=
  match stage, stack, token with
  | .value, stack, .scalar v => some (.finished v, stack)
  | .value, stack, .openArray => some (.firstElement, stack)
  | .value, stack, .openObject => some (.firstName, stack)
  | .firstElement, stack, .closeArray => some (.finished (.array []), stack)
  | .firstElement, stack, .scalar v => some (.finished v, .array [] :: stack)
  | .firstElement, stack, .openArray => some (.firstElement, .array [] :: stack)
  | .firstElement, stack, .openObject => some (.firstName, .array [] :: stack)
  | .firstName, stack, .closeObject => some (.finished (.object []), stack)
  | .firstName, stack, .scalar (.string name) => some (.colon [] name, stack)
  | .name done, stack, .scalar (.string name) => some (.colon done name, stack)
  | .colon done name, stack, .colon => some (.value, .object done name :: stack)
  | .finished v, .array done :: stack, .comma => some (.value, .array (v :: done) :: stack)
  | .finished v, .array done :: stack, .closeArray =>
    some (.finished (.array (v :: done).reverse), stack)
  | .finished v, .object done name :: stack, .comma => some (.name ((name, v) :: done), stack)
  | .finished v, .object done name :: stack, .closeObject =>
    some (.finished (.object ((name, v) :: done).reverse), stack)
  | _, _, _ => none

/-- The value the tokens write, if they write one and no more. -/
def assemble (stage : Stage) (stack : List Frame) : List Token → Option Json
  | [] =>
    match stage, stack with
    | .finished v, [] => some v
    | _, _ => none
  | token :: rest =>
    match step stage stack token with
    | none => none
    | some (stage, stack) => assemble stage stack rest

/-- **The value of a document.** -/
def parse? (s : String) : Option Json := do
  let ts ← tokens s.toList
  assemble .value [] ts

end ClusterBilling.Json
