import DeviceConnect.Json.Number
import DeviceConnect.Text.Hex

/-! Strict JSON text. A scan takes its value from the front of the text and leaves the rest; a
refusal keeps what was unread, from which its line and column follow. -/
namespace DeviceConnect.Json

inductive SyntaxFault where
  | endInValue
  | endInObject
  | endInList
  | endInString
  | expectedValue
  | expectedColon
  | expectedMemberEnd
  | expectedItemEnd
  | keyNotString
  | trailingComma
  | trailingText
  | badWord
  | badNumber
  | numberTooLarge
  | badEscape
  | cutSurrogatePair
  | loneSurrogate
  | controlCharacter
  | tooDeep
  deriving DecidableEq

def SyntaxFault.message : SyntaxFault → String
  | endInValue => "EOF while parsing a value"
  | endInObject => "EOF while parsing an object"
  | endInList => "EOF while parsing a list"
  | endInString => "EOF while parsing a string"
  | expectedValue => "expected value"
  | expectedColon => "expected `:`"
  | expectedMemberEnd => "expected `,` or `\x7d`"
  | expectedItemEnd => "expected `,` or `]`"
  | keyNotString => "key must be a string"
  | trailingComma => "trailing comma"
  | trailingText => "trailing characters"
  | badWord => "expected ident"
  | badNumber => "invalid number"
  | numberTooLarge => "number out of range"
  | badEscape => "invalid escape"
  | cutSurrogatePair => "unexpected end of hex escape"
  | loneSurrogate => "lone leading surrogate in hex escape"
  | controlCharacter => "control character (\\u0000-\\u001F) found while parsing a string"
  | tooDeep => "recursion limit exceeded"

/-- Where a scan stopped: `ahead` bytes into the text it had left. -/
structure Stop where
  fault : SyntaxFault
  rest : List Char
  ahead : Nat

abbrev Scan (α : Type) := Except Stop (α × List Char)

def stopAt {α} (fault : SyntaxFault) (rest : List Char) : Except Stop α := .error ⟨fault, rest, 0⟩

/-- Stops one byte into `rest`, or at its end. -/
def stopIn {α} (fault : SyntaxFault) (rest : List Char) : Except Stop α := .error ⟨fault, rest, 1⟩

def isBlank (c : Char) : Bool := c = ' ' || c = '\n' || c = '\t' || c = '\r'

def skipBlank (cs : List Char) : List Char := cs.dropWhile isBlank

/-! ### Words and numbers -/

def word (value : Json) : List Char → List Char → Scan Json
  | [], rest => .ok (value, rest)
  | _ :: _, [] => stopAt .endInValue []
  | want :: more, c :: rest =>
    if c = want then word value more rest else stopIn .badWord (c :: rest)

def maxSignificand : Nat := Nat.pow 2 64 - 1

def digitValue (c : Char) : Nat := c.toNat - 48

/-- Reads digits into a significand for as long as it stays within bounds; also says how many. -/
def significand (sofar count : Nat) : List Char → Nat × Nat × List Char
  | [] => (sofar, count, [])
  | c :: rest =>
    if c.isDigit && 10 * sofar + digitValue c ≤ maxSignificand then
      significand (10 * sofar + digitValue c) (count + 1) rest
    else (sofar, count, c :: rest)

def finish (negative : Bool) (digits : Nat) (exponent : Int) (rest : List Char) : Scan Json :=
  match scaled? digits exponent with
  | some f => .ok (ofFloat negative f, rest)
  | none => stopAt .numberTooLarge rest

def maxExponent : Nat := Nat.pow 2 31 - 1

/-- Reads the digits of an exponent. Past the limit the number is zero or too large. -/
def exponentDigits (negative : Bool) (digits : Nat) (start : Int) (rising : Bool) :
    Nat → List Char → Scan Json
  | sofar, [] => finish negative digits (if rising then start + sofar else start - sofar) []
  | sofar, c :: rest =>
    if c.isDigit then
      if 10 * sofar + digitValue c ≤ maxExponent then
        exponentDigits negative digits start rising (10 * sofar + digitValue c) rest
      else if digits ≠ 0 ∧ rising then stopAt .numberTooLarge rest
      else .ok (ofFloat negative 0.0, rest.dropWhile Char.isDigit)
    else finish negative digits (if rising then start + sofar else start - sofar) (c :: rest)

def exponent (negative : Bool) (digits : Nat) (start : Int) (cs : List Char) : Scan Json :=
  let (rising, cs) := match cs with
    | '+' :: rest => (true, rest)
    | '-' :: rest => (false, rest)
    | _ => (true, cs)
  match cs with
  | [] => stopAt .endInValue []
  | c :: rest =>
    if c.isDigit then exponentDigits negative digits start rising (digitValue c) rest
    else stopIn .badNumber (c :: rest)

def afterDigits (negative : Bool) (digits : Nat) (scale : Int) : List Char → Scan Json
  | 'e' :: rest | 'E' :: rest => exponent negative digits scale rest
  | rest => finish negative digits scale rest

def fraction (negative : Bool) (digits : Nat) (scale : Int) (cs : List Char) : Scan Json :=
  match cs with
  | [] => stopAt .endInValue []
  | c :: _ =>
    if c.isDigit then
      let (digits, count, rest) := significand digits 0 cs
      afterDigits negative digits (scale - count) (rest.dropWhile Char.isDigit)
    else stopIn .badNumber cs

def afterInteger (negative : Bool) (digits : Nat) : List Char → Scan Json
  | '.' :: rest => fraction negative digits 0 rest
  | 'e' :: rest | 'E' :: rest => exponent negative digits 0 rest
  | rest =>
    if !negative then .ok (int digits, rest)
    else if 0 < digits ∧ digits ≤ Nat.pow 2 63 then .ok (int (-digits), rest)
    else .ok (ofFloat true (UInt64.ofNat digits).toFloat, rest)

/-- A number without its sign. Digits past the bound only scale it. -/
def number (negative : Bool) : List Char → Scan Json
  | [] => stopAt .endInValue []
  | '0' :: rest => match rest with
    | c :: _ => if c.isDigit then stopIn .badNumber rest else afterInteger negative 0 rest
    | [] => afterInteger negative 0 rest
  | c :: rest =>
    if c.isDigit then
      let (digits, _, rest) := significand 0 0 (c :: rest)
      match rest.takeWhile Char.isDigit with
      | [] => afterInteger negative digits rest
      | extra => match rest.dropWhile Char.isDigit with
        | '.' :: rest => fraction negative digits extra.length rest
        | rest => afterDigits negative digits extra.length rest
    else stopIn .badNumber (c :: rest)

/-! ### Strings -/

def utf8Bytes (cs : List Char) : Nat := cs.foldr (fun c n => c.utf8Size + n) 0

def fourDigits (cs : List Char) : Except Stop Nat :=
  match (if 4 ≤ cs.length then Hex.value? (cs.take 4) else none) with
  | some n => .ok n
  | none => if utf8Bytes cs < 4 then stopAt .endInString [] else .error ⟨.badEscape, cs, 4⟩

def lowSurrogate (cs : List Char) : Except Stop Nat :=
  match cs with
  | [] => stopAt .endInString []
  | '\\' :: rest => match rest with
    | [] => stopAt .endInString []
    | 'u' :: rest => do
      let low ← fourDigits rest
      if 0xDC00 ≤ low ∧ low ≤ 0xDFFF then return low else stopAt .loneSurrogate (rest.drop 4)
    | _ => stopIn .cutSurrogatePair rest
  | _ => stopIn .cutSurrogatePair cs

def numbered (cs : List Char) : Except Stop (Char × Nat) := do
  let n ← fourDigits cs
  if 0xDC00 ≤ n ∧ n ≤ 0xDFFF then stopAt .loneSurrogate (cs.drop 4)
  else if 0xD800 ≤ n ∧ n ≤ 0xDBFF then
    let low ← lowSurrogate (cs.drop 4)
    return (Char.ofNat (0x10000 + 0x400 * (n - 0xD800) + (low - 0xDC00)), 10)
  else return (Char.ofNat n, 4)

/-- An escape behind its backslash: the character, and how many characters it takes. -/
def escaped : List Char → Except Stop (Char × Nat)
  | [] => stopAt .endInString []
  | '"' :: _ => .ok ('"', 1)
  | '\\' :: _ => .ok ('\\', 1)
  | '/' :: _ => .ok ('/', 1)
  | 'b' :: _ => .ok ('\x08', 1)
  | 'f' :: _ => .ok ('\x0c', 1)
  | 'n' :: _ => .ok ('\n', 1)
  | 'r' :: _ => .ok ('\r', 1)
  | 't' :: _ => .ok ('\t', 1)
  | 'u' :: rest => do
    let (c, count) ← numbered rest
    return (c, count + 1)
  | cs => stopIn .badEscape cs

def stringBody : List Char → Scan (List Char)
  | [] => stopAt .endInString []
  | c :: rest =>
    if c = '"' then .ok ([], rest)
    else if c = '\\' then
      match escaped rest with
      | .error stop => .error stop
      | .ok (c, count) => (stringBody (rest.drop count)).map fun (cs, rest) => (c :: cs, rest)
    else if c.toNat < 0x20 then stopIn .controlCharacter (c :: rest)
    else (stringBody rest).map fun (cs, rest) => (c :: cs, rest)
  termination_by cs => cs.length
  decreasing_by all_goals simp only [List.length_drop, List.length_cons]; omega

def string (cs : List Char) : Scan String :=
  (stringBody cs).map fun (text, rest) => (String.ofList text, rest)

/-! ### Values -/

/-- The items of a list behind its first item. Each turn takes at least a comma, so the length
of the text bounds the turns. -/
def moreItems (item : List Char → Scan Json) :
    Nat → List Char → Except Stop (List Json × List Char)
  | 0, cs => stopIn .expectedItemEnd cs
  | fuel + 1, cs => match skipBlank cs with
    | [] => stopIn .endInList []
    | ']' :: rest => .ok ([], rest)
    | ',' :: rest => match skipBlank rest with
      | [] => stopIn .endInValue []
      | ']' :: rest => stopIn .trailingComma (']' :: rest)
      | cs => do
        let (first, rest) ← item cs
        let (more, rest) ← moreItems item fuel rest
        return (first :: more, rest)
    | cs => stopIn .expectedItemEnd cs

def items (item : List Char → Scan Json) (cs : List Char) :
    Except Stop (List Json × List Char) :=
  match skipBlank cs with
  | [] => stopIn .endInList []
  | ']' :: rest => .ok ([], rest)
  | cs => do
    let (first, rest) ← item cs
    let (more, rest) ← moreItems item rest.length.succ rest
    return (first :: more, rest)

def member (item : List Char → Scan Json) :
    List Char → Except Stop ((String × Json) × List Char)
  | '"' :: rest => do
    let (key, rest) ← string rest
    match skipBlank rest with
    | [] => stopIn .endInObject []
    | ':' :: rest =>
      let (value, rest) ← item rest
      return ((key, value), rest)
    | cs => stopIn .expectedColon cs
  | cs => stopIn .keyNotString cs

def moreMembers (item : List Char → Scan Json) :
    Nat → List Char → Except Stop (List (String × Json) × List Char)
  | 0, cs => stopIn .expectedMemberEnd cs
  | fuel + 1, cs => match skipBlank cs with
    | [] => stopIn .endInObject []
    | '\x7d' :: rest => .ok ([], rest)
    | ',' :: rest => match skipBlank rest with
      | [] => stopIn .endInValue []
      | '\x7d' :: rest => stopIn .trailingComma ('\x7d' :: rest)
      | cs => do
        let (first, rest) ← member item cs
        let (more, rest) ← moreMembers item fuel rest
        return (first :: more, rest)
    | cs => stopIn .expectedMemberEnd cs

def members (item : List Char → Scan Json) (cs : List Char) :
    Except Stop (List (String × Json) × List Char) :=
  match skipBlank cs with
  | [] => stopIn .endInObject []
  | '\x7d' :: rest => .ok ([], rest)
  | cs => do
    let (first, rest) ← member item cs
    let (more, rest) ← moreMembers item rest.length.succ rest
    return (first :: more, rest)

def maxDepth : Nat := 127

/-- A value that opens at most `room` levels. -/
def value (room : Nat) (cs : List Char) : Scan Json :=
  match skipBlank cs with
  | [] => stopIn .endInValue []
  | c :: rest => match c with
    | 'n' => word null ['u', 'l', 'l'] rest
    | 't' => word (bool true) ['r', 'u', 'e'] rest
    | 'f' => word (bool false) ['a', 'l', 's', 'e'] rest
    | '-' => number true rest
    | '"' => (string rest).map fun (text, rest) => (str text, rest)
    | '[' => match room with
      | 0 => stopIn .tooDeep (c :: rest)
      | room + 1 => (items (value room) rest).map fun (xs, rest) => (arr xs, rest)
    | '\x7b' => match room with
      | 0 => stopIn .tooDeep (c :: rest)
      | room + 1 =>
        (members (value room) rest).map fun (ms, rest) => (obj (Members.ofList ms), rest)
    | _ => if c.isDigit then number false (c :: rest) else stopIn .expectedValue (c :: rest)

/-! ### Texts -/

/-- A place in a text: lines from one, columns in bytes from zero. -/
structure Place where
  line : Nat
  column : Nat
  deriving DecidableEq

def Place.after (place : Place) : List Char → Nat → Place
  | [], _ => place
  | c :: rest, count =>
    if count = 0 then place
    else if c = '\n' then Place.after ⟨place.line + 1, 0⟩ rest (count - 1)
    else if c.utf8Size ≤ count then
      Place.after { place with column := place.column + c.utf8Size } rest (count - c.utf8Size)
    else { place with column := place.column + count }

structure SyntaxError where
  fault : SyntaxFault
  place : Place
  deriving DecidableEq

def SyntaxError.message (e : SyntaxError) : String :=
  e.fault.message ++ " at line " ++ toString e.place.line ++ " column " ++ toString e.place.column

def Stop.error (text : List Char) (stop : Stop) : SyntaxError :=
  ⟨stop.fault, Place.after ⟨1, 0⟩ text (utf8Bytes text - utf8Bytes stop.rest + stop.ahead)⟩

def parse (text : String) : Except SyntaxError Json :=
  let cs := text.toList
  match value maxDepth cs with
  | .error stop => .error (stop.error cs)
  | .ok (json, rest) => match skipBlank rest with
    | [] => .ok json
    | rest => .error (Stop.error cs ⟨.trailingText, rest, 1⟩)

end DeviceConnect.Json
