/-! # Documents for machines

The part of JSON that status pages are written in: texts, natural numbers, truth values and objects
with their members in a fixed order.

* `Json`: the values.
* `Json.escape`: how one character stands in a text.
* `Json.render`: the shortest writing of a value, without blanks.

The reader takes what `Json.render` writes, and the same values with blanks between the tokens and
with any escape in a text. It reads no number with a fraction or an exponent, also if that writes a
natural number, and neither lists nor null.

* `Json.readText?`: a text, after its opening quote.
* `Json.read?`: a whole document.
-/

namespace ClusterMember
set_option autoImplicit false

/-- A value of a document. -/
inductive Json
  | flag (value : Bool)
  | number (value : Nat)
  | text (value : String)
  | object (members : List (String × Json))

namespace Json

/-! ## Texts -/

/-- The quote, the backslash and the control characters are escaped, five of these by a letter and
the others by four hexadecimal digits. -/
def escape (c : Char) : List Char :=
  if c = '"' then ['\\', '"']
  else if c = '\\' then ['\\', '\\']
  else if c.val = 0x08 then ['\\', 'b']
  else if c.val = 0x0c then ['\\', 'f']
  else if c = '\n' then ['\\', 'n']
  else if c = '\r' then ['\\', 'r']
  else if c = '\t' then ['\\', 't']
  else if c.toNat < 0x20 then
    ['\\', 'u', '0', '0', Nat.digitChar (c.toNat / 16), Nat.digitChar (c.toNat % 16)]
  else [c]

def renderText (s : String) : List Char := '"' :: s.toList.flatMap escape ++ ['"']

/-! ## Values -/

mutual

/-- A value, written without blanks. -/
def render : Json → List Char
  | flag true => "true".toList
  | flag false => "false".toList
  | number n => Nat.toDigits 10 n
  | text s => renderText s
  | object members => '{' :: renderMembers members ++ ['}']

def renderMembers : List (String × Json) → List Char
  | [] => []
  | [(name, value)] => renderText name ++ ':' :: render value
  | (name, value) :: member :: rest =>
    renderText name ++ ':' :: render value ++ ',' :: renderMembers (member :: rest)

end

/-! ## Reading texts -/

def skipBlanks (source : List Char) : List Char :=
  source.dropWhile fun c => c = ' ' || c = '\t' || c = '\n' || c = '\r'

def hexDigit? (c : Char) : Option Nat :=
  if c.isDigit then some (c.toNat - 48)
  else if 'a' ≤ c ∧ c ≤ 'f' then some (c.toNat - 87)
  else if 'A' ≤ c ∧ c ≤ 'F' then some (c.toNat - 55)
  else none

def hex? (a b c d : Char) : Option Nat := do
  some ((((← hexDigit? a) * 16 + (← hexDigit? b)) * 16 + (← hexDigit? c)) * 16 + (← hexDigit? d))

/-- The character that an escape of one letter stands for. -/
def escaped? (c : Char) : Option Char :=
  if c = '"' ∨ c = '\\' ∨ c = '/' then some c
  else if c = 'b' then some '\x08'
  else if c = 'f' then some '\x0c'
  else if c = 'n' then some '\n'
  else if c = 'r' then some '\r'
  else if c = 't' then some '\t'
  else none

/-- The character with a number; surrogates are no characters. -/
def charOf? (n : Nat) : Option Char := if n.isValidChar then some (Char.ofNat n) else none

def paired? (high low : Nat) : Option Char :=
  if 0xd800 ≤ high ∧ high < 0xdc00 ∧ 0xdc00 ≤ low ∧ low < 0xe000 then
    charOf? (0x10000 + (high - 0xd800) * 0x400 + (low - 0xdc00))
  else none

/-- Read a text, after its opening quote and up to its closing one; what follows comes second. -/
def readText? : List Char → Option (List Char × List Char)
  | [] => none
  | '"' :: rest => some ([], rest)
  | '\\' :: 'u' :: a :: b :: c :: d :: rest =>
    match hex? a b c d with
    | none => none
    | some n =>
      match charOf? n, rest with
      | some found, rest => (readText? rest).map fun (chars, rest) => (found :: chars, rest)
      | none, '\\' :: 'u' :: a :: b :: c :: d :: rest =>
        match (hex? a b c d).bind (paired? n) with
        | none => none
        | some found => (readText? rest).map fun (chars, rest) => (found :: chars, rest)
      | none, _ => none
  | '\\' :: c :: rest =>
    match escaped? c with
    | none => none
    | some found => (readText? rest).map fun (chars, rest) => (found :: chars, rest)
  | c :: rest =>
    if c = '\\' ∨ c.toNat < 0x20 then none
    else (readText? rest).map fun (chars, rest) => (c :: chars, rest)

/-! ## Reading values -/

/-- The rest of a source after a word, if it begins with it. -/
def dropWord? (word source : List Char) : Option (List Char) :=
  if word.isPrefixOf source then some (source.drop word.length) else none

/-- Read a number. A zero stands at the front only by itself. -/
def readNumber? (source : List Char) : Option (Json × List Char) :=
  match source.takeWhile Char.isDigit with
  | [] => none
  | '0' :: _ :: _ => none
  | digits => some (number (Nat.ofDigitChars 10 digits 0), source.dropWhile Char.isDigit)

mutual

/-- Read a value in at most `room` nested steps. -/
def readValue? : (room : Nat) → List Char → Option (Json × List Char)
  | 0, _ => none
  | room + 1, source =>
    match skipBlanks source with
    | '"' :: rest => (readText? rest).map fun (found, rest) => (text (String.ofList found), rest)
    | '{' :: rest =>
      match skipBlanks rest with
      | '}' :: rest => some (object [], rest)
      | rest => (readMembers? room rest).map fun (members, rest) => (object members, rest)
    | 't' :: rest => (dropWord? "rue".toList rest).map fun rest => (flag true, rest)
    | 'f' :: rest => (dropWord? "alse".toList rest).map fun rest => (flag false, rest)
    | other => readNumber? other

/-- Read the members of an object, up to its closing brace. -/
def readMembers? : (room : Nat) → List Char → Option (List (String × Json) × List Char)
  | 0, _ => none
  | room + 1, source =>
    match skipBlanks source with
    | '"' :: rest => do
      let (name, rest) ← readText? rest
      match skipBlanks rest with
      | ':' :: rest => do
        let (value, rest) ← readValue? room rest
        match skipBlanks rest with
        | '}' :: rest => some ([(String.ofList name, value)], rest)
        | ',' :: rest => do
          let (members, rest) ← readMembers? room rest
          some ((String.ofList name, value) :: members, rest)
        | _ => none
      | _ => none
    | _ => none

end

/-- Read a whole document. -/
def read? (source : List Char) : Option Json := do
  let (json, rest) ← readValue? (source.length + 1) source
  if (skipBlanks rest).isEmpty then some json else none

end Json
end ClusterMember
