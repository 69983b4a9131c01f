/-! # Blanks, comments and texts between quotes

A text stands between double quotes, with escapes, or between single quotes, as it is. Three quotes
in place of one make a text that may go over several lines.

* `Toml.skipBlanks`, `Toml.endLine?`: what may stand between the parts of a line, and at its end.
* `Toml.skipGap`: what may stand between the items of an array.
* `Toml.shortText`: the rest of a text on one line, after its quote.
* `Toml.longText`: the rest of a text over several lines, after its three quotes.
* `Toml.text`: a text of any of the four kinds.
-/

namespace ClusterMember.Toml
set_option autoImplicit false

/-! ## Blanks, line ends and comments -/

def isBlank (c : Char) : Bool := c = ' ' || c = '\t'

/-- A character that may stand in a comment or a text: no control character but the tab. -/
def isPlain (c : Char) : Bool := c = '\t' || (0x20 ≤ c.toNat && c.toNat ≠ 0x7f)

/-- The text without the blanks at its start. -/
def skipBlanks (text : List Char) : List Char := text.dropWhile isBlank

/-- What follows the end of a line, or of the file; before it there may be blanks and a comment. -/
def endLine? (text : List Char) : Option (List Char) :=
  let afterComment := match skipBlanks text with
    | '#' :: rest => rest.dropWhile isPlain
    | other => other
  match afterComment with
  | [] => some []
  | '\n' :: rest => some rest
  | '\r' :: '\n' :: rest => some rest
  | _ => none

/-- The text without the blanks, line ends and comments at its start. A carriage return counts as
part of a line end only. -/
def skipGap : (inComment : Bool) → List Char → List Char
  | _, [] => []
  | inComment, c :: rest =>
    if inComment && isPlain c then skipGap true rest
    else if isBlank c || c = '\n' then skipGap false rest
    else if c = '#' then skipGap true rest
    else if c = '\r' && rest.head? = some '\n' then skipGap false rest
    else c :: rest

/-! ## Escapes -/

/-- The character that a letter after a backslash stands for. -/
def escapeLetter? (c : Char) : Option Char :=
  if c = 'b' then some '\x08'
  else if c = 't' then some '\t'
  else if c = 'n' then some '\n'
  else if c = 'f' then some '\x0c'
  else if c = 'r' then some '\r'
  else if c = '"' then some '"'
  else if c = '\\' then some '\\'
  else none

/-- How many hexadecimal digits follow a letter after a backslash, less one. -/
def codeDigits? (c : Char) : Option Nat :=
  if c = 'u' then some 3 else if c = 'U' then some 7 else none

def hexDigit? (c : Char) : Option Nat :=
  if '0' ≤ c ∧ c ≤ '9' then some (c.toNat - 48)
  else if 'a' ≤ c ∧ c ≤ 'f' then some (c.toNat - 87)
  else if 'A' ≤ c ∧ c ≤ 'F' then some (c.toNat - 55)
  else none

def ofCodePoint? (n : Nat) : Option Char :=
  if h : n.isValidChar then some (Char.ofNatAux n h) else none

/-- Put characters in front of what is read after them. -/
def prepend (chars : List Char) :
    Option (List Char × List Char) → Option (List Char × List Char) :=
  Option.map fun (text, rest) => (chars ++ text, rest)

/-! ## One line -/

/-- Where the reader of a text is. -/
inductive ShortState
  | plain
  /-- After a backslash. -/
  | escape
  /-- In a code point, with `left` digits to come after the next. -/
  | code (left value : Nat)

/-- The rest of a text on one line, up to its closing quote, and what follows. -/
def shortText (quote : Char) (escapes : Bool) :
    ShortState → List Char → Option (List Char × List Char)
  | _, [] => none
  | .plain, c :: rest =>
    if c = quote then some ([], rest)
    else if escapes && c = '\\' then shortText quote escapes .escape rest
    else if isPlain c then prepend [c] (shortText quote escapes .plain rest)
    else none
  | .escape, c :: rest =>
    match escapeLetter? c with
    | some d => prepend [d] (shortText quote escapes .plain rest)
    | none =>
      match codeDigits? c with
      | some left => shortText quote escapes (.code left 0) rest
      | none => none
  | .code left value, c :: rest =>
    match hexDigit? c with
    | none => none
    | some digit =>
      match left with
      | 0 =>
        match ofCodePoint? (16 * value + digit) with
        | none => none
        | some d => prepend [d] (shortText quote escapes .plain rest)
      | left + 1 => shortText quote escapes (.code left (16 * value + digit)) rest

/-! ## Several lines -/

/-- Where the reader of a long text is. -/
inductive LongState
  /-- After `quotes` quotes in a row. While `trimming`, blanks and line ends are left out. -/
  | plain (trimming : Bool) (quotes : Nat)
  /-- After a backslash. -/
  | escape
  /-- After a backslash and blanks. -/
  | escapedBlank
  /-- In a code point, with `left` digits to come after the next. -/
  | code (left value : Nat)

/-- The rest of a long text, up to its three closing quotes, and what follows. Up to two quotes
before these belong to the text; a backslash at the end of a line hides the line end and all blanks
and line ends after it. -/
def longText (quote : Char) (escapes : Bool) :
    LongState → List Char → Option (List Char × List Char)
  | .plain _ quotes, [] =>
    if 3 ≤ quotes then some (List.replicate (quotes - 3) quote, []) else none
  | .plain trimming quotes, c :: rest =>
    if c = quote then
      if quotes = 4 then some ([quote, quote], rest)
      else longText quote escapes (.plain false (quotes + 1)) rest
    else if 3 ≤ quotes then some (List.replicate (quotes - 3) quote, c :: rest)
    else if trimming && (isBlank c || c = '\n') then longText quote escapes (.plain true 0) rest
    else if c = '\r' then
      if rest.head? = some '\n' then
        prepend (List.replicate quotes quote) (longText quote escapes (.plain trimming 0) rest)
      else none
    else
      prepend (List.replicate quotes quote)
        (if escapes && c = '\\' then longText quote escapes .escape rest
        else if isPlain c || c = '\n' then
          prepend [c] (longText quote escapes (.plain false 0) rest)
        else none)
  | _, [] => none
  | .escape, c :: rest =>
    if isBlank c then longText quote escapes .escapedBlank rest
    else if c = '\n' then longText quote escapes (.plain true 0) rest
    else if c = '\r' then
      if rest.head? = some '\n' then longText quote escapes .escapedBlank rest else none
    else
      match escapeLetter? c with
      | some d => prepend [d] (longText quote escapes (.plain false 0) rest)
      | none =>
        match codeDigits? c with
        | some left => longText quote escapes (.code left 0) rest
        | none => none
  | .escapedBlank, c :: rest =>
    if isBlank c then longText quote escapes .escapedBlank rest
    else if c = '\n' then longText quote escapes (.plain true 0) rest
    else if c = '\r' && rest.head? = some '\n' then longText quote escapes .escapedBlank rest
    else none
  | .code left value, c :: rest =>
    match hexDigit? c with
    | none => none
    | some digit =>
      match left with
      | 0 =>
        match ofCodePoint? (16 * value + digit) with
        | none => none
        | some d => prepend [d] (longText quote escapes (.plain false 0) rest)
      | left + 1 => longText quote escapes (.code left (16 * value + digit)) rest

/-! ## Texts of all kinds -/

/-- What follows a line end right after the opening quotes of a long text, which is no part of
it. -/
def skipFirstLineEnd : List Char → List Char
  | '\n' :: rest => rest
  | '\r' :: '\n' :: rest => rest
  | other => other

def text : List Char → Option (List Char × List Char)
  | '"' :: '"' :: '"' :: rest => longText '"' true (.plain false 0) (skipFirstLineEnd rest)
  | '"' :: rest => shortText '"' true .plain rest
  | '\'' :: '\'' :: '\'' :: rest => longText '\'' false (.plain false 0) (skipFirstLineEnd rest)
  | '\'' :: rest => shortText '\'' false .plain rest
  | _ => none

end ClusterMember.Toml
