/-! # Addresses

A URI in the forms a request line can hold: `*`, a path, an authority, or all of it. The text is
read once, from the left, and is refused at the first character that cannot stand where it stands.

* `Uri`: the parts of an address. What follows `#` is no part of it.
* `Uri.parse?`: the reader; an address has at most `Uri.maxBytes` bytes.
* `Uri.host`, `Uri.port?`: the parts of the authority that are dialled.

An endpoint is the text by which a node is named, mostly `host:port`.

* `Endpoint.hasSchemeMark`, `Endpoint.beginsWithScheme`: whether it may be a whole address.
* `Endpoint.uri`: the address that is dialled for it.
-/

namespace ClusterMember
set_option autoImplicit false

/-- The parts of an address; those it lacks are empty. -/
structure Uri where
  scheme : Option String := none
  authority : String := ""
  path : String := ""
  query : Option String := none
deriving DecidableEq

namespace Uri

/-- The longest address, in bytes. -/
def maxBytes : Nat := 65534

/-- The longest scheme that is not `http` or `https`. -/
def maxScheme : Nat := 64

/-! ## Classes of characters -/

def isSchemeChar (c : Char) : Bool := c.isAlphanum || "+-.~".toList.contains c

def endsAuthority (c : Char) : Bool := c = '/' || c = '?' || c = '#'

/-- A character without a role of its own in an authority. -/
def isAuthorityChar (c : Char) : Bool := c.isAlphanum || "!$&'()*+,-.;=_~".toList.contains c

/-- A character of a path. Some that ought to be escaped are let through: `"`, `{`, `}` and everything
beyond ASCII. -/
def isPathChar (c : Char) : Bool :=
  c.isAlphanum || "!$%&'()*+,-./:;=@[\\]^_|~\"\x7b\x7d".toList.contains c || 0x80 ≤ c.toNat

/-- A character of a query: as in a path, but for the quote, and with the question mark and the
grave accent. -/
def isQueryChar (c : Char) : Bool := isPathChar c && c ≠ '"' || c = '?' || c.val = 0x60

/-! ## The scheme -/

/-- The text after `start`, if it begins so in any case. -/
def dropIgnoringCase? : (start : List Char) → List Char → Option (List Char)
  | [], text => some text
  | _ :: _, [] => none
  | s :: start, c :: text => if c.toLower = s then dropIgnoringCase? start text else none

/-- The scheme, if the text has one, and what follows its `://`. -/
def splitScheme (text : List Char) : Option (Option (List Char) × List Char) :=
  match dropIgnoringCase? "http://".toList text with
  | some rest => some (some "http".toList, rest)
  | none =>
    match dropIgnoringCase? "https://".toList text with
    | some rest => some (some "https".toList, rest)
    | none =>
      let name := text.takeWhile isSchemeChar
      match text.dropWhile isSchemeChar with
      | ':' :: '/' :: '/' :: rest =>
        if name.length ≤ maxScheme then some (some name, rest) else none
      | _ => some (none, text)

/-! ## The authority -/

/-- What was seen of an authority so far. -/
structure AuthorityScan where
  /-- Colons after the user information and outside brackets. -/
  colons : Nat := 0
  opened : Bool := false
  closed : Bool := false
  /-- A percent sign that is not part of the user information or inside brackets. -/
  percent : Bool := false
  /-- The last character was an at sign. -/
  bareAt : Bool := false

namespace AuthorityScan

/-- Take one more character. User information and a bracketed host may hold more colons and percent
signs than the rest, so an at sign and a closing bracket forget those before them. -/
def next (scan : AuthorityScan) (c : Char) : Option AuthorityScan :=
  let scan := { scan with bareAt := false }
  if c = ':' then if 8 ≤ scan.colons then none else some { scan with colons := scan.colons + 1 }
  else if c = '[' then
    if scan.percent || scan.opened then none else some { scan with opened := true }
  else if c = ']' then
    if !scan.opened || scan.closed then none
    else some { scan with closed := true, colons := 0, percent := false }
  else if c = '@' then some { scan with colons := 0, percent := false, bareAt := true }
  else if c = '%' then some { scan with percent := true }
  else if isAuthorityChar c then some scan
  else none

/-- Whether an authority may end here. -/
def complete (scan : AuthorityScan) : Bool :=
  scan.opened == scan.closed && scan.colons ≤ 1 && !scan.bareAt && !scan.percent

end AuthorityScan

def splitAuthority (text : List Char) : Option (List Char × List Char) :=
  let authority := text.takeWhile (!endsAuthority ·)
  match authority.foldlM AuthorityScan.next {} with
  | some scan => if scan.complete then some (authority, text.dropWhile (!endsAuthority ·)) else none
  | none => none

/-! ## Path and query -/

/-- The path and the query of a text; a fragment is left out. An empty path is the root. -/
def splitPath (text : List Char) : Option (List Char × Option (List Char)) :=
  let path := text.takeWhile fun c => c ≠ '?' && c ≠ '#'
  let shown := if path.isEmpty then ['/'] else path
  if path.all isPathChar then
    match text.dropWhile fun c => c ≠ '?' && c ≠ '#' with
    | '?' :: rest =>
      let query := rest.takeWhile (· ≠ '#')
      if query.all isQueryChar then some (shown, some query) else none
    | _ => some (shown, none)
  else none

/-! ## The whole -/

/-- An address with neither scheme nor authority. -/
def ofPath? (text : List Char) : Option Uri := do
  let (path, query) ← splitPath text
  some { path := String.ofList path, query := query.map String.ofList }

/-- An address that begins with a scheme or an authority. Without a scheme the authority is all
there is; with one it may not be empty. -/
def ofAuthority? (text : List Char) : Option Uri := do
  let (scheme, rest) ← splitScheme text
  let (authority, rest) ← splitAuthority rest
  match scheme with
  | none => if rest.isEmpty then some { authority := String.ofList authority } else none
  | some scheme =>
    if authority.isEmpty then none
    else
      let (path, query) ← splitPath rest
      some
        { scheme := some (String.ofList scheme)
          authority := String.ofList authority
          path := String.ofList path
          query := query.map String.ofList }

def parse? (text : String) : Option Uri :=
  if maxBytes < text.utf8ByteSize then none
  else
    match text.toList with
    | [] => none
    | ['*'] => some { path := "*" }
    | '/' :: rest => ofPath? ('/' :: rest)
    | c :: rest => ofAuthority? (c :: rest)

/-! ## The dialled part -/

/-- The authority without its user information. -/
def location (uri : Uri) : List Char :=
  (uri.authority.toList.reverse.takeWhile (· ≠ '@')).reverse

def host (uri : Uri) : String :=
  match uri.location with
  | '[' :: rest => String.ofList ('[' :: rest.takeWhile (· ≠ ']') ++ [']'])
  | other => String.ofList (other.takeWhile (· ≠ ':'))

def port? (uri : Uri) : Option Nat :=
  if uri.location.contains ':' then
    let digits := (uri.location.reverse.takeWhile (· ≠ ':')).reverse
    if !digits.isEmpty && digits.all Char.isDigit then
      let port := Nat.ofDigitChars 10 digits 0
      if port < 65536 then some port else none
    else none
  else none

end Uri
end ClusterMember

namespace ClusterMember.Endpoint
set_option autoImplicit false

/-! ## Endpoints -/

/-- Whether the mark that follows a scheme stands anywhere in a text. -/
def hasSchemeMark : List Char → Bool
  | [] => false
  | c :: rest => "://".toList.isPrefixOf (c :: rest) || hasSchemeMark rest

/-- Whether a text begins with a scheme: a letter, then letters, digits and `+`, `-`, `.`, and then the
mark. -/
def beginsWithScheme : List Char → Bool
  | [] => false
  | c :: rest =>
    c.isAlpha &&
      "://".toList.isPrefixOf (rest.dropWhile fun c => c.isAlphanum || "+-.".toList.contains c)

/-- An endpoint that holds a scheme mark is dialled as it stands, any other over plain HTTP. -/
def uri (endpoint : String) : String :=
  if hasSchemeMark endpoint.toList then endpoint else "http://" ++ endpoint

end ClusterMember.Endpoint
