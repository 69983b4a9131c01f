import ClusterMember.Toml.Scalar

/-! # Settings files

A file is a sequence of statements, each on lines of its own: a header, which says in which table
the lines after it are, or a key with its value.

* `Toml.keyPath?`: a key, which is a path of names with dots between them.
* `Toml.value?`: a value. Arrays and inline tables nest at most `Toml.maxDepth` deep.
* `Toml.Statement`, `Toml.statement?`: the statements.
* `Toml.Document`: the tree so far, and the table that is being filled.
* `Toml.parse?`: a whole file.
-/

namespace ClusterMember.Toml
set_option autoImplicit false

/-- How deep values may nest, and how many names a key may have. -/
def maxDepth : Nat := 79

/-! ## Keys -/

/-- A character of a name without quotes. -/
def isBareChar (c : Char) : Bool := c.isAlphanum || c = '-' || c = '_'

/-- A name, with or without quotes. -/
def name? : List Char → Option (List Char × List Char)
  | '"' :: rest => shortText '"' true .plain rest
  | '\'' :: rest => shortText '\'' false .plain rest
  | other =>
    let name := other.takeWhile isBareChar
    if name.isEmpty then none else some (name, other.dropWhile isBareChar)

/-- At most `room` names with dots between them and blanks around them. -/
def names? : (room : Nat) → List Char → Option (List String × List Char)
  | 0, _ => none
  | room + 1, text => do
    let (name, rest) ← name? (skipBlanks text)
    match skipBlanks rest with
    | '.' :: rest => do
      let (names, rest) ← names? room rest
      some (String.ofList name :: names, rest)
    | other => some ([String.ofList name], other)

def keyPath? (text : List Char) : Option (List String × List Char) := names? maxDepth text

/-! ## Sequences -/

/-- The items of an array after its opening bracket or a comma, each read by `item`; a comma may
follow the last. -/
def items? (item : List Char → Option (Node × List Char)) :
    (room : Nat) → List Char → Option (List Node × List Char)
  | 0, _ => none
  | room + 1, text =>
    match skipGap false text with
    | ']' :: rest => some ([], rest)
    | other => do
      let (node, rest) ← item other
      match skipGap false rest with
      | ']' :: rest => some ([node], rest)
      | ',' :: rest => do
        let (nodes, rest) ← items? item room rest
        some (node :: nodes, rest)
      | _ => none

/-- The members of an inline table from a key on, each value read by `item`; they are added to
`entries`. -/
def members? (item : List Char → Option (Node × List Char)) :
    (room : Nat) → Entries → List Char → Option (Entries × List Char)
  | 0, _, _ => none
  | room + 1, entries, text => do
    let (path, rest) ← keyPath? text
    match rest with
    | '=' :: rest => do
      let (node, rest) ← item (skipBlanks rest)
      let entries ← assign path node entries
      match skipBlanks rest with
      | '}' :: rest => some (entries, rest)
      | ',' :: rest => members? item room entries rest
      | _ => none
    | _ => none

/-! ## Values -/

/-- A value that is neither an array nor an inline table. -/
def scalar? (source : List Char) : Option (Node × List Char) :=
  match source with
  | '"' :: _ | '\'' :: _ =>
    (text source).map fun (found, rest) => (.text (String.ofList found), rest)
  | 't' :: 'r' :: 'u' :: 'e' :: rest => some (.boolean true, rest)
  | 'f' :: 'a' :: 'l' :: 's' :: 'e' :: rest => some (.boolean false, rest)
  | _ =>
    if looksLikeMoment source then (moment? source).map fun rest => (.moment, rest)
    else number? source

/-- A value in which arrays and inline tables nest at most `depth` deep. -/
def valueIn? : (depth : Nat) → List Char → Option (Node × List Char)
  | 0, source =>
    match source with
    | '[' :: _ | '\x7b' :: _ => none
    | _ => scalar? source
  | depth + 1, source =>
    match source with
    | '[' :: rest =>
      (items? (valueIn? depth) source.length rest).map fun (nodes, rest) => (.array nodes, rest)
    | '\x7b' :: rest =>
      match skipBlanks rest with
      | '}' :: rest => some (.inline [], rest)
      | _ =>
        (members? (valueIn? depth) source.length [] rest).map fun (entries, rest) =>
          (.inline entries, rest)
    | _ => scalar? source

def value? (source : List Char) : Option (Node × List Char) := valueIn? maxDepth source

/-! ## Statements -/

/-- What a line says. -/
inductive Statement
  | blank
  | table (path : List String)
  /-- The lines below are about another table of the list at a path. -/
  | element (path : List String)
  | assign (path : List String) (node : Node)

/-- A header of a table, after its bracket. -/
def tableHeader? (source : List Char) : Option (Statement × List Char) := do
  let (path, rest) ← keyPath? source
  match rest with
  | ']' :: rest => some (.table path, rest)
  | _ => none

/-- A header of a list of tables, after its brackets. -/
def elementHeader? (source : List Char) : Option (Statement × List Char) := do
  let (path, rest) ← keyPath? source
  match rest with
  | ']' :: ']' :: rest => some (.element path, rest)
  | _ => none

def assignment? (source : List Char) : Option (Statement × List Char) := do
  let (path, rest) ← keyPath? source
  match rest with
  | '=' :: rest => do
    let (node, rest) ← value? (skipBlanks rest)
    some (.assign path node, rest)
  | _ => none

def statement? (source : List Char) : Option (Statement × List Char) :=
  match source with
  | [] | '#' :: _ | '\n' :: _ | '\r' :: _ => some (.blank, source)
  | '[' :: '[' :: rest => elementHeader? rest
  | '[' :: rest => tableHeader? rest
  | _ => assignment? source

/-! ## Documents -/

/-- The tree so far, and the path of the table that is being filled. -/
structure Document where
  root : Entries := []
  here : List String := []

namespace Document

/-- The document after one more statement. -/
def extend (statement : Statement) (document : Document) : Option Document :=
  match statement with
  | .blank => some document
  | .table path => (openTable path document.root).map fun root => ⟨root, path⟩
  | .element path => (openElement path document.root).map fun root => ⟨root, path⟩
  | .assign path node =>
    (within .implied (fun _ => Toml.assign path node) document.here .header document.root).map
      fun root => { document with root }

/-- The document after at most `room` lines. -/
def read? : (room : Nat) → List Char → Document → Option Document
  | 0, _, _ => none
  | room + 1, source, document =>
    match skipBlanks source with
    | [] => some document
    | other => do
      let (statement, rest) ← statement? other
      let rest ← endLine? rest
      let document ← document.extend statement
      read? room rest document

end Document

/-- Read a settings file. A byte order mark at its start is left out. -/
def parse? (source : String) : Option Entries :=
  let chars := match source.toList with
    | c :: rest => if c.toNat = 0xfeff then rest else c :: rest
    | [] => []
  (Document.read? (chars.length + 1) chars {}).map Document.root

end ClusterMember.Toml
