import Pipework.Toml.Scalar

/-!
# Reading TOML documents

`Toml.read?` reads a document into the entries of its root table.

A table comes into being in one of three ways, its `Origin`: under its own header, on the way of a
longer header, or through a dotted key. The origin decides what may be added later:

* a header may be written once for each table, and not for a table that dotted keys have made;
* a dotted key enters tables that dotted keys have made, and no others;
* a key stands once in its table, and a value that is written inline is closed.
-/

namespace Pipework.Toml

/-! ## Documents under construction -/

/-- How a table came into being. -/
inductive Origin where
  /-- Under its own header; also the root and the elements of an array of tables. -/
  | header
  /-- On the way of a longer header. -/
  | implied
  /-- Through a dotted key. -/
  | dotted
  deriving DecidableEq

/-- A part of a document under construction. -/
inductive Part where
  /-- A value, which is closed. -/
  | value (v : Toml)
  /-- A table. -/
  | table (origin : Origin) (entries : List (String × Part))
  /-- An array of tables, the elements in reverse order. -/
  | tables (elements : List (List (String × Part)))

namespace Part

mutual

/-- The value that a part has become. -/
def finish : Part → Toml
  | .value v => v
  | .table _ entries => .table (finishEntries entries)
  | .tables elements => .array (finishElements elements).reverse

/-- `finish` on each entry. -/
def finishEntries : List (String × Part) → List (String × Toml)
  | [] => []
  | (k, p) :: rest => (k, finish p) :: finishEntries rest

/-- `finish` on each table. -/
def finishElements : List (List (String × Part)) → List Toml
  | [] => []
  | entries :: rest => .table (finishEntries entries) :: finishElements rest

end

/-- Change the table at a path, making the tables on the way that are missing. The change is told
the origin of the table. -/
def change (through : Origin) (f : Origin → Keyed Part → Option (Keyed Part)) :
    List String → Origin → Keyed Part → Option (Keyed Part)
  | [], origin, entries => f origin entries
  | key :: path, _, entries =>
    match entries.find? key with
    | none => do
      let inner ← change through f path through []
      some (entries.insert key (.table through inner))
    | some (.table origin inner) => do
      guard (through ≠ .dotted ∨ origin ≠ .header)
      let inner ← change through f path origin inner
      some (entries.insert key (.table origin inner))
    | some (.tables (last :: earlier)) => do
      let last ← change through f path .header last
      some (entries.insert key (.tables (last :: earlier)))
    | some _ => none

/-- Enter a value under a dotted key. -/
def enter (path : List String) (v : Toml) (origin : Origin) (entries : Keyed Part) :
    Option (Keyed Part) := do
  let key ← path.getLast?
  let outer := path.dropLast
  change .dotted (fun origin entries => do
    guard (outer.isEmpty ∨ origin = .dotted)
    guard ((entries.find? key).isNone)
    some (entries.insert key (.value v))) outer origin entries

/-- Open the table of a header. -/
def openTable (path : List String) (root : Keyed Part) : Option (Keyed Part) := do
  let key ← path.getLast?
  change .implied (fun _ entries =>
    match entries.find? key with
    | none => some (entries.insert key (.table .header []))
    | some (.table .implied inner) => some (entries.insert key (.table .header inner))
    | some _ => none) path.dropLast .header root

/-- Open the next element of the array of tables of a header. -/
def openElement (path : List String) (root : Keyed Part) : Option (Keyed Part) := do
  let key ← path.getLast?
  change .implied (fun _ entries =>
    match entries.find? key with
    | none => some (entries.insert key (.tables [[]]))
    | some (.tables elements) => some (entries.insert key (.tables ([] :: elements)))
    | some _ => none) path.dropLast .header root

end Part

/-! ## Values -/

/-- Drop blanks, line breaks and comments; none if a comment holds a control character. -/
def skipLayout (inComment : Bool) : List Char → Option (List Char)
  | [] => some []
  | '\r' :: '\n' :: rest => skipLayout false rest
  | '\n' :: rest => skipLayout false rest
  | c :: rest =>
    if inComment then if isControl c then none else skipLayout true rest
    else if isGap c then skipLayout false rest
    else if c == '#' then skipLayout true rest
    else some (c :: rest)

/-- The text after the line, which holds at most blanks and a comment from here on. -/
def endLine (inComment : Bool) : List Char → Option (List Char)
  | [] => some []
  | '\r' :: '\n' :: rest => some rest
  | '\n' :: rest => some rest
  | c :: rest =>
    if inComment then if isControl c then none else endLine true rest
    else if isGap c then endLine false rest
    else if c == '#' then endLine true rest
    else none

mutual

/-- A value and the text after it. `depth` bounds the nesting, `fuel` the number of steps. -/
def readValue (fuel depth : Nat) (cs : List Char) : Option (Toml × List Char) :=
  match fuel with
  | 0 => none
  | fuel + 1 =>
    match cs with
    | '"' :: _ | '\'' :: _ => (readString cs).map fun (body, rest) => (.string (.ofList body), rest)
    | '[' :: rest =>
      if depth = 0 then none
      else (readItems fuel (depth - 1) rest).map fun (items, rest) => (.array items, rest)
    | '\x7b' :: rest =>
      if depth = 0 then none
      else
        (readEntries fuel (depth - 1) [] rest).map fun (entries, rest) =>
          (.table (Part.finishEntries entries), rest)
    | _ =>
      let (text, rest) := bareText cs
      (bareValue? text).map fun v => (v, rest)

/-- The elements of an array up to the closing bracket. -/
def readItems (fuel depth : Nat) (cs : List Char) : Option (List Toml × List Char) :=
  match fuel with
  | 0 => none
  | fuel + 1 =>
    match skipLayout false cs with
    | some (']' :: rest) => some ([], rest)
    | some cs => do
      let (v, rest) ← readValue fuel depth cs
      match skipLayout false rest with
      | some (']' :: rest) => some ([v], rest)
      | some (',' :: rest) => do
        let (items, rest) ← readItems fuel depth rest
        some (v :: items, rest)
      | _ => none
    | none => none

/-- The entries of an inline table up to the closing brace. -/
def readEntries (fuel depth : Nat) (entries : Keyed Part) (cs : List Char) :
    Option (Keyed Part × List Char) :=
  match fuel with
  | 0 => none
  | fuel + 1 =>
    match skipLayout false cs with
    | some ('\x7d' :: rest) => some (entries, rest)
    | some cs => do
      let (path, rest) ← readKey cs
      match rest with
      | '=' :: rest => do
        let (v, rest) ← readValue fuel depth (rest.dropWhile isGap)
        let entries ← Part.enter path v .header entries
        match skipLayout false rest with
        | some ('\x7d' :: rest) => some (entries, rest)
        | some (',' :: rest) => readEntries fuel depth entries rest
        | _ => none
      | _ => none
    | none => none

end

/-! ## Documents -/

/-- A document as far as it has been read. -/
structure Document where
  /-- The root table. -/
  root : Keyed Part := []
  /-- The path of the header that keys belong to. -/
  header : List String := []

/-- Read one header or entry from the beginning of its line. -/
def readLine (fuel : Nat) (doc : Document) (cs : List Char) : Option (Document × List Char) :=
  match cs with
  | '[' :: '[' :: rest => do
    let (path, rest) ← readKey rest
    match rest with
    | ']' :: ']' :: rest =>
      some ({ root := ← Part.openElement path doc.root, header := path }, rest)
    | _ => none
  | '[' :: rest => do
    let (path, rest) ← readKey rest
    match rest with
    | ']' :: rest => some ({ root := ← Part.openTable path doc.root, header := path }, rest)
    | _ => none
  | _ => do
    let (path, rest) ← readKey cs
    match rest with
    | '=' :: rest =>
      let (v, rest) ← readValue fuel nestingLimit (rest.dropWhile isGap)
      let root ← Part.change .implied (Part.enter path v) doc.header .header doc.root
      some ({ doc with root := root }, rest)
    | _ => none

/-- Read the lines of a document. `fuel` bounds the number of lines and of steps on each. -/
def readLines (fuel : Nat) (doc : Document) (cs : List Char) : Option Document :=
  match fuel with
  | 0 => none
  | fuel + 1 =>
    match skipLayout false cs with
    | none => none
    | some [] => some doc
    | some cs => do
      let (doc, rest) ← readLine fuel doc cs
      readLines fuel doc (← endLine false rest)

/-- The root table of a document. A byte order mark in front is passed over. -/
def read? (s : String) : Option (Keyed Toml) :=
  let cs := match s.toList with
    | '\ufeff' :: rest => rest
    | cs => cs
  (readLines (3 * cs.length + 3) {} cs).map fun doc => Part.finishEntries doc.root

end Pipework.Toml
