import Pipework.Json.Reader

/-!
# Reading records

A list of records is an array of objects of which only the fields of some names count. `records?`
reads such a list. What stands in other fields is only passed over: it has to be spelled as a value,
but may be nested to any depth, name surrogates that are not paired and hold numbers of any size.
An element that is no object is read as `read?` reads it.
-/

namespace Pipework.Json

/-! ## Passing over a value -/

/-- The text after a string whose opening quote has been passed. -/
def skipString : List Char → Option (List Char)
  | [] => none
  | '"' :: rest => some rest
  | '\\' :: 'u' :: a :: b :: c :: d :: rest =>
    if (hexWord? a b c d).isSome then skipString rest else none
  | '\\' :: c :: rest => if (shortEscape? c).isSome then skipString rest else none
  | c :: rest => if c.toNat < 0x20 || c == '\\' then none else skipString rest

/-- The text after a number. -/
def skipNumber (cs : List Char) : Option (List Char) := do
  let body := match cs with
    | '-' :: rest => rest
    | _ => cs
  let whole := body.takeWhile Number.isDigit
  if whole.isEmpty || (1 < whole.length && whole.head? == some '0') then none
  else
    let (_, rest) ← readFraction (body.dropWhile Number.isDigit)
    match rest with
    | 'e' :: tail | 'E' :: tail => (readExponent tail).map (·.2)
    | _ => some rest

/-- The text after the name of a field and its colon. -/
def skipName (cs : List Char) : Option (List Char) :=
  match skipSpace cs with
  | '"' :: rest =>
    match (skipString rest).map skipSpace with
    | some (':' :: rest) => some rest
    | _ => none
  | _ => none

mutual

/-- The text after a value. `around` tells of each bracket that is open, the innermost first,
whether it is a brace. -/
def skipValue (fuel : Nat) (around : List Bool) (cs : List Char) : Option (List Char) :=
  match fuel with
  | 0 => none
  | fuel + 1 =>
    match skipSpace cs with
    | 'n' :: 'u' :: 'l' :: 'l' :: rest => skipEnd fuel around rest
    | 't' :: 'r' :: 'u' :: 'e' :: rest => skipEnd fuel around rest
    | 'f' :: 'a' :: 'l' :: 's' :: 'e' :: rest => skipEnd fuel around rest
    | '"' :: rest => (skipString rest).bind (skipEnd fuel around)
    | '[' :: rest =>
      match skipSpace rest with
      | ']' :: rest => skipEnd fuel around rest
      | rest => skipValue fuel (false :: around) rest
    | '\x7b' :: rest =>
      match skipSpace rest with
      | '\x7d' :: rest => skipEnd fuel around rest
      | rest => (skipName rest).bind (skipValue fuel (true :: around))
    | rest => (skipNumber rest).bind (skipEnd fuel around)

/-- The text after what surrounds a value that has just ended. -/
def skipEnd (fuel : Nat) (around : List Bool) (cs : List Char) : Option (List Char) :=
  match fuel with
  | 0 => none
  | fuel + 1 =>
    match around with
    | [] => some cs
    | brace :: outer =>
      match skipSpace cs with
      | ',' :: rest =>
        if brace then (skipName rest).bind (skipValue fuel around) else skipValue fuel around rest
      | ']' :: rest => if brace then none else skipEnd fuel outer rest
      | '\x7d' :: rest => if brace then skipEnd fuel outer rest else none
      | _ => none

end

/-! ## Records -/

/-- The fields of an object after its opening brace: those of the names that count. `fuel` bounds
the number of fields and of steps on each. -/
def readRecord (names : List String) (fuel : Nat) (cs : List Char) :
    Option (List (String × Json) × List Char) :=
  match fuel with
  | 0 => none
  | fuel + 1 => do
    let (key, rest) ← match skipSpace cs with
      | '"' :: rest => readString rest
      | _ => none
    let rest ← match skipSpace rest with
      | ':' :: rest => some rest
      | _ => none
    let key := String.ofList key
    let (field, rest) ←
      if names.contains key then
        (readValue fuel nestingLimit rest).map fun (j, rest) => ([(key, j)], rest)
      else (skipValue fuel [] rest).map fun rest => ([], rest)
    match skipSpace rest with
    | '\x7d' :: rest => some (field, rest)
    | ',' :: rest => (readRecord names fuel rest).map fun (fields, rest) => (field ++ fields, rest)
    | _ => none

/-- One element of a list of records. -/
def readElement (names : List String) (fuel : Nat) (cs : List Char) :
    Option (Json × List Char) :=
  match skipSpace cs with
  | '\x7b' :: rest =>
    match skipSpace rest with
    | '\x7d' :: rest => some (.object [], rest)
    | rest => (readRecord names fuel rest).map fun (fields, rest) => (.object fields, rest)
  | cs => readValue fuel nestingLimit cs

/-- The elements of a list of records after its opening bracket. -/
def readElements (names : List String) (fuel : Nat) (cs : List Char) :
    Option (List Json × List Char) :=
  match fuel with
  | 0 => none
  | fuel + 1 => do
    let (j, rest) ← readElement names fuel cs
    match skipSpace rest with
    | ']' :: rest => some ([j], rest)
    | ',' :: rest => (readElements names fuel rest).map fun (js, rest) => (j :: js, rest)
    | _ => none

/-- The records of a text, with the fields of the given names. Each character costs at most one
step on its element, one on its field and two on its value. -/
def records? (names : List String) (s : String) : Option (List Json) := do
  let cs := s.toList
  let (js, rest) ← match skipSpace cs with
    | '[' :: rest =>
      match skipSpace rest with
      | ']' :: rest => some ([], rest)
      | rest => readElements names (4 * cs.length + 4) rest
    | _ => none
  if (skipSpace rest).isEmpty then some js else none

end Pipework.Json
