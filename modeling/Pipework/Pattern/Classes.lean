import Pipework.Text.CharSet
import Pipework.Text.Property.Age
import Pipework.Text.Property.Binary
import Pipework.Text.Property.Break
import Pipework.Text.Property.Category
import Pipework.Text.Property.Folding
import Pipework.Text.Property.Script

/-!
# Named classes of characters

The sets that patterns name: digits, blanks and word characters, the classes of ASCII, and the
Unicode properties. Names of properties and of their values are compared without regard to case,
spaces, underscores, hyphens and a leading `is`.

`caseClosure` adds to a set all characters that differ from its members only by case.
-/

namespace Pipework.Pattern

open Text Text.Property

/-! ## Case -/

/-- A set with all characters that have the same simple case folding as one of its members. -/
def caseClosure (set : CharSet) : CharSet :=
  let touched := foldingPairs.filter fun (n, image) => set.mem n || set.mem image
  let images := (touched.map (·.2)).eraseDups
  let others := foldingPairs.filter fun (_, image) => images.contains image
  if touched.isEmpty then set
  else CharSet.ofRanges (set.ranges ++ images.map (fun n => (n, n)) ++
    others.map fun (n, _) => (n, n))

/-- A set with the other case of each of its ASCII letters. -/
def asciiCaseClosure (set : CharSet) : CharSet :=
  let upper := CharSet.ofRanges [(65, 90)]
  let lower := CharSet.ofRanges [(97, 122)]
  let shifted (s : CharSet) (f : Nat → Nat) : List (Nat × Nat) :=
    s.ranges.map fun (lo, hi) => (f lo, f hi)
  .ofRanges (set.ranges ++ shifted (set.inter upper) (· + 32) ++ shifted (set.inter lower) (· - 32))

/-! ## Properties -/

/-- The form in which names are compared. -/
def normalName (name : List Char) : List Char :=
  let lowered (c : Char) : Char := if 'A' ≤ c && c ≤ 'Z' then Char.ofNat (c.toNat + 32) else c
  let plain (cs : List Char) : List Char :=
    (cs.filter fun c => c.toNat < 0x80 && c != ' ' && c != '_' && c != '-').map lowered
  match name with
  | i :: s :: rest =>
    if lowered i == 'i' && lowered s == 's' then
      if plain rest == ['c'] then ['i', 's', 'c'] else plain rest
    else plain name
  | _ => plain name

/-- One of some names is the given one. -/
def goesBy (name : List Char) (names : List String) : Bool :=
  names.any fun other => normalName other.toList == name

/-- The ranges of the runs whose label is among the given ones. -/
def runsOf (labels : List String) (runs : List (String × Nat × Nat)) : CharSet :=
  .ofRanges ((runs.filter fun run => labels.contains run.1).map (·.2))

/-- All code points. -/
def everything : CharSet := .ofRanges [(0, CharSet.last)]

/-- The code points of a general category or of a group of them. No character is a surrogate, so
that category is refused. -/
def categorySet? (name : List Char) : Option CharSet :=
  if goesBy name ["any"] then some everything
  else if goesBy name ["ascii"] then some (.ofRanges [(0, 0x7F)])
  else if goesBy name ["assigned"] then some (runsOf ["Cn"] categoryRuns).compl
  else
    ((categoryNames.find? (goesBy name)).filter (·.head? != some "Cs")).map fun names =>
      runsOf (categoryMembers (names.headD "")) categoryRuns

/-- The code of a script. -/
def scriptCode? (name : List Char) : Option String :=
  ((scriptNames.find? (goesBy name)).bind (·.head?)).filter (· != "Zzzz")

/-- The code points of a script. -/
def scriptSet? (name : List Char) : Option CharSet :=
  (scriptCode? name).map fun code => runsOf [code] scriptRuns

/-- The code points used with a script. -/
def extendedScriptSet? (name : List Char) : Option CharSet :=
  (scriptCode? name).map fun code =>
    let listed := CharSet.ofRanges (extensionRuns.map fun (lo, hi, _) => (lo, hi))
    let used := (extensionRuns.filter fun (_, _, codes) => codes.contains code).map
      fun (lo, hi, _) => (lo, hi)
    ((runsOf [code] scriptRuns).diff listed).union (.ofRanges used)

/-- A version of the standard as two numbers. -/
def version (label : String) : Nat × Nat :=
  match cutAt? '.' label with
  | some (major, minor) => (number major.toList, number minor.toList)
  | none => (0, 0)

/-- The code points assigned in a version of the standard or before. -/
def ageSet? (name : List Char) : Option CharSet :=
  let labels := ((ageRuns.map (·.1)).eraseDups).filter (· != "NA")
  (labels.find? fun label => goesBy name [label, "v" ++ label.replace "." "_"]).map fun bound =>
    let (major, minor) := version bound
    let earlier := labels.filter fun label =>
      (version label).1 < major || ((version label).1 == major && (version label).2 ≤ minor)
    runsOf earlier ageRuns

/-- The code points with a value of a property, by the names of its values and its runs. -/
def namedRun? (names : List (List String)) (runs : List (String × Nat × Nat))
    (name : List Char) : Option CharSet :=
  (names.find? (goesBy name)).map fun names => runsOf [names.headD ""] runs

/-- The code points of a property that a character has or has not. -/
def binarySet? (name : List Char) : Option CharSet :=
  if goesBy name ["White_Space", "WSpace", "space"] then some (.ofRanges blankRanges)
  else (binaryTables.find? fun (names, _) => goesBy name names).map fun (_, table) =>
    .ofRanges (gapRanges table)

/-- The set of a name that stands alone: a property, a category or a script. -/
def propertySet? (name : List Char) : Option CharSet :=
  let name := normalName name
  ((binarySet? name).or (categorySet? name)).or (scriptSet? name)

/-- The set of the characters with a value of a property. -/
def valueSet? (property value : List Char) : Option CharSet :=
  let property := normalName property
  let value := normalName value
  if goesBy property ["General_Category", "gc"] then categorySet? value
  else if goesBy property ["Script", "sc"] then scriptSet? value
  else if goesBy property ["Script_Extensions", "scx"] then extendedScriptSet? value
  else if goesBy property ["Age"] then ageSet? value
  else if goesBy property ["Grapheme_Cluster_Break", "gcb"] then
    namedRun? graphemeBreakNames graphemeBreakRuns value
  else if goesBy property ["Word_Break", "wb"] then namedRun? wordBreakNames wordBreakRuns value
  else if goesBy property ["Sentence_Break", "sb"] then
    namedRun? sentenceBreakNames sentenceBreakRuns value
  else none

/-- What the braces after `\p` name: a property alone, or one with a value after `!=`, `:` or `=`,
of which the first kind that occurs counts. The flag tells that the value is the one excluded. -/
def classSet? (name : List Char) : Option (CharSet × Bool) :=
  let cut (sign : List Char) : Option (List Char × List Char) :=
    ((List.range name.length).find? fun i => sign.isPrefixOf (name.drop i)).map fun i =>
      (name.take i, name.drop (i + sign.length))
  match cut ['!', '='], cut [':'], cut ['='] with
  | some (property, value), _, _ => (valueSet? property value).map fun s => (s, true)
  | none, some (property, value), _ | none, none, some (property, value) =>
    (valueSet? property value).map fun s => (s, false)
  | none, none, none => (propertySet? name).map fun s => (s, false)

/-! ## Short classes -/

/-- Decimal digits. -/
def digitSet : CharSet := runsOf ["Nd"] categoryRuns

/-- Blanks. -/
def blankSet : CharSet := .ofRanges blankRanges

/-- Characters of words: alphabetic characters, marks, decimal digits, connectors and joiners. -/
def wordSet : CharSet :=
  .ofRanges ((runsOf ["Mn", "Mc", "Me", "Nd", "Pc"] categoryRuns).ranges ++
    gapRanges alphabeticTable ++ gapRanges joinControlTable)

/-- Decimal digits of ASCII. -/
def asciiDigitSet : CharSet := .ofRanges [(48, 57)]

/-- Blanks of ASCII. -/
def asciiBlankSet : CharSet := .ofRanges [(9, 13), (32, 32)]

/-- Characters of ASCII words. -/
def asciiWordSet : CharSet := .ofRanges [(48, 57), (65, 90), (95, 95), (97, 122)]

/-- A class of ASCII by its name in brackets and colons. -/
def bracketSet? (name : List Char) : Option CharSet :=
  match String.ofList name with
  | "alnum" => some (.ofRanges [(48, 57), (65, 90), (97, 122)])
  | "alpha" => some (.ofRanges [(65, 90), (97, 122)])
  | "ascii" => some (.ofRanges [(0, 127)])
  | "blank" => some (.ofRanges [(9, 9), (32, 32)])
  | "cntrl" => some (.ofRanges [(0, 31), (127, 127)])
  | "digit" => some asciiDigitSet
  | "graph" => some (.ofRanges [(33, 126)])
  | "lower" => some (.ofRanges [(97, 122)])
  | "print" => some (.ofRanges [(32, 126)])
  | "punct" => some (.ofRanges [(33, 47), (58, 64), (91, 96), (123, 126)])
  | "space" => some asciiBlankSet
  | "upper" => some (.ofRanges [(65, 90)])
  | "word" => some asciiWordSet
  | "xdigit" => some (.ofRanges [(48, 57), (65, 70), (97, 102)])
  | _ => none

end Pipework.Pattern
