import Pipework.Json.Reader
import Pipework.Pattern.Classes
import Pipework.Pattern.Tree
import Pipework.Text.Alphanumeric
import Pipework.Text.Blank

/-!
# Reading patterns

`read?` reads the text of a pattern into a tree. There is no look-around and no reference back to a
group; what the text cannot be read as is refused as a whole.

* Flags, `(?i)` or `(?i:…)`, hold up to the end of the group in which they stand: ignore case `i`,
  lines `m`, any character `s`, lazy by default `U`, Unicode `u`, carriage returns `R`, free
  spacing `x`.
* A bracket class is a union of characters, ranges and classes, and such unions combined from left
  to right by `&&`, `--` and `~~`. Case is folded before a class is negated.
* Without the flag `u` classes hold ASCII only; what would then match other characters is refused.
-/

namespace Pipework.Pattern

open Text

/-- How a part of a pattern is to be read. -/
structure Flags where
  /-- Characters match without regard to case. -/
  ignoreCase : Bool := false
  /-- `^` and `$` stand for the ends of lines. -/
  lines : Bool := false
  /-- `.` matches line feeds too. -/
  dotAll : Bool := false
  /-- Repetitions are lazy unless marked. -/
  swapGreed : Bool := false
  /-- Classes are those of Unicode. -/
  unicode : Bool := true
  /-- Carriage returns end lines too. -/
  returns : Bool := false
  /-- Blanks and comments are passed over. -/
  spaced : Bool := false
  deriving Repr, DecidableEq

/-! ## Free spacing -/

/-- Drop blanks and comments. -/
def skipSpace (inComment : Bool) : List Char → List Char
  | [] => []
  | c :: rest =>
    if inComment then skipSpace (c != '\n') rest
    else if isBlank c then skipSpace false rest
    else if c == '#' then skipSpace true rest
    else c :: rest

namespace Flags

/-- Drop blanks and comments if they are to be passed over. -/
def skip (f : Flags) (cs : List Char) : List Char := if f.spaced then skipSpace false cs else cs

/-- The characters of class `p` in front, and the text after them; blanks between them are passed
over if they are to be. -/
def gather (f : Flags) (p : Char → Bool) (fuel : Nat) (cs : List Char) : List Char × List Char :=
  match fuel, cs with
  | fuel + 1, c :: rest =>
    if p c then
      let (more, rest) := gather f p fuel (f.skip rest)
      (c :: more, rest)
    else ([], cs)
  | _, _ => ([], cs)

end Flags

/-! ## Escapes -/

/-- What an escape or a plain character stands for. -/
inductive Primitive where
  /-- A character; `byte` if it was written as a byte. -/
  | char (c : Char) (byte : Bool)
  /-- A set. -/
  | set (s : CharSet)
  /-- A condition on the position. -/
  | anchor (a : Anchor)

/-- The character of a code point written in hexadecimal digits. -/
def codePoint? (digits : List Char) : Option Char := do
  guard (!digits.isEmpty)
  let n := (← digits.mapM Json.hexValue?).foldl (fun n d => 16 * n + d) 0
  if n < 0xD800 || (0xE000 ≤ n && n ≤ 0x10FFFF) then some (Char.ofNat n) else none

/-- A code point after `\x`, `\u` or `\U`: in braces, or in a fixed number of digits. -/
def readCodePoint (f : Flags) (width : Nat) (cs : List Char) : Option (Primitive × List Char) :=
  match f.skip cs with
  | '\x7b' :: rest =>
    match f.gather (· != '\x7d') cs.length (f.skip rest) with
    | (digits, '\x7d' :: rest) => do some (.char (← codePoint? digits) false, f.skip rest)
    | _ => none
  | cs =>
    let fixed := (List.range width).foldl (fun (acc : Option (List Char × List Char)) _ =>
      match acc with
      | some (digits, c :: rest) => some (digits ++ [c], f.skip rest)
      | _ => none) (some ([], cs))
    fixed.bind fun (digits, rest) => do
      let c ← codePoint? digits
      some (.char c (width == 2), rest)

/-- A Unicode class after `\p` or `\P`: one letter, or a name in braces with or without a value. The
flag tells that the class is the complement of the set. -/
def readProperty (f : Flags) (cs : List Char) : Option ((CharSet × Bool) × List Char) :=
  match f.skip cs with
  | '\x7b' :: rest =>
    match f.gather (· != '\x7d') cs.length (f.skip rest) with
    | (name, '\x7d' :: rest) => (classSet? name).map fun set => (set, rest)
    | _ => none
  | '\\' :: _ | [] => none
  | c :: rest => (propertySet? [c]).map fun s => ((s, false), f.skip rest)

/-- A set or its complement. Without Unicode a complement would hold more than characters. -/
def negatedSet (f : Flags) (negated : Bool) (s : CharSet) : Option CharSet :=
  if !negated then some s else if f.unicode then some s.compl else none

/-- A class under a letter. -/
def letterSet? (f : Flags) (c : Char) : Option CharSet :=
  let pick (wide narrow : CharSet) : CharSet := if f.unicode then wide else narrow
  match c with
  | 'd' => some (pick digitSet asciiDigitSet)
  | 's' => some (pick blankSet asciiBlankSet)
  | 'w' => some (pick wordSet asciiWordSet)
  | 'D' => negatedSet f true (pick digitSet asciiDigitSet)
  | 'S' => negatedSet f true (pick blankSet asciiBlankSet)
  | 'W' => negatedSet f true (pick wordSet asciiWordSet)
  | _ => none

/-- Has a meaning of its own in patterns. -/
def isMeta (c : Char) : Bool := "\\.+*?()|[]\x7b\x7d^$#&-~".toList.contains c

/-- May be escaped to stand for itself: every ASCII character but letters, digits and angles. -/
def isEscapable (c : Char) : Bool :=
  isMeta c || (c.toNat < 0x80 && !c.isAlphanum && c != '<' && c != '>')

/-- A place at a word by the name it has in braces. -/
def wordSide? (name : List Char) : Option WordSide :=
  match String.ofList name with
  | "start" => some .start
  | "end" => some .finish
  | "start-half" => some .startHalf
  | "end-half" => some .finishHalf
  | _ => none

/-- What follows `\b`: a place in braces; braces that do not begin with a letter are left alone. -/
def readWordSide (f : Flags) (cs : List Char) : Option (Primitive × List Char) :=
  let isName (c : Char) : Bool := c.isAlpha || c == '-'
  let plain := (Primitive.anchor (.word .edge f.unicode), cs)
  match cs with
  | '\x7b' :: rest =>
    match f.skip rest with
    | [] => none
    | c :: rest =>
      if !isName c then some plain
      else
        match f.gather isName (rest.length + 1) (c :: rest) with
        | (name, '\x7d' :: rest) =>
          (wordSide? name).map fun side => (.anchor (.word side f.unicode), rest)
        | _ => none
  | _ => some plain

/-- An escape after its backslash. -/
def readEscape (f : Flags) (cs : List Char) : Option (Primitive × List Char) :=
  let place (side : WordSide) : Primitive := .anchor (.word side f.unicode)
  match cs with
  | [] => none
  | c :: rest =>
    if isEscapable c then some (.char c false, rest)
    else
      match c with
      | 'x' => readCodePoint f 2 rest
      | 'u' => readCodePoint f 4 rest
      | 'U' => readCodePoint f 8 rest
      | 'p' | 'P' =>
        if !f.unicode then none
        else (readProperty f rest).bind fun ((s, without), rest) =>
          let s := if f.ignoreCase then caseClosure s else s
          (negatedSet f ((c == 'P') != without) s).map fun s => (.set s, rest)
      | 'd' | 's' | 'w' | 'D' | 'S' | 'W' => (letterSet? f c).map fun s => (.set s, rest)
      | 'a' => some (.char '\x07' false, rest)
      | 'f' => some (.char '\x0c' false, rest)
      | 't' => some (.char '\t' false, rest)
      | 'n' => some (.char '\n' false, rest)
      | 'r' => some (.char '\r' false, rest)
      | 'v' => some (.char '\x0b' false, rest)
      | 'A' => some (.anchor .textStart, rest)
      | 'z' => some (.anchor .textEnd, rest)
      | 'b' => readWordSide f rest
      | 'B' => some (place .noEdge, rest)
      | '<' => some (place .start, rest)
      | '>' => some (place .finish, rest)
      | _ => none

/-! ## Classes in brackets -/

/-- How two classes are combined. -/
inductive SetOp where
  /-- Members of both. -/
  | both
  /-- Members of the first only. -/
  | without
  /-- Members of exactly one. -/
  | exactlyOne

/-- A set with case folded if case is to be ignored. -/
def Flags.folded (f : Flags) (s : CharSet) : CharSet :=
  if !f.ignoreCase then s else if f.unicode then caseClosure s else asciiCaseClosure s

/-- A class under construction: what stands before the last operator, and the items after it. The
height is that of the part's syntax tree. -/
structure ClassPart where
  /-- The class before the last operator, and the operator. -/
  before : Option (CharSet × Nat × SetOp) := none
  /-- The items after it, and their heights. -/
  items : List (CharSet × Nat) := []

namespace ClassPart

/-- Add an item. -/
def add (part : ClassPart) (s : CharSet) (height : Nat) : ClassPart :=
  { part with items := (s, height) :: part.items }

/-- The union of the items and its height. -/
def union (part : ClassPart) : CharSet × Nat :=
  match part.items with
  | [item] => item
  | items =>
    (.ofRanges (items.flatMap (·.1.ranges)),
      if items.isEmpty then 0 else items.foldl (fun h item => max h (item.2 + 1)) 0)

/-- The class that the part amounts to. -/
def total (f : Flags) (part : ClassPart) : CharSet × Nat :=
  let (right, h) := part.union
  match part.before with
  | none => (right, h)
  | some (left, h', op) =>
    let left := f.folded left
    let right := f.folded right
    let s := match op with
      | .both => left.inter right
      | .without => left.diff right
      | .exactlyOne => left.symmDiff right
    (s, max h h' + 1)

/-- Close the part with an operator. -/
def operate (f : Flags) (op : SetOp) (part : ClassPart) : ClassPart :=
  let (s, h) := part.total f
  { before := some (s, h, op) }

end ClassPart

/-- A class of ASCII after its opening bracket, as in `[:alpha:]`. -/
def readBracketSet (f : Flags) (cs : List Char) : Option (Option CharSet × List Char) :=
  match cs with
  | ':' :: rest =>
    let (negated, rest) := match rest with
      | '^' :: rest => (true, rest)
      | _ => (false, rest)
    match rest.dropWhile (· != ':') with
    | ':' :: ']' :: after =>
      (bracketSet? (rest.takeWhile (· != ':'))).map fun s =>
        (negatedSet f negated (f.folded s), after)
    | _ => none
  | _ => none

/-- The code point of an item that may bound a range. -/
def itemChar? (f : Flags) : Primitive → Option Nat
  | .char c _ => if f.unicode || c.toNat < 0x80 then some c.toNat else none
  | _ => none

/-- The set of an item. -/
def itemSet? (f : Flags) : Primitive → Option CharSet
  | .set s => some s
  | p => (itemChar? f p).map fun n => .ofRanges [(n, n)]

/-- One character or escape of a class. -/
def readItem (f : Flags) : List Char → Option (Primitive × List Char)
  | [] => none
  | '\\' :: rest => readEscape f rest
  | c :: rest => some (.char c false, rest)

/-- The character that decides whether a hyphen is the mark of a range: the next one or, with free
spacing, the next one that is neither blank nor the number sign that opens a comment. The comment
itself is not passed over. -/
def Flags.peek (f : Flags) (cs : List Char) : Option Char :=
  if !f.spaced then cs.head?
  else
    let next := match cs.dropWhile isBlank with
      | '#' :: rest => rest.dropWhile isBlank
      | rest => rest
    next.head?.or cs.head?

/-- An item of a class, or a range between two. A hyphen before the closing bracket or before
another hyphen makes no range. -/
def readRange (f : Flags) (cs : List Char) : Option (CharSet × List Char) := do
  let (first, rest) ← readItem f cs
  match f.skip rest with
  | [] => none
  | '-' :: after =>
    if f.peek after == some ']' || f.peek after == some '-' then
      some (← itemSet? f first, '-' :: after)
    else
      let (second, rest) ← readItem f (f.skip after)
      let lo ← itemChar? f first
      let hi ← itemChar? f second
      guard (lo ≤ hi)
      some (.ofRanges [(lo, hi)], rest)
  | rest => some (← itemSet? f first, rest)

/-- The hyphens in front, each an item of its own, and the text after them. -/
def leadingHyphens (f : Flags) (fuel : Nat) (cs : List Char) : Nat × List Char :=
  match fuel, cs with
  | fuel + 1, '-' :: rest =>
    let (n, rest) := leadingHyphens f fuel (f.skip rest)
    (n + 1, rest)
  | _, _ => (0, cs)

mutual

/-- A class after its opening bracket: the set, the height of its syntax tree and the text after
it. -/
def readClass (fuel : Nat) (f : Flags) (cs : List Char) : Option (CharSet × Nat × List Char) :=
  match fuel with
  | 0 => none
  | fuel + 1 =>
    let (negated, cs) := match f.skip cs with
      | '^' :: rest => (true, f.skip rest)
      | cs => (false, cs)
    let (hyphens, cs) := leadingHyphens f cs.length cs
    let part : ClassPart := { items := List.replicate hyphens (.singleton '-', 0) }
    let (part, cs) := match cs with
      | ']' :: rest =>
        if hyphens == 0 then (part.add (.singleton ']') 0, f.skip rest) else (part, cs)
      | _ => (part, cs)
    match readParts fuel f part cs with
    | some (s, height, rest) =>
      (negatedSet f negated (f.folded s)).map fun s => (s, height + 1, rest)
    | none => none

/-- The rest of a class up to its closing bracket. -/
def readParts (fuel : Nat) (f : Flags) (part : ClassPart) (cs : List Char) :
    Option (CharSet × Nat × List Char) :=
  match fuel with
  | 0 => none
  | fuel + 1 =>
    match f.skip cs with
    | [] => none
    | ']' :: rest =>
      let (s, height) := part.total f
      some (s, height, rest)
    | '&' :: '&' :: rest => readParts fuel f (part.operate f .both) rest
    | '-' :: '-' :: rest => readParts fuel f (part.operate f .without) rest
    | '~' :: '~' :: rest => readParts fuel f (part.operate f .exactlyOne) rest
    | '[' :: rest =>
      match readBracketSet f rest with
      | some (some s, rest) => readParts fuel f (part.add s 0) rest
      | some (none, _) => none
      | none =>
        match readClass fuel f rest with
        | some (s, height, rest) => readParts fuel f (part.add s height) rest
        | none => none
    | cs =>
      match readRange f cs with
      | some (s, rest) => readParts fuel f (part.add s 0) rest
      | none => none

end

/-! ## Groups and repetitions -/

/-- What has been read of a pattern: the rest of its text, the flags in force, how many groups have
opened, and the names of groups. -/
structure Cursor where
  /-- The text still to be read. -/
  text : List Char
  /-- The flags in force. -/
  flags : Flags
  /-- Groups that have opened. -/
  groups : Nat := 0
  /-- Names of groups with their indices. -/
  names : List (String × Nat) := []

/-- A part of a pattern with the height of its syntax tree. -/
structure Piece where
  /-- The part. -/
  tree : Tree
  /-- The height of its syntax tree. -/
  height : Nat

/-- Parts one after another; a part that only sets flags is `none`. -/
def sequence (items : List (Option Piece)) : Piece :=
  let tree := Tree.sequence (items.filterMap fun item => item.map (·.tree))
  match items with
  | [] | [none] => ⟨tree, 0⟩
  | [some piece] => ⟨tree, piece.height⟩
  | items => ⟨tree, items.foldl (fun h item => max h ((item.map (·.height)).getD 0 + 1)) 0⟩

/-- One of several parts. -/
def choice (pieces : List Piece) : Piece :=
  match pieces with
  | [piece] => piece
  | pieces =>
    ⟨Tree.choice (pieces.map (·.tree)), pieces.foldl (fun h piece => max h (piece.height + 1)) 0⟩

/-- Set or clear the flag of a letter. -/
def Flags.assign (f : Flags) (letter : Char) (b : Bool) : Option Flags :=
  match letter with
  | 'i' => some { f with ignoreCase := b }
  | 'm' => some { f with lines := b }
  | 's' => some { f with dotAll := b }
  | 'U' => some { f with swapGreed := b }
  | 'u' => some { f with unicode := b }
  | 'R' => some { f with returns := b }
  | 'x' => some { f with spaced := b }
  | _ => none

/-- The flags that a list of letters asks for. A minus sign clears those after it; no letter may
stand twice, nor a second minus sign, nor a minus sign at the end. -/
def readFlags (f : Flags) (letters : List Char) : Option Flags := do
  guard (letters.eraseDups.length == letters.length && letters.getLast? != some '-')
  let on := letters.takeWhile (· != '-')
  let off := (letters.dropWhile (· != '-')).drop 1
  let f ← on.foldlM (fun f letter => f.assign letter true) f
  off.foldlM (fun f letter => f.assign letter false) f

/-- A character that may stand in the name of a group. -/
def isNameChar (first : Bool) (c : Char) : Bool :=
  if first then c == '_' || isAlphabetic c
  else c == '_' || c == '.' || c == '[' || c == ']' || isAlphanumeric c

/-- The name of a group up to the closing angle. -/
def readName (names : List (String × Nat)) (cs : List Char) : Option (String × List Char) :=
  let name := cs.takeWhile (· != '>')
  match name, cs.dropWhile (· != '>') with
  | first :: more, _ :: rest =>
    let text := String.ofList name
    if isNameChar true first && more.all (isNameChar false) && !names.any (·.1 == text) then
      some (text, rest)
    else none
  | _, _ => none

/-- How a group opens. -/
inductive Opening where
  /-- A group that is remembered. -/
  | capture
  /-- A group that is not remembered and has flags of its own. -/
  | plain (f : Flags)
  /-- No group: flags for the rest of the group around it. -/
  | flags (f : Flags)

/-- What follows an opening parenthesis up to the contents of the group. -/
def readOpening (c : Cursor) (cs : List Char) : Option (Opening × Cursor) :=
  let named (rest : List Char) : Option (Opening × Cursor) :=
    (readName c.names rest).map fun (name, rest) =>
      (.capture, { c with text := rest, names := c.names ++ [(name, c.groups + 1)] })
  match c.flags.skip cs with
  | '?' :: '=' :: _ | '?' :: '!' :: _ | '?' :: '<' :: '=' :: _ | '?' :: '<' :: '!' :: _ => none
  | '?' :: 'P' :: '<' :: rest => named rest
  | '?' :: '<' :: rest => named rest
  | '?' :: rest => do
    let isEnd (c : Char) : Bool := c == ':' || c == ')'
    let letters := rest.takeWhile (!isEnd ·)
    let f ← readFlags c.flags letters
    match rest.dropWhile (!isEnd ·) with
    | ':' :: rest => some (.plain f, { c with text := rest })
    | _ :: rest => if letters.isEmpty then none else some (.flags f, { c with text := rest })
    | [] => none
  | rest => some (.capture, { c with text := rest })

/-- The tree of an escape or a plain character. -/
def Primitive.tree? (f : Flags) : Primitive → Option Tree
  | .char c byte =>
    if f.unicode then some (Tree.ofSet (f.folded (.singleton c)))
    else if byte && 0x80 ≤ c.toNat then none
    else if c.toNat < 0x80 then some (Tree.ofSet (f.folded (.singleton c)))
    else some (.text [c])
  | .set s => some (Tree.ofSet s)
  | .anchor a => some (.anchor a)

/-- Any character, as the flags mean it. -/
def dotTree? (f : Flags) : Option Tree :=
  if !f.unicode then none
  else if f.dotAll then some (Tree.ofSet everything)
  else if f.returns then some (Tree.ofSet (CharSet.ofRanges [(10, 10), (13, 13)]).compl)
  else some (Tree.ofSet (CharSet.singleton '\n').compl)

/-- One character, escape, dot or anchor. -/
def readPrimitive (f : Flags) (cs : List Char) : Option (Tree × List Char) :=
  match cs with
  | [] => none
  | '\\' :: rest => do
    let (p, rest) ← readEscape f rest
    some (← p.tree? f, rest)
  | '.' :: rest => (dotTree? f).map fun t => (t, rest)
  | '^' :: rest => some (.anchor (if f.lines then .lineStart f.returns else .textStart), rest)
  | '$' :: rest => some (.anchor (if f.lines then .lineEnd f.returns else .textEnd), rest)
  | c :: rest => ((Primitive.char c false).tree? f).map fun t => (t, rest)

/-- Apply a repetition to the last part, if that is one that can be repeated. -/
def repeatLast (least : Nat) (most : Option Nat) (greedy : Bool) :
    List (Option Piece) → Option (List (Option Piece))
  | some piece :: earlier =>
    some (some ⟨piece.tree.repeated least most greedy, piece.height + 1⟩ :: earlier)
  | _ => none

/-- A decimal number of 32 bits with blanks around it; none inside if there are no digits. -/
def readCount (f : Flags) (cs : List Char) : Option (Option Nat × List Char) :=
  let cs := cs.dropWhile isBlank
  let (digits, rest) := f.gather (fun c => '0' ≤ c && c ≤ '9') cs.length cs
  let rest := f.skip (rest.dropWhile isBlank)
  let n := digits.foldl (fun n c => 10 * n + (c.toNat - 48)) 0
  if digits.isEmpty then some (none, rest)
  else if n < Nat.pow 2 32 then some (some n, rest)
  else none

/-- The bounds of a counted repetition after the opening brace. -/
def readBounds (f : Flags) (cs : List Char) : Option (Nat × Option Nat × List Char) := do
  let (least, rest) ← readCount f (f.skip cs)
  match rest with
  | ',' :: rest =>
    match f.skip rest with
    | '\x7d' :: rest => some (← least, none, f.skip rest)
    | rest =>
      let (most, rest) ← readCount f rest
      let least ← least
      let most ← most
      guard (least ≤ most)
      match rest with
      | '\x7d' :: rest => some (least, some most, f.skip rest)
      | _ => none
  | '\x7d' :: rest => do
    let n ← least
    some (n, some n, f.skip rest)
  | _ => none

/-- A repetition is greedy unless a question mark follows, or the other way round if greed is
swapped. -/
def readGreed (f : Flags) : List Char → Bool × List Char
  | '?' :: rest => (f.swapGreed, rest)
  | rest => (!f.swapGreed, rest)

/-- The alternatives of a group. `done` holds those before the last, `items` the parts of the last
one, both in reverse order. -/
def gathered (done : List Piece) (items : List (Option Piece)) : Piece :=
  choice (sequence items.reverse :: done).reverse

/-- Read alternatives up to a closing parenthesis or the end. `done` holds the alternatives read,
`items` the parts of the current one, both in reverse order. `fuel` bounds the number of parts and
of steps on each. -/
def readChoice (fuel : Nat) (done : List Piece) (items : List (Option Piece)) (c : Cursor) :
    Option (Piece × Cursor) :=
  match fuel with
  | 0 => none
  | fuel + 1 =>
    let f := c.flags
    let counted (least : Nat) (most : Option Nat) (rest : List Char) : Option (Piece × Cursor) :=
      let (greedy, rest) := readGreed f rest
      match repeatLast least most greedy items with
      | some items => readChoice fuel done items { c with text := rest }
      | none => none
    match f.skip c.text with
    | [] => some (gathered done items, { c with text := [] })
    | ')' :: rest => some (gathered done items, { c with text := ')' :: rest })
    | '|' :: rest =>
      readChoice fuel (sequence items.reverse :: done) [] { c with text := rest }
    | '*' :: rest => counted 0 none rest
    | '+' :: rest => counted 1 none rest
    | '?' :: rest => counted 0 (some 1) rest
    | '\x7b' :: rest =>
      match readBounds f rest with
      | some (least, most, rest) => counted least most rest
      | none => none
    | '[' :: rest =>
      match readClass fuel f rest with
      | some (s, height, rest) =>
        readChoice fuel done (some ⟨Tree.ofSet s, height⟩ :: items) { c with text := rest }
      | none => none
    | '(' :: rest =>
      match readOpening c rest with
      | none => none
      | some (.flags f, c) => readChoice fuel done (none :: items) { c with flags := f }
      | some (.capture, c) =>
        match readChoice fuel [] [] { c with groups := c.groups + 1 } with
        | some (inner, after) =>
          match after.text with
          | ')' :: rest =>
            readChoice fuel done
              (some ⟨.group (c.groups + 1) inner.tree, inner.height + 1⟩ :: items)
              { after with text := rest, flags := c.flags }
          | _ => none
        | none => none
      | some (.plain g, c) =>
        match readChoice fuel [] [] { c with flags := g } with
        | some (inner, after) =>
          match after.text with
          | ')' :: rest =>
            readChoice fuel done (some ⟨inner.tree, inner.height + 1⟩ :: items)
              { after with text := rest, flags := c.flags }
          | _ => none
        | none => none
    | cs =>
      match readPrimitive f cs with
      | some (t, rest) => readChoice fuel done (some ⟨t, 0⟩ :: items) { c with text := rest }
      | none => none

/-- The greatest height of a syntax tree. -/
def heightLimit : Nat := 250

/-- The tree of a pattern, with the names of its groups; `none` if the text is no pattern. -/
def read? (ignoreCase : Bool) (text : String) : Option (Tree × List (String × Nat)) :=
  let cs := text.toList
  match readChoice (3 * cs.length + 3) [] [] { text := cs, flags := { ignoreCase := ignoreCase } } with
  | some (piece, c) =>
    if c.text.isEmpty && piece.height ≤ heightLimit then some (piece.tree, c.names) else none
  | none => none

end Pipework.Pattern
