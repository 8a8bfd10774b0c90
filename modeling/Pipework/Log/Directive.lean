import Pipework.Log.Filter
import Pipework.Number.Layout
import Pipework.Pattern.Reader
import Pipework.Text.Alphanumeric

/-!
# Directives of the process filter

A directive is `target[span]=level` in full, where in place of a name, or after it, the brackets may
ask for a field in braces, with a value after an equals sign; there may be several brackets, and
every part may be missing.

* `Directive.read?` reads one. It finds the places of its parts in the text without the blanks
  around it, but takes the parts from the text with them. So blanks in front move every part to the
  left; a part that then begins or ends inside a character is a fault.
* `Directive.order` compares two by specificity, and two that are equally specific by what they ask
  for; only the levels do not count.
-/

namespace Pipework

/-! ## Fields -/

/-- The value that a field is asked for. -/
inductive FieldValue where
  /-- A truth value. -/
  | truth (b : Bool)
  /-- A number with fraction or exponent, or one that fits no integer of 64 bits. -/
  | float (x : Float)
  /-- No number. -/
  | nan
  /-- A natural of 64 bits. -/
  | natural (n : Nat)
  /-- A negative integer of 64 bits. -/
  | integer (n : Int)
  /-- A pattern for the text of the value. -/
  | pattern (text : String)
  deriving Repr, Inhabited

namespace FieldValue

/-- The value as it is shown. -/
def text : FieldValue → String
  | truth b => if b then "true" else "false"
  | float x => Number.plain x
  | nan => "NaN"
  | natural n => toString n
  | integer n => toString n
  | pattern text => text

/-- The place of a kind of value in the order. -/
def rank : FieldValue → Nat
  | truth _ => 0
  | float _ => 1
  | nan => 2
  | natural _ => 3
  | integer _ => 4
  | pattern _ => 5

/-- Compare two values: kinds by rank, values of one kind by size or text. -/
def order : FieldValue → FieldValue → Ordering
  | truth a, truth b => compare a.toNat b.toNat
  | float x, float y => if x < y then .lt else if y < x then .gt else .eq
  | natural m, natural n => compare m n
  | integer m, integer n => compare m n
  | pattern s, pattern t => compare s t
  | v, w => compare v.rank w.rank

/-- The text is a pattern that needs no more than bytes to be searched with: it does not ask for the
edges of words in the sense of Unicode. -/
def isPlainPattern (text : String) : Bool :=
  match Pattern.read? false text with
  | some (tree, _) => tree.anchors.all fun a => match a with
    | .word _ unicode => !unicode
    | _ => true
  | none => false

/-- The value that a text asks for. -/
def read? (cs : List Char) : Option FieldValue :=
  if cs == "true".toList then some (truth true)
  else if cs == "false".toList then some (truth false)
  else
    match Number.natural? Number.maxWord cs, Number.integer64? cs, Number.float? cs with
    | some n, _, _ => some (natural n)
    | none, some n, _ => some (integer n)
    | none, none, some x => some (if x != x then nan else float x)
    | none, none, none =>
      let text := String.ofList cs
      if isPlainPattern text then some (pattern text) else none

end FieldValue

/-- A field that a directive asks for. -/
structure FieldMatch where
  /-- Its name. -/
  name : String
  /-- The value it must have, if any. -/
  value : Option FieldValue
  deriving Repr, Inhabited

namespace FieldMatch

/-- The field as it is shown. -/
def text (f : FieldMatch) : String :=
  match f.value with
  | some value => f.name ++ "=" ++ value.text
  | none => f.name

/-- Compare two fields: one without a value comes first, then names and values count. -/
def order (f g : FieldMatch) : Ordering :=
  match f.value, g.value with
  | none, some _ => .lt
  | some _, none => .gt
  | none, none => compare f.name g.name
  | some v, some w => (compare f.name g.name).then (v.order w)

/-- Compare two lists of fields one by one; a shorter list comes first. -/
def orderAll : List FieldMatch → List FieldMatch → Ordering
  | [], [] => .eq
  | [], _ => .lt
  | _, [] => .gt
  | f :: fs, g :: gs => (f.order g).then (orderAll fs gs)

/-- Read a field, with a value between the first equals sign and the second. -/
def read? (cs : List Char) : Option FieldMatch :=
  match Text.pieces (· == '=') cs with
  | [] | [[]] => none
  | [name] => some ⟨.ofList name, none⟩
  | name :: value :: _ => (FieldValue.read? value).map fun v => ⟨.ofList name, some v⟩

end FieldMatch

/-! ## Directives -/

/-- A directive of the process filter. -/
structure Directive where
  /-- Beginning of the target. -/
  target : Option String := none
  /-- Name of a span. -/
  span : Option String := none
  /-- The fields it asks for. -/
  fields : List FieldMatch := []
  /-- The verbosity it grants. -/
  level : Verbosity := .trace
  deriving Repr, Inhabited

/-- Why a directive cannot be read. -/
inductive DirectiveError where
  /-- It does not have the form of a directive. -/
  | malformed
  /-- A part of it would begin or end inside a character. -/
  | insideChar
  deriving Repr, DecidableEq

namespace Directive

/-- Which part of a directive a place belongs to, and at which byte the part began. -/
inductive Stage where
  /-- Before the directive. -/
  | start
  /-- In a target, or a level that stands alone. -/
  | name (start : Nat)
  /-- In brackets. -/
  | span (start : Nat)
  /-- In braces. -/
  | field (start : Nat)
  /-- After braces. -/
  | afterField
  /-- After brackets. -/
  | afterSpan
  /-- In the level. -/
  | level (start : Nat)
  deriving Repr, DecidableEq

/-- The text without its first `n` bytes; none if that would cut a character. -/
def dropBytes? : Nat → List Char → Option (List Char)
  | 0, cs => some cs
  | _ + 1, [] => none
  | n + 1, c :: cs => if c.utf8Size ≤ n + 1 then dropBytes? (n + 1 - c.utf8Size) cs else none

/-- The first `n` bytes of the text; none if that would cut a character. -/
def takeBytes? : Nat → List Char → Option (List Char)
  | 0, _ => some []
  | _ + 1, [] => none
  | n + 1, c :: cs =>
    if c.utf8Size ≤ n + 1 then (takeBytes? (n + 1 - c.utf8Size) cs).map (c :: ·) else none

/-- The part of a text between two bytes. -/
def part (text : List Char) (start stop : Nat) : Except DirectiveError (List Char) :=
  match (dropBytes? start text).bind (takeBytes? (stop - start)) with
  | some cs => .ok cs
  | none => .error .insideChar

/-- The end of a text from a byte on. -/
def partFrom (text : List Char) (start : Nat) : Except DirectiveError (List Char) :=
  match dropBytes? start text with
  | some cs => .ok cs
  | none => .error .insideChar

/-- A directive may begin with the character: a letter or number of any script, or one of `-`, `:`
and `_`. -/
def isOpening (c : Char) : Bool := c == '-' || c == ':' || c == '_' || Text.isAlphanumeric c

/-- Read the level after the equals sign; an empty one means everything. -/
def readLevel (cs : List Char) : Except DirectiveError Verbosity :=
  if cs.isEmpty then .ok .trace
  else match Verbosity.ofText? (.ofList cs) with
    | some level => .ok level
    | none => .error .malformed

/-- Pass the character at a byte of the trimmed text. -/
def step (text : List Char) (stage : Stage) (d : Directive) (i : Nat) (c : Char) :
    Except DirectiveError (Stage × Directive) :=
  match stage with
  | .start =>
    if c == '[' then .ok (.span (i + 1), d)
    else if isOpening c then .ok (.name i, d)
    else .error .malformed
  | .name start =>
    if c == '=' then do
      .ok (.level (i + 1), { d with target := some (.ofList (← part text start i)) })
    else if c == '[' then do
      .ok (.span (i + 1), { d with target := some (.ofList (← part text start i)) })
    else .ok (stage, d)
  | .span start =>
    if c == ']' then do
      .ok (.afterSpan, { d with span := some (.ofList (← part text start i)) })
    else if c == '\x7b' then do
      let name ← part text start i
      let span := if name.isEmpty then none else some (String.ofList name)
      .ok (.field (i + 1), { d with span := span })
    else .ok (stage, d)
  | .field start =>
    if c == '\x7d' then do
      match FieldMatch.read? (← part text start i) with
      | some field => .ok (.afterField, { d with fields := d.fields ++ [field] })
      | none => .error .malformed
    else .ok (stage, d)
  | .afterField => if c == ']' then .ok (.afterSpan, d) else .error .malformed
  | .afterSpan =>
    if c == '[' then .ok (.span (i + 1), d)
    else if c == '=' then .ok (.level (i + 1), d)
    else .error .malformed
  | .level _ => .ok (stage, d)

/-- Pass the characters of the trimmed text from a byte on. -/
def walk (text : List Char) (stage : Stage) (d : Directive) (i : Nat) :
    List Char → Except DirectiveError (Stage × Directive)
  | [] => .ok (stage, d)
  | c :: cs => do
    let (stage, d) ← step text stage d i c
    walk text stage d (i + c.utf8Size) cs

/-- Read a directive. One that is only a name is a level if it spells one. -/
def read? (text : List Char) : Except DirectiveError Directive := do
  let (stage, d) ← walk text .start {} 0 (Text.trim text)
  match stage with
  | .name start =>
    let name := String.ofList (← partFrom text start)
    match Verbosity.ofText? name with
    | some level => .ok { d with level := level }
    | none => .ok { d with target := some name }
  | .level start => do .ok { d with level := ← readLevel (← partFrom text start) }
  | .afterSpan => .ok d
  | _ => .error .malformed

/-- The directive asks for a span or a field. -/
def isDynamic (d : Directive) : Bool := d.span.isSome || !d.fields.isEmpty

/-- The directive can be decided for a record alone. -/
def isStatic (d : Directive) : Bool := d.span.isNone && d.fields.all (·.value.isNone)

/-- The directive as a rule for records. -/
def toRule (d : Directive) : Rule :=
  { target := d.target, fields := d.fields.map (·.name), level := d.level }

/-- `.lt` if the first directive is tried before the second. -/
def order (a b : Directive) : Ordering :=
  let size (d : Directive) : Nat := d.toRule.targetSize
  let named (d : Directive) : Nat := d.span.isSome.toNat
  ((compare (size b) (size a)).then (compare (named b) (named a))).then
    ((compare b.fields.length a.fields.length).then
      ((Rule.compareTargets b.target a.target).then
        ((Rule.compareTargets b.span a.span).then (FieldMatch.orderAll b.fields a.fields))))

/-- Put a directive in its place; an equal one is replaced. -/
def insertIn (d : Directive) : List Directive → List Directive
  | [] => [d]
  | other :: rest =>
    match d.order other with
    | .lt => d :: other :: rest
    | .eq => d :: rest
    | .gt => other :: insertIn d rest

/-- The text of a directive from its parts. -/
def textOf (target span : Option String) (fields : List String) (level : Verbosity) : String :=
  let place :=
    if span.isSome || !fields.isEmpty then
      "[" ++ span.getD "" ++
        (if fields.isEmpty then "" else "\x7b" ++ joined "," fields ++ "\x7d") ++ "]"
    else ""
  if target.isNone && place.isEmpty then level.name
  else target.getD "" ++ place ++ "=" ++ level.name

/-- The text of a directive. -/
def text (d : Directive) : String := textOf d.target d.span (d.fields.map (·.text)) d.level

end Directive

end Pipework
