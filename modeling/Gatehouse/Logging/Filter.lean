import Gatehouse.Logging.Event
import Gatehouse.Number.Notation
import Gatehouse.Text.Blank
import Gatehouse.Text.Letter

/-!
# Log filters

A filter is a list of directives with commas between them. A directive gives a level, or
none at all, to the events of targets that begin with a text, or to what happens inside the
spans of a name or with certain fields: `target[span{field=value}]=level`, of which every
part may be missing (`Directive.read`).

Of the directives that concern an event the most specific one decides
(`LogFilter.decisive?`): the one with the longest target, then the one with the most fields,
then the one that stands last. Inside a span that a directive is about, the level of that
directive is enough for any event (`LogFilter.scopeLevel`).
-/

namespace Gatehouse

/-! ## Levels -/

/-- The most that is let through: no event at all, or all down to a level. -/
abbrev LevelLimit := Option LogLevel

namespace LevelLimit

/-- Whether an event of a level is let through. -/
def admits (limit : LevelLimit) (level : LogLevel) : Bool :=
  match limit with
  | none => false
  | some l => level.verbosity ≤ l.verbosity

/-- How much is let through. -/
def verbosity : LevelLimit → Nat
  | none => 0
  | some l => l.verbosity

/-- The names of limits, in the order of their numbers. -/
def names : List (String × LevelLimit) :=
  [("off", none), ("error", some .error), ("warn", some .warn), ("info", some .info),
    ("debug", some .debug), ("trace", some .trace)]

/-- The number of a text of digits, which may have a plus in front. -/
def number? (text : List Char) : Option Nat :=
  let digits := match text with
    | '+' :: digits => digits
    | digits => digits
  if digits.isEmpty || !digits.all Char.isDigit then none
  else some (Notation.ofDigits digits)

/-- The limit of a name in any case or of a number. An empty text is the limit for errors. -/
def ofText? (text : List Char) : Option LevelLimit :=
  match number? text with
  | some n => names[n]?.map Prod.snd
  | none =>
    if text.isEmpty then some (some .error)
    else (names.find? fun l => l.1.toList == text.map Char.toLower).map Prod.snd

end LevelLimit

/-! ## Directives -/

/-- A text that is no filter. -/
inductive FilterError
  | directive
  | level
deriving Repr, DecidableEq

/-- The text of the error. -/
def FilterError.message : FilterError → String
  | .directive => "invalid filter directive"
  | .level => "error parsing level filter: expected one of \"off\", \"error\", \"warn\", " ++
      "\"info\", \"debug\", \"trace\", or a number 0-5"

/-- A field that a span has to have, and the value that is asked of it. -/
structure FieldFilter where
  name : String
  value : Option (List Char)
deriving Repr, DecidableEq

/-- The field and the value of a text, divided at the first `=` and ended by the second. -/
def FieldFilter.ofText (text : List Char) : FieldFilter :=
  let rest := text.dropWhile (· != '=')
  { name := String.ofList (text.takeWhile (· != '='))
    value := if rest.isEmpty then none else some ((rest.drop 1).takeWhile (· != '=')) }

/-- A directive of a filter. -/
structure Directive where
  limit : LevelLimit := some .trace
  target : Option String := none
  span : Option String := none
  fields : List FieldFilter := []
deriving Repr, DecidableEq

namespace Directive

/-- The part of a directive that is being read, with the place where it begins. -/
inductive Part
  | start
  | word (start : Nat)
  | span (start : Nat)
  | field (start : Nat)
  | fieldsEnd
  | spanEnd
  | level (start : Nat)
deriving Repr, DecidableEq

/-- The characters of a text from one place up to another. -/
def slice (text : List Char) (start stop : Nat) : List Char :=
  (text.take stop).drop start

/-- A text, unless it is empty. -/
def nonEmpty? (text : List Char) : Option String :=
  if text.isEmpty then none else some (String.ofList text)

/-- Whether a directive may begin with a character, besides a bracket. -/
def isStart (c : Char) : Bool :=
  c == '-' || c == ':' || c == '_' || Text.isAlphanumeric c

/-- The directive with one more field. -/
def addField (d : Directive) (text : List Char) : Except FilterError Directive :=
  if text.isEmpty then .error .directive
  else .ok { d with fields := d.fields ++ [FieldFilter.ofText text] }

/-- A character at a place: what is being read behind it, and the directive so far. -/
def step (text : List Char) (place : Nat) (c : Char) (part : Part) (d : Directive) :
    Except FilterError (Part × Directive) :=
  match part with
  | .start =>
    if c = '[' then .ok (.span (place + 1), d)
    else if isStart c then .ok (.word place, d)
    else .error .directive
  | .word start =>
    let target := some (String.ofList (slice text start place))
    if c = '=' then .ok (.level (place + 1), { d with target })
    else if c = '[' then .ok (.span (place + 1), { d with target })
    else .ok (part, d)
  | .span start =>
    if c = ']' then .ok (.spanEnd, { d with span := some (String.ofList (slice text start place)) })
    else if c = '\x7b' then
      .ok (.field (place + 1), { d with span := nonEmpty? (slice text start place) })
    else .ok (part, d)
  | .field start =>
    if c = '\x7d' then (d.addField (slice text start place)).map fun d => (.fieldsEnd, d)
    else .ok (part, d)
  | .fieldsEnd => if c = ']' then .ok (.spanEnd, d) else .error .directive
  | .spanEnd => if c = '=' then .ok (.level (place + 1), d) else .error .directive
  | .level _ => .ok (part, d)

/-- The part and the directive behind characters from a place on. -/
def scan (text : List Char) : Nat → List Char → Part → Directive →
    Except FilterError (Part × Directive)
  | _, [], part, d => .ok (part, d)
  | place, c :: rest, part, d =>
    match step text place c part d with
    | .error e => .error e
    | .ok (part, d) => scan text (place + 1) rest part d

/-- The directive that ends in a part. A word alone is a level, or else a target for which
everything is let through; so is a target with an empty level. -/
def finish (text : List Char) (d : Directive) : Part → Except FilterError Directive
  | .word start =>
    let word := text.drop start
    match LevelLimit.ofText? word with
    | some limit => .ok { d with limit, target := none }
    | none => .ok { d with limit := some .trace, target := some (String.ofList word) }
  | .level start =>
    match text.drop start with
    | [] => .ok { d with limit := some .trace }
    | word =>
      match LevelLimit.ofText? word with
      | some limit => .ok { d with limit }
      | none => .error .level
  | .spanEnd => .ok d
  | .start | .span _ | .field _ | .fieldsEnd => .error .directive

/-- The directive of a text. White space around it is not looked at, but places are counted
in the text with it. -/
def read (text : List Char) : Except FilterError Directive :=
  match scan text 0 (Text.Blank.trim text) .start {} with
  | .error e => .error e
  | .ok (part, d) => finish text d part

end Directive

/-! ## Spans -/

/-- A stretch of work that events happen in. Its fields are whole numbers. -/
structure LogSpan where
  level : LogLevel
  target : String
  name : String
  fields : List (String × Int) := []
deriving Repr, DecidableEq

namespace LevelLimit

/-- The number of a text of digits with a sign. -/
def integer? (text : List Char) : Option Int :=
  match text with
  | '-' :: digits => if digits.head? = some '+' then none else (number? digits).map fun n => -n
  | text => (number? text).map fun n => n

end LevelLimit

/-- Whether a value is the one that is asked for. -/
def FieldFilter.accepts (f : FieldFilter) (value : Int) : Bool :=
  match f.value with
  | none => true
  | some text => LevelLimit.integer? text == some value

namespace Directive

/-- Whether a target begins with the directive's. -/
def coversTarget (d : Directive) (target : String) : Bool :=
  match d.target with
  | none => true
  | some t => t.toList.isPrefixOf target.toList

/-- Whether the directive is about spans. -/
def isDynamic (d : Directive) : Bool :=
  d.span.isSome || !d.fields.isEmpty

/-- Whether the directive holds everywhere: it names no span and asks for no value. -/
def isStatic (d : Directive) : Bool :=
  d.span.isNone && d.fields.all fun f => f.value.isNone

/-- Whether the directive is about a span. -/
def concerns (d : Directive) (s : LogSpan) : Bool :=
  d.coversTarget s.target && d.span.all (· == s.name) &&
    d.fields.all fun f => s.fields.any fun v => v.1 == f.name

/-- Whether the values of a span are those that are asked for. -/
def accepts (d : Directive) (s : LogSpan) : Bool :=
  d.fields.all fun f => match s.fields.find? fun v => v.1 == f.name with
    | some v => f.accepts v.2
    | none => false

/-- How specific the directive is: by the bytes of its target, then by its fields. -/
def precision (d : Directive) : Nat × Nat :=
  (match d.target with
    | none => 0
    | some t => t.utf8ByteSize + 1, d.fields.length)

/-- Whether the directive goes before another that concerns the same, which stands in front
of it. -/
def outranks (d e : Directive) : Bool :=
  let (a, b) := d.precision
  let (a', b') := e.precision
  a' < a || (a == a' && (b' < b ||
    (b == b' && !decide (d.fields.map FieldFilter.name < e.fields.map FieldFilter.name))))

end Directive

/-! ## Filters -/

/-- What is let through. -/
abbrev LogFilter := List Directive

namespace LogFilter

/-- The texts between commas. -/
def pieces (text : List Char) : List (List Char) :=
  text.foldr (fun c done => match c, done with
    | ',', done => [] :: done
    | c, [] => [[c]]
    | c, piece :: done => (c :: piece) :: done) [[]]

/-- The filter of a text. Empty pieces are passed over. -/
def ofText (text : String) : Except FilterError LogFilter :=
  ((pieces text.toList).filter fun p => !p.isEmpty).mapM Directive.read

/-- The most specific of directives that all concern the same. -/
def decisive? (directives : List Directive) : Option Directive :=
  directives.foldl (fun best d => match best with
    | none => some d
    | some e => if d.outranks e then some d else some e) none

/-- The limit that directives set. -/
def limit (directives : List Directive) : LevelLimit :=
  (decisive? directives).bind Directive.limit

/-- Whether an event is let through wherever it happens. -/
def admitsAnywhere (f : LogFilter) (e : LogEvent) : Bool :=
  LevelLimit.admits (limit (f.filter fun d => d.isStatic && d.coversTarget e.target &&
    d.fields.all fun x => e.fieldNames.contains x.name)) e.level

/-- Whether a span is followed. One that a directive is about always is. -/
def follows (f : LogFilter) (s : LogSpan) : Bool :=
  f.any (fun d => d.isDynamic && d.concerns s) ||
    LevelLimit.admits (limit (f.filter fun d => d.isStatic && d.coversTarget s.target)) s.level

/-- What is let through inside a span because of it. -/
def scopeLevel (f : LogFilter) (s : LogSpan) : LevelLimit :=
  (f.filter fun d => d.isDynamic && d.concerns s && d.accepts s).foldl
    (fun best d => if best.verbosity < d.limit.verbosity then d.limit else best) none

/-- Whether an event inside spans is let through. -/
def admits (f : LogFilter) (spans : List LogSpan) (e : LogEvent) : Bool :=
  spans.any (fun s => LevelLimit.admits (f.scopeLevel s) e.level) || f.admitsAnywhere e

end LogFilter

end Gatehouse
