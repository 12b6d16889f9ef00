import RegionSync.Log
import RegionSync.Text.Affix
import RegionSync.Text.Alphanumeric
import RegionSync.Text.Blank
import RegionSync.Text.Pattern

set_option autoImplicit false

/-! # Which log lines are shown

The variable `RUST_LOG` holds directives between commas. A directive sets the level up to which
lines are shown: `level`, `target=level`, `target` or `target[{name}]=level`, where a target is
the beginning of the name of a source and a name is that of a value in the line. Of the
directives that concern a line the most specific one counts: the one with the longest target,
then the one with the most names. A line that none concerns is not shown. A directive can also
ask for a surrounding span or for what a value is; such a directive concerns no line, since no
line stands in a span. A text with a directive that cannot be read is not used at all, and the
level then depends on the `--verbose` option.
-/

namespace RegionSync.Cli

/-- The least important level that is shown, if any line is. -/
abbrev Threshold := Option LogLevel

/-- Whether lines of a level are shown. -/
def Threshold.admits (threshold : Threshold) (level : LogLevel) : Bool :=
  match threshold with
  | some least => level.rank ≤ least.rank
  | none => false

/-! ## Choosing a directive -/

/-- A directive about log lines. -/
structure Directive where
  /-- What the name of the source must begin with. -/
  target : Option String := none
  /-- The names that the line must have. -/
  names : List String := []
  threshold : Threshold
deriving DecidableEq

namespace Directive

/-- Whether the directive is about a line. -/
def concerns (directive : Directive) (line : LogLine) : Bool :=
  (match directive.target with
    | some target => Text.startsWith target.toList line.source.label.toList
    | none => true) &&
    directive.names.all line.names.contains

/-- The weight of the target: its length, and nothing if there is none. -/
def weight (directive : Directive) : Nat :=
  match directive.target with
  | some target => target.utf8ByteSize + 1
  | none => 0

/-- Whether a directive gives way to another. Directives of the same weight with as many names are
ordered by their texts, so that only two with equal targets and names give way in neither way. -/
def yields (directive other : Directive) : Bool :=
  if directive.weight ≠ other.weight then directive.weight < other.weight
  else if directive.names.length ≠ other.names.length then
    directive.names.length < other.names.length
  else if directive.target ≠ other.target then directive.target.getD "" < other.target.getD ""
  else directive.names.lex other.names fun a b => decide (a < b)

/-- The directive that counts of one found so far and a later one. -/
def choose (found : Option Directive) (later : Directive) : Option Directive :=
  match found with
  | some directive => some (if later.yields directive then directive else later)
  | none => some later

end Directive

/-- Directives, in the order in which they are given. -/
structure LogFilter where
  directives : List Directive

/-- Whether a line is shown. -/
def LogFilter.shows (filter : LogFilter) (line : LogLine) : Bool :=
  match (filter.directives.filter (·.concerns line)).foldl Directive.choose none with
  | some directive => directive.threshold.admits line.level
  | none => false

/-! ## Reading a directive -/

/-- The threshold that a text names, by a word or by a number from nought to five. -/
def threshold? (text : List Char) : Option Threshold :=
  let names : List (String × Threshold) :=
    [("off", none), ("error", some .error), ("warn", some .warn), ("info", some .info),
      ("debug", some .debug), ("trace", some .trace)]
  let digits := match text with
    | '+' :: digits => digits
    | digits => digits
  if !digits.isEmpty && digits.all Char.isDigit then
    (names.map (·.2))[digits.foldl (fun n c => 10 * n + (c.toNat - '0'.toNat)) 0]?
  else names.lookup (String.ofList (Text.foldCase text))

/-- Whether a text is a number: a sign, digits that may have a point among them, and an exponent, or
a word for a number that is not finite. -/
def isNumber (text : List Char) : Bool :=
  let unsigned (text : List Char) : List Char := match text with
    | '+' :: text => text
    | '-' :: text => text
    | text => text
  let text := unsigned text
  let whole := text.takeWhile Char.isDigit
  let (fraction, rest) := match text.drop whole.length with
    | '.' :: rest => (rest.takeWhile Char.isDigit, rest.dropWhile Char.isDigit)
    | rest => ([], rest)
  let scaled := match rest with
    | [] => true
    | mark :: exponent =>
      mark.toLower == 'e' && !(unsigned exponent).isEmpty && (unsigned exponent).all Char.isDigit
  ["inf", "infinity", "nan"].contains (String.ofList (Text.foldCase text)) ||
    scaled && !(whole ++ fraction).isEmpty

/-- What a directive asks of a value. -/
structure ValueTest where
  name : String
  /-- Whether it asks what the value is. -/
  compares : Bool
deriving DecidableEq

/-- Reads what a directive asks of a value: its name, or its name and a number or a pattern. -/
def ValueTest.read (text : List Char) : Option ValueTest :=
  let name := text.takeWhile (· != '=')
  let value := ((text.dropWhile (· != '=')).drop 1).takeWhile (· != '=')
  if text.isEmpty || !(isNumber value || Text.isPattern value) then none
  else some ⟨String.ofList name, name.length < text.length⟩

/-- Where the reading of a directive stands. A number is the position at which a part begins. -/
inductive DirectivePlace where
  | start
  /-- Inside a level or a target. -/
  | word (first : Nat)
  /-- Inside the brackets, before a brace. -/
  | span (first : Nat)
  /-- Inside the braces. -/
  | value (first : Nat)
  /-- After the braces. -/
  | values
  /-- After the brackets. -/
  | closed
  | level (first : Nat)
deriving DecidableEq

/-- A directive that is being read. -/
structure DirectiveReading where
  place : DirectivePlace := .start
  target : Option String := none
  /-- Whether a span is asked for. -/
  inSpan : Bool := false
  tests : List ValueTest := []

namespace DirectiveReading

/-- The part of a text from a position up to another. -/
def slice (text : List Char) (first last : Nat) : List Char := (text.drop first).take (last - first)

/-- Whether a directive can begin with a character. -/
def isOpening (c : Char) : Bool := c == '-' || c == ':' || c == '_' || Text.isAlphanumeric c

/-- Takes the character `c` at a position of `text`. -/
def step (text : List Char) (reading : DirectiveReading) (position : Nat) (c : Char) :
    Option DirectiveReading :=
  match reading.place with
  | .start =>
    if c = '[' then some { reading with place := .span (position + 1) }
    else if isOpening c then some { reading with place := .word position }
    else none
  | .word first =>
    let target := some (String.ofList (slice text first position))
    if c = '=' then some { reading with place := .level (position + 1), target := target }
    else if c = '[' then some { reading with place := .span (position + 1), target := target }
    else some reading
  | .span first =>
    if c = ']' then some { reading with place := .closed, inSpan := true }
    else if c = '{' then
      some { reading with place := .value (position + 1), inSpan := first < position }
    else some reading
  | .value first =>
    if c = '}' then
      (ValueTest.read (slice text first position)).map fun test =>
        { reading with place := .values, tests := reading.tests ++ [test] }
    else some reading
  | .values => if c = ']' then some { reading with place := .closed } else none
  | .closed => if c = '=' then some { reading with place := .level (position + 1) } else none
  | .level _ => some reading

/-- Takes characters, the first of them at a position of `text`. -/
def run (text : List Char) : Nat → List Char → DirectiveReading → Option DirectiveReading
  | _, [], reading => some reading
  | position, c :: rest, reading =>
    match reading.step text position c with
    | some after => run text (position + 1) rest after
    | none => none

/-- The directive that was read, for a threshold. One that asks for a span or compares a value is
about no line. -/
def directive (reading : DirectiveReading) (threshold : Threshold) : List Directive :=
  if reading.inSpan || reading.tests.any (·.compares) then []
  else [⟨reading.target, reading.tests.map (·.name), threshold⟩]

/-- Ends the reading at the end of `text`. Without a level every line is shown. -/
def finish (text : List Char) (reading : DirectiveReading) : Option (List Directive) :=
  match reading.place with
  | .word first =>
    let word := text.drop first
    match threshold? word with
    | some threshold => some (reading.directive threshold)
    | none =>
      some ({ reading with target := some (String.ofList word) }.directive (some .trace))
  | .level first =>
    let word := text.drop first
    if word.isEmpty then some (reading.directive (some .trace))
    else (threshold? word).map reading.directive
  | .closed => some (reading.directive (some .trace))
  | _ => none

end DirectiveReading

/-- Reads a directive. Blanks around it are passed over, but positions are counted from behind the
leading ones while the parts are cut out of the whole text. -/
def readDirective (text : List Char) : Option (List Directive) :=
  (DirectiveReading.run text 0 (Text.trim text) {}).bind (DirectiveReading.finish text)

/-! ## Reading the variable -/

/-- The directives of `directive.reverse ++ text`, where `directive` is the one being read, its
newest character first. Empty ones are left out. -/
def directivesFrom : List Char → List Char → List (List Char)
  | directive, [] => if directive.isEmpty then [] else [directive.reverse]
  | directive, c :: text =>
    if c = ',' then
      if directive.isEmpty then directivesFrom [] text
      else directive.reverse :: directivesFrom [] text
    else directivesFrom (c :: directive) text

/-- The variable with the directives. -/
def logVariable : String := "RUST_LOG"

/-- The filter that a text describes, if all its directives can be read. -/
def LogFilter.read (text : String) : Option LogFilter :=
  ((directivesFrom [] text.toList).mapM readDirective).map fun read => ⟨read.flatten⟩

/-- The filter of a call of the program, given the text of the variable and the `--verbose`
option. -/
def LogFilter.ofCall (text : Option String) (verbose : Bool) : LogFilter :=
  (text.bind LogFilter.read).getD
    ⟨[{ threshold := some (if verbose then .debug else .info) }]⟩

end RegionSync.Cli
