import RegionSync.Text.Alphanumeric
import RegionSync.Text.Blank

set_option autoImplicit false

/-! # Patterns for texts

A pattern is made of parts: characters, escapes such as `\n`, sets of characters between brackets,
and groups between parentheses, with alternatives between bars. A part may be repeated by `?`, `*`
or `+`. Settings such as `(?i)` change the mode up to the end of the group around them.

Patterns are not applied to texts here; this module says which texts are patterns. The language
has no tables of characters behind it. So in the mode `u`, which is on at first, there is no
`\d`, no `\b`, and no letter that stands for another one under `i`. Without `u` these refer to
ASCII alone, and a part must not match a piece of a character, which rules out complements. A
pattern repeats nothing a given number of times.
-/

namespace RegionSync.Text

/-- How the parts of a pattern are read. -/
structure PatternMode where
  /-- The setting `i`: letters match in either case. -/
  ignoreCase : Bool := false
  /-- The setting `u`: escapes refer to all of Unicode. -/
  unicode : Bool := true
  /-- The setting `x`: blanks and comments between parts are passed over. -/
  spaced : Bool := false
deriving DecidableEq

namespace PatternMode

/-- The text after blanks and comments. A comment goes from `#` to the end of the line. -/
def skipFrom : Bool → List Char → List Char
  | _, [] => []
  | true, c :: text => skipFrom (c != '\n') text
  | false, c :: text =>
    if isBlank c then skipFrom false text
    else if c = '#' then skipFrom true text
    else c :: text

/-- The text from the next character that counts. -/
def skip (mode : PatternMode) (text : List Char) : List Char :=
  if mode.spaced then skipFrom false text else text

/-- The mode after settings: those before a dash are turned on, those after it off. None may occur
twice, and something must follow the dash. -/
def set? (mode : PatternMode) (settings : List Char) : Option PatternMode :=
  let on := settings.takeWhile (· != '-')
  let off := settings.dropWhile (· != '-')
  let after (setting : Char) (value : Bool) : Bool :=
    if on.contains setting then true else if off.contains setting then false else value
  if settings.all ['i', 'm', 's', 'U', 'u', 'R', 'x', '-'].contains && settings.eraseDups = settings
      && settings.getLast? ≠ some '-' then
    some ⟨after 'i' mode.ignoreCase, after 'u' mode.unicode, after 'x' mode.spaced⟩
  else none

/-- Whether a character can stand for itself. -/
def admits (mode : PatternMode) : Bool := !(mode.unicode && mode.ignoreCase)

/-- Whether a character can be a member of a set. -/
def admitsMember (mode : PatternMode) (c : Char) : Bool :=
  if mode.unicode then !mode.ignoreCase else c.toNat < 0x80

end PatternMode

/-! ## Escapes -/

/-- What a character or an escape stands for. -/
inductive PatternAtom where
  | char (c : Char)
  /-- A kind of characters. -/
  | kind
  /-- A place between characters. -/
  | edge

/-- The value of a hexadecimal digit. -/
def hexValue? (c : Char) : Option Nat :=
  if c.isDigit then some (c.toNat - '0'.toNat)
  else if 'a' ≤ c.toLower ∧ c.toLower ≤ 'f' then some (c.toLower.toNat - 'a'.toNat + 10)
  else none

/-- Reads a number of hexadecimal digits behind `value`. -/
def readHex (mode : PatternMode) : Nat → Nat → List Char → Option (Nat × List Char)
  | 0, value, text => some (value, text)
  | _ + 1, _, [] => none
  | digits + 1, value, c :: text =>
    match hexValue? c with
    | some digit => readHex mode digits (16 * value + digit) (mode.skip text)
    | none => none

/-- The characters with an escape of one letter. -/
def letterEscapes : List (Char × Nat) :=
  [('a', 0x07), ('f', 0x0C), ('t', 0x09), ('n', 0x0A), ('r', 0x0D), ('v', 0x0B)]

/-- Reads an escape after its backslash. -/
def readEscape (mode : PatternMode) : List Char → Option (PatternAtom × List Char)
  | [] => none
  | c :: text =>
    let hex (digits : Nat) (isWhole : Nat → Bool) : Option (PatternAtom × List Char) :=
      match readHex mode digits 0 (mode.skip text) with
      | some (value, rest) =>
        if value.isValidChar ∧ isWhole value then some (.char (Char.ofNat value), rest) else none
      | none => none
    let unlessUnicode (atom : PatternAtom) : Option (PatternAtom × List Char) :=
      if mode.unicode then none else some (atom, text)
    if c = 'x' then hex 2 fun value => mode.unicode || value < 0x80
    else if c = 'u' then hex 4 fun _ => true
    else if c = 'U' then hex 8 fun _ => true
    else if ['d', 's', 'w'].contains c then unlessUnicode .kind
    else if ['b', 'B', '<', '>'].contains c then unlessUnicode .edge
    else if c = 'A' ∨ c = 'z' then some (.edge, text)
    else if c.isAlphanum ∨ 0x80 ≤ c.toNat then
      (letterEscapes.lookup c).map fun value => (.char (Char.ofNat value), text)
    else some (.char c, text)

/-! ## Sets -/

/-- The height of things that stand side by side: how deep things are nested in them. -/
def heightOf : List Nat → Nat
  | [] => 0
  | [height] => height
  | heights => heights.foldl max 0 + 1

/-- A set that is being read. -/
structure PatternSet where
  /-- Whether nothing but dashes has been read. -/
  fresh : Bool := true
  /-- The height of what stands before the last operator. -/
  before : Option Nat := none
  /-- The heights of the members after it. -/
  members : List Nat := []

namespace PatternSet

/-- The set with one more member. -/
def add (set : PatternSet) (height : Nat) : PatternSet :=
  { set with fresh := false, members := height :: set.members }

/-- How deep things are nested in the set. -/
def height (set : PatternSet) : Nat :=
  match set.before with
  | some height => max height (heightOf set.members) + 1
  | none => heightOf set.members

/-- The set after an operator. -/
def operated (set : PatternSet) : PatternSet where
  fresh := false
  before := some set.height

/-- Whether a text starts with an operator between members: intersection or one of the two kinds of
difference. -/
def startsWithOperator : List Char → Bool
  | a :: b :: _ => a == b && ['&', '-', '~'].contains a
  | _ => false

/-- The sets with names. -/
def names : List String :=
  ["alnum", "alpha", "ascii", "blank", "cntrl", "digit", "graph", "lower", "print", "punct",
    "space", "upper", "word", "xdigit"]

/-- Reads the name of a set, as in `[:alpha:]`, after the bracket: whether its complement is meant, and
the text after it. -/
def readName : List Char → Option (Bool × List Char)
  | ':' :: text =>
    let (negated, text) := match text with
      | '^' :: text => (true, text)
      | text => (false, text)
    let name := text.takeWhile (· != ':')
    match text.drop name.length with
    | ':' :: ']' :: rest => if names.contains (String.ofList name) then some (negated, rest) else none
    | _ => none
  | _ => none

/-- Reads a character or an escape between brackets. -/
def readAtom (mode : PatternMode) : List Char → Option (PatternAtom × List Char)
  | [] => none
  | '\\' :: text => readEscape mode text
  | c :: text => some (.char c, text)

/-- Whether what follows a dash makes it stand for itself and not for a range. Of a comment only the
mark is passed over. -/
def endsAtDash (mode : PatternMode) (text : List Char) : Bool :=
  let text := if mode.spaced then
      match text.dropWhile isBlank with
      | '#' :: text => text.dropWhile isBlank
      | text => text
    else text
  match text with
  | c :: _ => c == ']' || c == '-'
  | [] => false

/-- Reads a member: a character, an escape or a range. -/
def readMember (mode : PatternMode) (text : List Char) : Option (List Char) :=
  match readAtom mode text with
  | none => none
  | some (first, text) =>
    let single (rest : List Char) : Option (List Char) := match first with
      | .char c => if mode.admitsMember c then some rest else none
      | .kind => some rest
      | .edge => none
    match mode.skip text with
    | '-' :: rest =>
      if endsAtDash mode rest then single ('-' :: rest)
      else
        match first, readAtom mode (mode.skip rest) with
        | .char a, some (.char b, rest) =>
          if a ≤ b ∧ mode.admitsMember a ∧ mode.admitsMember b then some rest else none
        | _, _ => none
    | rest => single rest

end PatternSet

/-! ## Groups -/

/-- A part that has been read. -/
structure PatternPart where
  height : Nat := 0
  /-- Whether it can be repeated; settings cannot. -/
  repeatable : Bool := true

/-- A group that is being read. -/
structure PatternGroup where
  mode : PatternMode := {}
  /-- The heights of the alternatives before the one that is being read. -/
  alternatives : List Nat := []
  /-- The parts of the alternative that is being read, the newest first. -/
  parts : List PatternPart := []

namespace PatternGroup

/-- The group with one more part. -/
def add (group : PatternGroup) (part : PatternPart) : PatternGroup :=
  { group with parts := part :: group.parts }

/-- The group with its alternatives and the one being read. -/
def allAlternatives (group : PatternGroup) : List Nat :=
  heightOf (group.parts.map (·.height)) :: group.alternatives

/-- How deep things are nested in the group. -/
def height (group : PatternGroup) : Nat := heightOf group.allAlternatives

end PatternGroup

/-- Whether a text can be the name of a group. -/
def isGroupName : List Char → Bool
  | [] => false
  | c :: text =>
    (c == '_' || isAlphabetic c) &&
      text.all fun c => ['_', '.', '[', ']'].contains c || isAlphanumeric c

/-! ## Patterns -/

/-- A pattern that is being read. -/
structure PatternReading where
  group : PatternGroup := {}
  /-- The groups around it, the innermost first. -/
  outer : List PatternGroup := []
  /-- The sets that are open, the innermost first. -/
  sets : List PatternSet := []
  /-- The names of groups. -/
  names : List (List Char) := []

namespace PatternReading

/-- The mode at this place. -/
def mode (reading : PatternReading) : PatternMode := reading.group.mode

/-- Adds a part. -/
def add (reading : PatternReading) (part : PatternPart) : PatternReading :=
  { reading with group := reading.group.add part }

/-- Begins a group. -/
def begin (reading : PatternReading) (mode : PatternMode) : PatternReading :=
  { reading with group := { mode := mode }, outer := reading.group :: reading.outer }

/-- Ends a group, if one is open. -/
def close? (reading : PatternReading) : Option PatternReading :=
  match reading.outer with
  | [] => none
  | around :: outer =>
    some ({ reading with group := around, outer := outer }.add { height := reading.group.height + 1 })

/-- Begins a group with a name. -/
def beginNamed (reading : PatternReading) (text : List Char) :
    Option (PatternReading × List Char) :=
  let name := text.takeWhile (· != '>')
  match text.drop name.length with
  | '>' :: rest =>
    if isGroupName name && !reading.names.contains name then
      some ({ reading.begin reading.mode with names := name :: reading.names }, rest)
    else none
  | _ => none

/-- Reads what follows a parenthesis: the beginning of a group, or settings. -/
def beginGroup (reading : PatternReading) (text : List Char) :
    Option (PatternReading × List Char) :=
  match reading.mode.skip text with
  | '?' :: 'P' :: '<' :: rest => reading.beginNamed rest
  | '?' :: '<' :: rest => reading.beginNamed rest
  | '?' :: rest =>
    let settings := rest.takeWhile fun c => c != ':' && c != ')'
    match reading.mode.set? settings, rest.drop settings.length with
    | some mode, ':' :: rest => some (reading.begin mode, rest)
    | some mode, ')' :: rest =>
      if settings.isEmpty then none
      else
        let reading := { reading with group := { reading.group with mode := mode } }
        some (reading.add { repeatable := false }, rest)
    | _, _ => none
  | rest => some (reading.begin reading.mode, rest)

/-- Begins a set after its bracket. -/
def beginSet (reading : PatternReading) (text : List Char) : Option (PatternReading × List Char) :=
  let mode := reading.mode
  let opened := { reading with sets := {} :: reading.sets }
  match mode.skip text with
  | '^' :: rest => if mode.unicode then some (opened, mode.skip rest) else none
  | rest => some (opened, rest)

/-- Repeats the last part, if there is one that can be repeated. A second mark makes the repetition
reluctant. -/
def repeated (reading : PatternReading) (text : List Char) : Option (PatternReading × List Char) :=
  match reading.group.parts with
  | part :: parts =>
    let group := { reading.group with parts := { height := part.height + 1 } :: parts }
    let rest := match text with
      | '?' :: rest => rest
      | rest => rest
    if part.repeatable then some ({ reading with group := group }, rest) else none
  | [] => none

/-- Takes what begins with the character `c`, outside sets. -/
def stepOutside (reading : PatternReading) (c : Char) (text : List Char) :
    Option (PatternReading × List Char) :=
  let part (admitted : Bool) (rest : List Char) : Option (PatternReading × List Char) :=
    if admitted then some (reading.add {}, rest) else none
  if c = '(' then reading.beginGroup text
  else if c = ')' then reading.close?.map (·, text)
  else if c = '|' then
    let group :=
      { reading.group with alternatives := reading.group.allAlternatives, parts := [] }
    some ({ reading with group := group }, text)
  else if c = '[' then reading.beginSet text
  else if c = '?' ∨ c = '*' ∨ c = '+' then reading.repeated text
  else if c = '\x7b' then none
  else if c = '.' then part reading.mode.unicode text
  else if c = '^' ∨ c = '$' then part true text
  else if c = '\\' then
    match readEscape reading.mode text with
    | some (.char _, rest) => part reading.mode.admits rest
    | some (_, rest) => part true rest
    | none => none
  else part reading.mode.admits text

/-- Takes what begins with the character `c` in the set `set` inside of `around`. -/
def stepInside (reading : PatternReading) (set : PatternSet) (around : List PatternSet) (c : Char)
    (text : List Char) : Option (PatternReading × List Char) :=
  let mode := reading.mode
  let continued (set : PatternSet) (rest : List Char) : Option (PatternReading × List Char) :=
    some ({ reading with sets := set :: around }, rest)
  if set.fresh ∧ (c = '-' ∨ c = ']' ∧ set.members = []) then
    if mode.admitsMember c then continued { set.add 0 with fresh := c == '-' } text else none
  else if c = '[' then
    match PatternSet.readName text with
    | some (negated, rest) =>
      if if mode.unicode then !mode.ignoreCase else !negated then continued (set.add 0) rest else none
    | none => { reading with sets := { set with fresh := false } :: around }.beginSet text
  else if c = ']' then
    let height := set.height + 1
    match around with
    | [] => some ({ reading with sets := [] }.add { height := height }, text)
    | next :: around => some ({ reading with sets := next.add height :: around }, text)
  else if PatternSet.startsWithOperator (c :: text) then continued set.operated (text.drop 1)
  else
    match PatternSet.readMember mode (c :: text) with
    | some rest => continued (set.add 0) rest
    | none => none

/-- Takes what begins with the character `c`. -/
def step (reading : PatternReading) (c : Char) (text : List Char) :
    Option (PatternReading × List Char) :=
  match reading.sets with
  | [] => reading.stepOutside c text
  | set :: around => reading.stepInside set around c text

/-- Reads to the end of a text, in a number of steps at most. -/
def run : Nat → PatternReading → List Char → Option PatternReading
  | steps, reading, text =>
    match steps, reading.mode.skip text with
    | _, [] => some reading
    | 0, _ :: _ => none
    | steps + 1, c :: rest =>
      match reading.step c rest with
      | some (after, rest) => run steps after rest
      | none => none

end PatternReading

/-- How deep things may be nested in a pattern. -/
def maxPatternHeight : Nat := 250

/-- Whether a text is a pattern. Every step takes a character at least, so its length is enough. -/
def isPattern (text : List Char) : Bool :=
  match PatternReading.run text.length {} text with
  | some reading =>
    reading.outer.isEmpty && reading.sets.isEmpty && reading.group.height ≤ maxPatternHeight
  | none => false

example : isPattern "[a-z]+|(?:b)*".toList = true ∧ isPattern "+5".toList = false := by decide

end RegionSync.Text
