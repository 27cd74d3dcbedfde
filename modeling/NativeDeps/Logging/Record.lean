import NativeDeps.Logging.Level
import NativeDeps.Logging.Template
import NativeDeps.Text.Digits
import NativeDeps.Text.WordTable

/-!
# Records

A record is one message on its way to the console and to log files.  On a
terminal the console shows the name of its level and its message in the colour of
the level; the record itself and what log files receive stay free of colours.
-/

namespace NativeDeps.Logging

/-- The arguments of a message: in order, or by name from a mapping. -/
inductive Arguments
  | inOrder (values : List Value)
  | byName (entries : List (Value × Value))
deriving Repr

namespace Arguments

/-- The arguments of a call; a mapping that is the only one and not empty gives names. -/
def ofCall : List Value → Arguments
  | [.mapping (entry :: entries)] => .byName (entry :: entries)
  | values => .inOrder values

def isEmpty : Arguments → Bool
  | .inOrder values => values.isEmpty
  | .byName entries => entries.isEmpty

def supply : Arguments → Template.Supply
  | .inOrder values => .ofList values
  | .byName entries => .ofMapping entries

/-- The arguments as a value. -/
def value : Arguments → Value
  | .inOrder values => .tuple values
  | .byName entries => .mapping entries

end Arguments

/-- A message: its text may be a template, and a raw one is shown by itself. -/
structure Record where
  levelName : String
  message : Value
  arguments : Arguments := .inOrder []
  isRaw : Bool := false
deriving Repr

def resetCode : String := "\x1b[0m"

def colourCode (levelName : String) : String :=
  if levelName = "DEBUG" then "\x1b[36m"
  else if levelName = "INFO" then "\x1b[32m"
  else if levelName = "WARNING" then "\x1b[33m"
  else if levelName = "ERROR" then "\x1b[31m"
  else if levelName = "CRITICAL" then "\x1b[35m"
  else if levelName = "SUCCESS" then "\x1b[92m"
  else resetCode

def paint (levelName text : String) : String :=
  colourCode levelName ++ text ++ resetCode

namespace Record

/-- The message, filled with the arguments if there are any. -/
def text (record : Record) : Except Failure String :=
  if record.arguments.isEmpty then
    .ok record.message.told
  else
    Template.fill record.message.told record.arguments.supply

/-- A copy of the record in the colour of its level. -/
def painted (record : Record) : Record :=
  { record with
    levelName := paint record.levelName record.levelName
    message := .text (paint record.levelName record.message.told) }

end Record

/-- How records are laid out, when, and how the time is written in them. -/
structure Layout where
  template : String
  time : String
  now : Calendar.Moment
deriving Repr, DecidableEq

/-- The moment from which seconds are counted. -/
def epoch : Calendar.Moment := ⟨⟨1970, 1, 1⟩, 0, 0, 0, 0, none⟩

/-- The number of seconds since the beginning of 1970, up to a moment after it. -/
def secondsSince1970 (moment : Calendar.Moment) : Float :=
  Decimal.nearestFloat (moment.clockReading - epoch.clockReading).toNat (-6)

namespace Layout

/-- A layout of a template; the empty one stands for the message alone. -/
def ofTemplate (template time : String) (now : Calendar.Moment) : Layout where
  template := if template = "" then "%(message)s" else template
  time := time
  now := now

/--
The fields of a record that a layout can take, of which those about a place in a
program, a thread or an error are never filled.
-/
def fields (layout : Layout) (record : Record) (text : String) :
    List (Value × Value) :=
  [("name", .null),
    ("msg", record.message),
    ("args", record.arguments.value),
    ("levelname", .text record.levelName),
    ("levelno", .null),
    ("pathname", .text ""),
    ("filename", .text ""),
    ("module", .text ""),
    ("exc_info", .null),
    ("exc_text", .null),
    ("stack_info", .null),
    ("lineno", .int 0),
    ("funcName", .null),
    ("created", .float (secondsSince1970 layout.now)),
    ("msecs", .float (Float.ofNat (layout.now.microsecond / 1000))),
    ("threadName", .text "MainThread"),
    ("processName", .text "MainProcess"),
    ("message", .text text),
    ("asctime", .text layout.time)].map fun (name, value) =>
      (.text name, value)

def signs : List Char := "diouxefgcrsa%".toList

/-- The letters beyond ASCII that are signs but for their case. -/
def otherSigns : List Char := ['İ', 'ı', 'ſ']

/-- Whether a character ends a place of a layout, be it a capital or a small letter. -/
def isSign (character : Char) : Bool :=
  signs.contains character.toLower || otherSigns.contains character

/-- What stands behind an amount, if some characters open with one. -/
def dropAmount (characters : List Char) : List Char :=
  match characters with
  | '*' :: rest => rest
  | characters => characters.dropWhile Text.isDecimalDigit

/-- What stands behind a precision with an amount, if some characters open with one. -/
def dropPrecision (characters : List Char) : List Char :=
  match characters with
  | '.' :: rest =>
      if (dropAmount rest).length < rest.length then
        dropAmount rest
      else
        '.' :: rest
  | characters => characters

/-- Whether some characters open with a place that takes a field of the record. -/
def opensField : List Char → Bool
  | '%' :: '(' :: rest =>
      match rest.dropWhile Text.isWordChar with
      | ')' :: behind =>
          let measured :=
            dropPrecision (dropAmount (behind.dropWhile Template.isFlag))
          rest.head? != some ')' && (measured.head?.any isSign)
      | _ => false
  | _ => false

def holdsField : List Char → Bool
  | [] => false
  | character :: rest => opensField (character :: rest) || holdsField rest

def isValid (layout : Layout) : Bool :=
  holdsField layout.template.toList

/-- Lay out a record. -/
def apply (layout : Layout) (record : Record) : Except Failure String :=
  match record.text with
  | .error failure => .error failure
  | .ok text =>
      let fields := layout.fields record text
      match Template.fill layout.template (.ofMapping fields) with
      | .error (.template (.absent name)) =>
          .error (.template (.unknownField name))
      | result => result

/-- Lay out a record for the console; a raw one is only its message. -/
def applyToConsole (layout : Layout) (isTerminal : Bool) (record : Record) :
    Except Failure String :=
  if record.isRaw then
    record.text
  else if isTerminal then
    layout.apply record.painted
  else
    layout.apply record

/-- Lay out a record for the console, unless the layout takes nothing from records. -/
def lay (layout : Layout) (isTerminal : Bool) (record : Record) :
    Except Failure String :=
  if layout.isValid then
    layout.applyToConsole isTerminal record
  else
    .error (.template (.noField layout.template))

end Layout

end NativeDeps.Logging
