import NativeDeps.Calendar
import NativeDeps.Logging.Record

/-!
# Named loggers

Loggers of one name share one channel: its level and its handlers.  Opening a logger
sets the level of the channel of its name, stops it from handing records on to the
names above it, and puts new handlers in the place of the old ones.  The log file is
opened last, so a logger whose file cannot be opened has replaced the handlers all the
same.
-/

namespace NativeDeps.Logging

def timeText (moment : Calendar.Moment) : String :=
  String.ofList
    (Text.decimal 2 moment.hour ++ ':' :: Text.decimal 2 moment.minute ++
      ':' :: Text.decimal 2 moment.second)

def consoleLayout (isVerbose : Bool) (now : Calendar.Moment) : Layout where
  template :=
    if isVerbose then
      "%(asctime)s [%(levelname)s] %(message)s"
    else
      "[%(levelname)s] %(message)s"
  time := timeText now
  now := now

/-- The layout of records in log files. -/
def fileLayout (now : Calendar.Moment) : Layout where
  template := "%(asctime)s [%(levelname)s] %(message)s"
  time := String.ofList now.date.chars ++ " " ++ timeText now
  now := now

/-- What a handler writes to: the console, or a file that is added to. -/
inductive Target
  | console (isVerbose : Bool)
  | file (location : Files.Location)
deriving Repr, DecidableEq

/-- A handler writes the records that are not below its level. -/
structure Handler where
  level : Level
  target : Target
deriving Repr, DecidableEq

/--
Where the records of the loggers of one name go: to its handlers, and if it propagates
also to those of the names above it.
-/
structure Channel where
  level : Level := 0
  propagates : Bool := true
  handlers : List Handler := []
deriving Repr, DecidableEq

/-- Set the level of a channel, and take its handlers and the names above it away. -/
def Channel.reset (channel : Channel) (level : Level) : Channel :=
  { channel with level := level, propagates := false, handlers := [] }

def Channel.add (channel : Channel) (handler : Handler) : Channel :=
  { channel with handlers := channel.handlers ++ [handler] }

/-- Whether a channel takes records of a level; no channel takes level zero. -/
def Channel.accepts (channel : Channel) (level : Level) : Bool :=
  decide (0 < level) && decide (channel.level ≤ level)

/--
Whether a channel takes records of a level that may be any value; only numbers can be
compared with its threshold.
-/
def Channel.acceptsValue (channel : Channel) : Value → Except Failure Bool
  | .int level => .ok (channel.accepts level)
  | .bool level => .ok (channel.accepts (if level then 1 else 0))
  | .float level =>
      .ok
        (match Decimal.truncated? level with
          | some number => channel.accepts number
          | none => 0 < level)
  | .nan _ => .ok false
  | _ => .error .mistyped

/-- The channels by name, and the files they write to. -/
structure Registry where
  channels : List (Spelling × Channel)
  files : Files.Tree
deriving Repr

namespace Registry

/-- The name of the channel that a logger's name stands for; the empty name is the root's. -/
def channelName (name : Spelling) : Spelling :=
  if name = "" then "root" else name

def channel? (registry : Registry) (name : Spelling) : Option Channel :=
  registry.channels.lookup (channelName name)

def setChannel (registry : Registry) (name : Spelling) (channel : Channel) :
    Registry :=
  { registry with
    channels :=
      (channelName name, channel) ::
        registry.channels.filter fun entry => entry.1 ≠ channelName name }

def logPath (registry : Registry) (file : Spelling) : Files.Path :=
  (Files.Path.ofSpelling file).absolute registry.files.directory

/-- The channel of a logger that has been opened, as long as it has no log file. -/
def reopened (registry : Registry) (name : Spelling) (isVerbose : Bool) :
    Channel :=
  let level := Level.threshold isVerbose
  (((registry.channel? name).getD {}).reset level).add
    ⟨level, .console isVerbose⟩

/-- Open a logger: replace the handlers of its name, then open the log file, if any. -/
def openLogger (registry : Registry) (name : Spelling) (isVerbose : Bool)
    (file : Option Spelling) : Except Failure Unit × Registry :=
  let channel := registry.reopened name isVerbose
  let replaced := registry.setChannel name channel
  match file with
  | none => (.ok (), replaced)
  | some file =>
      let path := registry.logPath file
      if path.hasHalf then
        (.error .unencodable, replaced)
      else if path.hasNull then
        (.error .nullInPath, replaced)
      else
        match registry.files.openForAppend path with
        | .error fault => (.error (.files fault path.spelling), replaced)
        | .ok (files, location) =>
            (.ok (),
              { replaced.setChannel name
                  (channel.add ⟨.debug, .file location⟩) with
                files := files })

/--
Open a logger whose log file may be any value: one that does not count as given is
none, and one that is no path is found out when the handlers have been replaced.
-/
def openWith (registry : Registry) (name : Spelling) (isVerbose : Bool)
    (file : Value) : Except Failure Unit × Registry :=
  if file.isGiven then
    match file.spelling? with
    | some file => registry.openLogger name isVerbose (some file)
    | none =>
        (.error .mistyped,
          registry.setChannel name (registry.reopened name isVerbose))
  else
    registry.openLogger name isVerbose none

/-- The name that a value stands for; one that does not count as given is empty. -/
def nameOf (value : Value) : Except Failure Spelling :=
  match value.spelling? with
  | some name => .ok name
  | none => if value.isGiven then .error .mistyped else .ok ""

/-- One line of a layout, or nothing where the record cannot be laid out. -/
def lineOf (text : Except Failure String) : String :=
  match text with
  | .ok text => text ++ "\n"
  | .error _ => ""

/-- The beginnings of a name that a dot follows, the shortest one first. -/
def dottedBeginnings : Spelling → List Spelling
  | [] => []
  | letter :: rest =>
      let longer := (dottedBeginnings rest).map (letter :: ·)
      if letter = .char '.' then [] :: longer else longer

/-- The names above a dotted name, the nearest one first, and the root above all. -/
def namesAbove (name : Spelling) : List Spelling :=
  if name = "root" then
    []
  else
    (dottedBeginnings name).reverse.filter
        (fun above : Spelling => above ≠ "" ∧ above ≠ "root") ++
      [("root" : Spelling)]

/-- The handlers of the first of some names, and of the others while it propagates. -/
def handlersFor (registry : Registry) : List Spelling → List Handler
  | [] => []
  | name :: above =>
      match registry.channels.lookup name with
      | none => registry.handlersFor above
      | some channel =>
          if channel.propagates then
            channel.handlers ++ registry.handlersFor above
          else
            channel.handlers

/-- Let a handler write a record, after the text and the files that others have written. -/
def handle (isTerminal : Bool) (now : Calendar.Moment) (level : Level)
    (record : Record) (written : String × Registry) (handler : Handler) :
    String × Registry :=
  let (text, registry) := written
  if handler.level ≤ level then
    match handler.target with
    | .console isVerbose =>
        let layout := consoleLayout isVerbose now
        (text ++ lineOf (layout.applyToConsole isTerminal record), registry)
    | .file location =>
        let line := lineOf ((fileLayout now).apply record)
        (text, { registry with files := registry.files.append location line })
  else
    written

/--
Send a record to the loggers of a name: the text for the console, and the registry
after the log files were written.
-/
def send (registry : Registry) (isTerminal : Bool) (now : Calendar.Moment)
    (name : Spelling) (level : Level) (record : Record) : String × Registry :=
  match registry.channel? name with
  | none => ("", registry)
  | some channel =>
      if channel.accepts level then
        let name := channelName name
        (registry.handlersFor (name :: namesAbove name)).foldl
          (handle isTerminal now level record) ("", registry)
      else
        ("", registry)

end Registry

end NativeDeps.Logging
