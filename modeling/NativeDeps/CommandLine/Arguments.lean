import NativeDeps.Text.Digits
import NativeDeps.Text.Quoted

/-!
# Arguments

The command line as a request.  Every argument is first classified by its text
alone: what opens with a hyphen is taken for a flag, unless it looks like a
negative number or holds a blank, and a flag may be cut short as long as one flag
alone is meant.  Then the arguments are consumed from left to right.
-/

namespace NativeDeps.CommandLine

/-- What the program can be asked for. -/
inductive Command
  | resolve
  | render
  | shell
  | info
deriving Repr, DecidableEq

namespace Command

/-- All commands, in the order in which they are listed. -/
def all : List Command := [.resolve, .render, .shell, .info]

def name : Command → String
  | .resolve => "resolve"
  | .render => "render"
  | .shell => "shell"
  | .info => "info"

def ofName? (name : String) : Option Command :=
  all.find? fun command => command.name = name

end Command

/-- The flags. -/
inductive Flag
  | help
  | platform
  | configuration
  | directory
  | provisioner
  | run
  | json
  | verbose
  | dryRun
deriving Repr, DecidableEq

namespace Flag

/-- All flags, in the order in which they are listed. -/
def all : List Flag :=
  [.help, .platform, .configuration, .directory, .provisioner, .run, .json,
    .verbose, .dryRun]

def spellings : Flag → List String
  | .help => ["-h", "--help"]
  | .platform => ["--platform"]
  | .configuration => ["--config-dir"]
  | .directory => ["--work-dir"]
  | .provisioner => ["--provisioner"]
  | .run => ["--run"]
  | .json => ["--json"]
  | .verbose => ["--verbose", "-v"]
  | .dryRun => ["--dry-run"]

def takesValue : Flag → Bool
  | .platform => true
  | .configuration => true
  | .directory => true
  | .provisioner => true
  | .run => true
  | _ => false

def title (flag : Flag) : String :=
  "/".intercalate flag.spellings

def table : List (String × Flag) :=
  all.flatMap fun flag => flag.spellings.map fun spelling => (spelling, flag)

def ofSpelling? (spelling : String) : Option Flag :=
  table.lookup spelling

end Flag

/-- The provisioners that can be named, in the order in which they are listed. -/
def provisionerChoices : List String := ["manifest", "nix"]

/-- What is wrong with a command line. -/
inductive Fault
  | noCommand
  | unrecognized (arguments : List String)
  | unknownCommand (value : String)
  | unknownProvisioner (value : String)
  | noValue (flag : Flag)
  | needlessValue (flag : Flag) (value : String)
  | ambiguous (argument : String) (spellings : List String)
deriving Repr, DecidableEq

namespace Fault

def choiceMessage (title value : String) (choices : List String) : String :=
  "argument " ++ title ++ ": invalid choice: " ++ Text.quoted value ++
    " (choose from " ++ ", ".intercalate (choices.map Text.quoted) ++ ")"

def message : Fault → String
  | .noCommand => "the following arguments are required: command"
  | .unrecognized arguments =>
      "unrecognized arguments: " ++ " ".intercalate arguments
  | .unknownCommand value =>
      choiceMessage "command" value (Command.all.map Command.name)
  | .unknownProvisioner value =>
      choiceMessage Flag.provisioner.title value provisionerChoices
  | .noValue flag => "argument " ++ flag.title ++ ": expected one argument"
  | .needlessValue flag value =>
      "argument " ++ flag.title ++ ": ignored explicit argument " ++
        Text.quoted value
  | .ambiguous argument spellings =>
      "ambiguous option: " ++ argument ++ " could match " ++
        ", ".intercalate spellings

end Fault

/-- What an argument is, by its text. -/
inductive Word
  | plain (text : String)
  | marker
  | flag (flag : Flag) (isLong : Bool) (attached : Option String)
  | unknown (text : String)
deriving Repr, DecidableEq

namespace Word

/-- Whether a spelling is a long one, with two hyphens. -/
def isLongSpelling (characters : List Char) : Bool :=
  ['-', '-'].isPrefixOf characters

/-- Whether a text with a hyphen before it is a negative number. -/
def isNumber (characters : List Char) : Bool :=
  let characters :=
    if characters.getLast? = some '\n' then characters.dropLast else characters
  let whole := characters.takeWhile Text.isDecimalDigit
  match characters.drop whole.length with
  | [] => !whole.isEmpty
  | '.' :: fraction => !fraction.isEmpty && fraction.all Text.isDecimalDigit
  | _ => false

/-- What stands behind the first equals sign, if there is one. -/
def valueBehind (characters : List Char) : Option String :=
  match characters.dropWhile (· != '=') with
  | [] => none
  | _ :: value => some (String.ofList value)

/-- The flags that an argument which is no full spelling can mean. -/
def candidates (characters : List Char) :
    List (String × Flag × Option String) :=
  if isLongSpelling characters then
    let written := characters.takeWhile (· != '=')
    (Flag.table.filter fun entry => written.isPrefixOf entry.1.toList).map
      fun (spelling, meant) => (spelling, meant, valueBehind characters)
  else
    (Flag.table.filter fun entry => entry.1.toList = characters.take 2).map
      fun (spelling, meant) =>
        (spelling, meant, some (String.ofList (characters.drop 2)))

/-- Classify an argument that opens with a hyphen and is no full spelling. -/
def ofHyphen (characters : List Char) : Except Fault Word :=
  let text := String.ofList characters
  let written := characters.takeWhile (· != '=')
  match Flag.ofSpelling? (String.ofList written), valueBehind characters with
  | some meant, some value =>
      .ok (.flag meant (isLongSpelling written) (some value))
  | _, _ =>
      match candidates characters with
      | [(_, meant, attached)] =>
          .ok (.flag meant (isLongSpelling characters) attached)
      | [] =>
          if isNumber (characters.drop 1) || characters.contains ' ' then
            .ok (.plain text)
          else
            .ok (.unknown text)
      | several => .error (.ambiguous text (several.map Prod.fst))

def ofArgument (argument : String) : Except Fault Word :=
  match argument.toList with
  | '-' :: rest =>
      match Flag.ofSpelling? argument with
      | some meant => .ok (.flag meant (isLongSpelling ('-' :: rest)) none)
      | none =>
          if rest.isEmpty then
            .ok (.plain argument)
          else
            ofHyphen ('-' :: rest)
  | _ => .ok (.plain argument)

/-- Classify all arguments; behind two hyphens alone everything is plain. -/
def ofArguments : List String → Except Fault (List Word)
  | [] => .ok []
  | argument :: rest =>
      if argument = "--" then
        .ok (.marker :: rest.map .plain)
      else
        match ofArgument argument with
        | .error fault => .error fault
        | .ok word => (ofArguments rest).map (word :: ·)

end Word

/-- What the flags say. -/
structure Choices where
  platform : Option String := some "auto"
  configuration : Option String := none
  directory : Option String := none
  provisioner : Option String := none
  run : Option String := none
  isJson : Bool := false
  isVerbose : Bool := false
  isDryRun : Bool := false
deriving Repr, DecidableEq

/-- A command and what the flags say about it. -/
structure Request where
  command : Command
  choices : Choices
deriving Repr, DecidableEq

/-- What a command line asks for: help, or a command. -/
inductive Wish
  | help
  | request (request : Request)
deriving Repr, DecidableEq

/-- What has been consumed of a command line. -/
structure Draft where
  command : Option Command := none
  choices : Choices := {}
  others : List String := []
deriving Repr, DecidableEq

namespace Draft

/-- Keep an argument that belongs to nothing. -/
def addOther (draft : Draft) (argument : String) : Draft :=
  { draft with others := draft.others ++ [argument] }

def takeCommand (draft : Draft) (word : String) : Except Fault Draft :=
  match Command.ofName? word with
  | some command => .ok { draft with command := some command }
  | none => .error (.unknownCommand word)

/-- The value that is attached to a flag; two hyphens alone are none. -/
def valueOfAttached (attached : String) : Option String :=
  if attached = "--" then none else some attached

def takeValue (draft : Draft) (flag : Flag) (value : Option String) :
    Except Fault Draft :=
  let choices := draft.choices
  match flag with
  | .platform =>
      .ok { draft with choices := { choices with platform := value } }
  | .configuration =>
      .ok { draft with choices := { choices with configuration := value } }
  | .directory =>
      .ok { draft with choices := { choices with directory := value } }
  | .provisioner =>
      match value with
      | some name =>
          if provisionerChoices.contains name then
            .ok { draft with choices := { choices with provisioner := value } }
          else
            .error (.unknownProvisioner name)
      | none => .ok { draft with choices := { choices with provisioner := none } }
  | .run => .ok { draft with choices := { choices with run := value } }
  | _ => .ok draft

/-- Turn on a flag that takes no value, unless it asks for help. -/
def turnOn (draft : Draft) (flag : Flag) : Option Draft :=
  let choices := draft.choices
  match flag with
  | .help => none
  | .json => some { draft with choices := { choices with isJson := true } }
  | .verbose => some { draft with choices := { choices with isVerbose := true } }
  | .dryRun => some { draft with choices := { choices with isDryRun := true } }
  | _ => some draft

def joined (flag : Flag) : List Char → Except Fault (List Flag)
  | [] => .ok [flag]
  | letter :: rest =>
      match Flag.ofSpelling? (String.ofList ['-', letter]) with
      | some next => (joined next rest).map (flag :: ·)
      | none =>
          .error (.needlessValue flag (String.ofList (letter :: rest)))

def flagsOf (flag : Flag) (isLong : Bool) :
    Option String → Except Fault (List Flag)
  | none => .ok [flag]
  | some attached =>
      if isLong || attached = "" then
        .error (.needlessValue flag attached)
      else
        joined flag attached.toList

/-- The request, once all arguments are consumed. -/
def finish (draft : Draft) : Except Fault Wish :=
  match draft.command with
  | none => .error .noCommand
  | some command =>
      if draft.others.isEmpty then
        .ok (.request ⟨command, draft.choices⟩)
      else
        .error (.unrecognized draft.others)

def consume (draft : Draft) : List Word → Except Fault Wish
  | [] => draft.finish
  | .unknown text :: rest => consume (draft.addOther text) rest
  | .marker :: .plain text :: rest =>
      if draft.command.isNone then
        match draft.takeCommand text with
        | .error fault => .error fault
        | .ok draft => consume draft rest
      else
        consume ((draft.addOther "--").addOther text) rest
  | .marker :: rest => consume (draft.addOther "--") rest
  | .plain text :: .marker :: rest =>
      if draft.command.isNone then
        match draft.takeCommand text with
        | .error fault => .error fault
        | .ok draft => consume draft rest
      else
        consume (draft.addOther text) (.marker :: rest)
  | .plain text :: rest =>
      if draft.command.isNone then
        match draft.takeCommand text with
        | .error fault => .error fault
        | .ok draft => consume draft rest
      else
        consume (draft.addOther text) rest
  | .flag flag isLong attached :: rest =>
      if flag.takesValue then
        match attached, rest with
        | some value, rest =>
            match draft.takeValue flag (valueOfAttached value) with
            | .error fault => .error fault
            | .ok draft => consume draft rest
        | none, .plain value :: rest =>
            match draft.takeValue flag (some value) with
            | .error fault => .error fault
            | .ok draft => consume draft rest
        | none, _ => .error (.noValue flag)
      else
        match flagsOf flag isLong attached with
        | .error fault => .error fault
        | .ok flags =>
            match flags.foldlM turnOn draft with
            | none => .ok .help
            | some draft => consume draft rest

end Draft

/-- What a command line asks for. -/
def read (arguments : List String) : Except Fault Wish :=
  match Word.ofArguments arguments with
  | .error fault => .error fault
  | .ok words => Draft.consume {} words

end NativeDeps.CommandLine
