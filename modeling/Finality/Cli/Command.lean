import Finality.Cli.Arguments
import Finality.Cli.Display
import Finality.Cli.RosterFile
import Finality.Config.Load
import Finality.Wire.Form

/-!
# The command line

Four commands look at wire values from outside a client: `decode` shows a value, `convert`
puts it into the other wire form, `commitment` computes the commitment of a roster file,
and `config` shows the configuration. `Cli.run` is the whole program as a function of the
environment, the files and the arguments.
-/

namespace Finality.Cli

variable [Host]

/-- The name of the program. -/
def programName : String := "lightclient"

/-- The version of the program. -/
def version : String := "0.1.0"

/-- What a path leads to. -/
inductive FileEntry where
  | file (content : Bytes)
  | directory

/-- The file system: what each path leads to, if anything. -/
abbrev Files := String → Option FileEntry

/-- Why a run ends early. -/
inductive Stop where
  /-- The arguments are refused. -/
  | usage (fault : UsageFault)
  /-- A roster file is refused. -/
  | roster (fault : RosterFileFault)
  /-- There is no configuration. -/
  | config (fault : Config.LoadFault)
  /-- A text that is to be shown closes a tag that is not open. -/
  | markup
  /-- A value is refused for a reason that is none of its bytes. -/
  | value (reason : Invalid)
  /-- A path holds a character that ends it. -/
  | cutPath
  /-- A path has no bytes. -/
  | brokenPath

/-- The exit code of a run that ends early. What is wrong with the arguments and, where it has a
text, with a roster file is a matter of usage. -/
def Stop.exit : Stop → Nat
  | usage _ => 2
  | roster fault => if fault.message?.isSome then 2 else 1
  | config _ | markup | value _ | cutPath | brokenPath => 1

/-- A run that came to its end. -/
structure Finished where
  exit : Nat
  lines : List String

/-- The outcome of a run. -/
abbrev Result := Except Stop Finished

/-- Refuse a value of an argument or option. -/
def refuse {α : Type} (message : String) : Except Stop α := .error (.usage (.badValue message))

/-- The kinds of values that commands take, by name. -/
def kinds : List Kind := [.height, .clientState, .consensusState, .header, .misbehaviour, .proof]

/-- The kind with a name, in any letter case. -/
def kindNamed (name : String) : Except Stop Kind :=
  match kinds.find? fun kind => kind.label = Text.fold name with
  | some kind => .ok kind
  | none =>
    refuse ("unknown type " ++ Text.quoted name ++ "; expected one of "
      ++ ", ".intercalate (kinds.map Kind.label))

/-- The form with a name. -/
def formNamed (name : String) : Except Stop Form :=
  match Form.ofName? name with
  | some form => .ok form
  | none => refuse ("format must be one of " ++ ", ".intercalate (Form.all.map Form.name))

/-- The text after a mark of hexadecimal digits. -/
def afterHexMark : List Char → List Char
  | '0' :: 'x' :: rest | '0' :: 'X' :: rest => rest
  | text => text

/-- The bytes of an argument in hexadecimal. -/
def bytesOf (argument : String) : Except Stop Bytes :=
  match ofHexChars? (afterHexMark (Text.trim Text.isBlank argument.toList)) with
  | some bytes => .ok bytes
  | none => refuse "not valid hex"

/-- Print lines, if the markup of what they show is sound. -/
def printed (exit : Nat) : Option (List String) → Result
  | some lines => .ok ⟨exit, lines⟩
  | none => .error .markup

/-- Print a datum as JSON on several lines. -/
def printJson (datum : Datum) : Result :=
  .ok ⟨0, Display.textLines (Json.render Json.Layout.lines datum)⟩

/-- Print the report of bytes that are no value. -/
def printReport (json : Bool) (report : Report) : Result :=
  if (Datum.record report.data).hasLongNumber then .error (.value .longNumber)
  else if json then
    .ok ⟨1, [Json.render Json.Layout.spaced
      (.record [("ok", .bool false), ("error", report.toDatum false)])]⟩
  else printed 1 (Display.markedLines? ("[red]error[/red] " ++ report.text))

/-- Show the value that an argument holds. The type is looked at before the bytes, and these
before the form. -/
def decode (type argument format : String) (json : Bool) : Result := do
  let kind ← kindNamed type
  let bytes ← bytesOf argument
  let form ← formNamed format
  let url := kind.url?.getD ""
  match Value.decode form kind bytes with
  | .error (.invalid reason) => .error (.value reason)
  | .error (.decode fault) => printReport json fault.report
  | .ok value =>
    if json then
      printJson (.record [("ok", .bool true), ("type", .text url), ("value", value.view)])
    else printed 0 (Display.table? url (Display.rows "" value.view))

/-- Put the value that an argument holds into another form. -/
def convert (type argument source target : String) : Result := do
  let kind ← kindNamed type
  let bytes ← bytesOf argument
  let form ← formNamed source
  match Value.decode form kind bytes with
  | .error (.invalid reason) => .error (.value reason)
  | .error (.decode fault) => printReport false fault.report
  | .ok value =>
    match ← formNamed target with
    | .compact =>
      let bytes ← (Compact.encodeChecked value.kind value.content).mapError .value
      return ⟨0, [toHex0x bytes]⟩
    | .tagged => return ⟨0, [toHex0x ((Tagged.encode? value).getD [])]⟩

/-- A path without parts that lead nowhere. -/
def plainPath (path : String) : String :=
  let parts := (path.splitOn "/").filter fun part => part ≠ "" ∧ part ≠ "."
  let root :=
    if path.startsWith "//" && !path.startsWith "///" then "//"
    else if path.startsWith "/" then "/"
    else ""
  let plain := root ++ "/".intercalate parts
  if plain = "" then "." else plain

/-- The content of the file at a path. -/
def contentAt (files : Files) (path : String) : Except Stop Bytes :=
  if path.toList.any fun char => char.toNat = 0 then .error .cutPath
  else if !Text.isWhole path then .error .brokenPath
  else
    match files (plainPath path) with
    | some (.file content) => .ok content
    | some .directory => refuse ("file " ++ Text.quoted path ++ " is a directory.")
    | none => refuse ("file " ++ Text.quoted path ++ " does not exist.")

/-- Show the commitment of the roster in a file. -/
def commitment (path : String) (content : Bytes) (json : Bool) : Result := do
  let roster ← (RosterFile.read content).mapError .roster
  let hash := toHex0x roster.commitment.bytes
  let total := toString roster.total
  if json then
    printJson (.record [("commitment", .text hash), ("validators", .nat roster.size),
      ("total_stake", .text total)])
  else
    printed 0 (Display.panel? (plainPath path)
      [("commitment", hash), ("validators", toString roster.size), ("total_stake", total)])

/-- Show a configuration. -/
def showConfig (config : Config) (json : Bool) : Result :=
  if config.toDatum.hasLongNumber then .error (.value .longNumber)
  else if json then printJson config.toDatum
  else printed 0 (Display.table? (programName ++ " config") (Display.rows "" config.toDatum))

/-- The commands. -/
inductive Command where
  | decode
  | convert
  | commitment
  | config
deriving DecidableEq

namespace Command

/-- All commands. -/
def all : List Command := [decode, convert, commitment, config]

/-- The name of a command. -/
def name : Command → String
  | decode => "decode"
  | convert => "convert"
  | commitment => "commitment"
  | config => "config"

/-- The command with a name. -/
def ofName? (name : String) : Option Command := all.find? fun command => command.name = name

/-- The option that asks for help. -/
def helpOption : OptionSpec := ⟨"help", none, false⟩

/-- The option that asks for JSON. -/
def jsonOption : OptionSpec := ⟨"json", none, false⟩

/-- The options of a command. -/
def options : Command → List OptionSpec
  | decode => [⟨"format", some 'f', true⟩, jsonOption, helpOption]
  | convert => [⟨"from", none, true⟩, ⟨"to", none, true⟩, helpOption]
  | commitment | config => [jsonOption, helpOption]

/-- The options in front of a command. -/
def commonOptions : List OptionSpec := [⟨"version", some 'V', false⟩, helpOption]

/-- Run a command with its arguments. That arguments are missing is found before that there are
too many. -/
def run (command : Command) (config : Config) (files : Files) (arguments : Arguments) : Result :=
  let json := arguments.has "json"
  let option (name standard : String) := (arguments.value? name).getD standard
  let compact := Form.compact.name
  let tagged := Form.tagged.name
  let missing : Result := .error (.usage .missingArgument)
  let extra : Result := .error (.usage .extraArgument)
  match command, arguments.rest with
  | .decode, [type, argument] => Cli.decode type argument (option "format" compact) json
  | .decode, _ :: _ :: _ => extra
  | .decode, _ => missing
  | .convert, [type, argument] =>
    Cli.convert type argument (option "from" compact) (option "to" tagged)
  | .convert, _ :: _ :: _ => extra
  | .convert, _ => missing
  | .commitment, path :: others => do
    let content ← contentAt files path
    if others.isEmpty then Cli.commitment path content json else extra
  | .commitment, [] => missing
  | .config, [] => showConfig config json
  | .config, _ => extra

end Command

/-- An end at once, without output. -/
def silent : Result := .ok ⟨0, []⟩

/-- Take the arguments of a command apart. -/
def argumentsOf (specs : List OptionSpec) (between : Bool) (arguments : List String) :
    Except Stop Arguments :=
  (OptionSpec.read specs between arguments).mapError .usage

/-- The fault of a name that no command has. What looks like an option may be no option either. -/
def unknownCommand (name : String) (rest : List String) : Result := do
  if OptionSpec.isOption name then
    let _ ← argumentsOf Command.commonOptions false (name :: rest)
  throw (.usage .noSuchCommand)

/-- The program. The command is looked up first, then the configuration is loaded, and only then
are the command's own arguments taken apart. -/
def run (environment : Environment) (files : Files) (arguments : List String) : Result := do
  if arguments.isEmpty then throw (.usage .noArguments)
  let common ← argumentsOf Command.commonOptions false arguments
  let printVersion : Result := .ok ⟨0, [programName ++ " " ++ version]⟩
  if common.has Command.helpOption.name then silent
  else
    match common.rest with
    | [] => if common.has "version" then printVersion else silent
    | name :: rest =>
      match Command.ofName? name with
      | none => unknownCommand name rest
      | some command =>
        if common.has "version" then printVersion
        else
          let config ← (Config.load environment).mapError .config
          let arguments ← argumentsOf command.options true rest
          if arguments.has Command.helpOption.name then silent
          else command.run config files arguments

end Finality.Cli
