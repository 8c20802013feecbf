/-!
# Command-line arguments

An option is written with two dashes and a name or with one dash and a letter. A value
follows as the next argument, or in the same one: after an equals sign, or right after the
letter. Letters of options without values can share one dash. Whatever follows `--` is
no option.
-/

namespace Finality

/-- Why the arguments of a command are refused. -/
inductive UsageFault where
  /-- There are no arguments. -/
  | noArguments
  /-- There is no such command. -/
  | noSuchCommand
  /-- There is no such option. -/
  | noSuchOption
  /-- An option lacks its value, or has one and takes none. -/
  | optionValue
  /-- An argument is missing. -/
  | missingArgument
  /-- There are too many arguments. -/
  | extraArgument
  /-- An argument or option has a value that is no good. -/
  | badValue (message : String)

/-- The text of a fault. -/
def UsageFault.message : UsageFault → String
  | noArguments => "a command is needed"
  | noSuchCommand => "there is no such command"
  | noSuchOption => "there is no such option"
  | optionValue => "an option lacks its value or takes none"
  | missingArgument => "an argument is missing"
  | extraArgument => "there are too many arguments"
  | badValue message => message

/-- An option that a command takes. -/
structure OptionSpec where
  name : String
  letter : Option Char
  takesValue : Bool

/-- Arguments, taken apart. -/
structure Arguments where
  /-- The options and their values, in order. Options without values have the empty one. -/
  options : List (String × String)
  /-- The other arguments. -/
  rest : List String

namespace Arguments

/-- Whether an option is given. -/
def has (arguments : Arguments) (name : String) : Bool :=
  arguments.options.any fun option => option.1 = name

/-- The value of an option. The last one given counts. -/
def value? (arguments : Arguments) (name : String) : Option String :=
  arguments.options.reverse.lookup name

/-- Arguments with one more option in front. -/
def withOption (arguments : Arguments) (name value : String) : Arguments :=
  { arguments with options := (name, value) :: arguments.options }

/-- Arguments with more options in front. -/
def withOptions (arguments : Arguments) (options : List (String × String)) : Arguments :=
  { arguments with options := options ++ arguments.options }

/-- Arguments with one more that is no option in front. -/
def withArgument (arguments : Arguments) (argument : String) : Arguments :=
  { arguments with rest := argument :: arguments.rest }

end Arguments

namespace OptionSpec

/-- What one argument says: options with their values, and the option whose value is the next
argument. -/
abbrev Reading := Except UsageFault (List (String × String) × Option String)

/-- The options of a cluster of letters after one dash. -/
def readLetters (specs : List OptionSpec) : List Char → Reading
  | [] => .ok ([], none)
  | letter :: rest =>
    match specs.find? fun spec => spec.letter = some letter with
    | none => .error .noSuchOption
    | some spec =>
      if spec.takesValue then
        if rest.isEmpty then .ok ([], some spec.name)
        else .ok ([(spec.name, String.ofList rest)], none)
      else
        (readLetters specs rest).map fun (options, awaiting) =>
          ((spec.name, "") :: options, awaiting)

/-- The option of a long name, with the value after the equals sign if there is one. -/
def readLong (specs : List OptionSpec) (chars : List Char) : Reading :=
  let name := String.ofList (chars.takeWhile (· ≠ '='))
  match specs.find? fun spec => spec.name = name with
  | none => .error .noSuchOption
  | some spec =>
    match chars.dropWhile (· ≠ '='), spec.takesValue with
    | [], true => .ok ([], some spec.name)
    | [], false => .ok ([(spec.name, "")], none)
    | _ :: value, true => .ok ([(spec.name, String.ofList value)], none)
    | _ :: _, false => .error .optionValue

/-- Whether an argument is an option. -/
def isOption (argument : String) : Bool :=
  match argument.toList with
  | '-' :: _ :: _ => true
  | _ => false

/-- The options of an argument. -/
def readArgument (specs : List OptionSpec) (argument : String) : Reading :=
  match argument.toList with
  | '-' :: '-' :: chars => readLong specs chars
  | chars => readLetters specs chars.tail

/-- Take arguments apart. Options may stand between other arguments, or else the first of these
ends them. -/
def read (specs : List OptionSpec) (between : Bool) :
    List String → Except UsageFault Arguments
  | [] => .ok ⟨[], []⟩
  | argument :: rest =>
    if argument = "--" then .ok ⟨[], rest⟩
    else if isOption argument then
      match readArgument specs argument with
      | .error fault => .error fault
      | .ok (options, none) => (read specs between rest).map (·.withOptions options)
      | .ok (options, some name) =>
        match rest with
        | [] => .error .optionValue
        | value :: rest =>
          (read specs between rest).map fun arguments =>
            (arguments.withOption name value).withOptions options
    else if between then (read specs between rest).map (·.withArgument argument)
    else .ok ⟨[], argument :: rest⟩

end OptionSpec

end Finality
