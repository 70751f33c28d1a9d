import Shading.Path

/-!
# The command line

A call names a mode and one program file. Options may stand anywhere after the mode, as `--name value`,
`--name=value`, `-n value` or `-nvalue`; the last of a repeated option counts, and `--` ends the options. Help can be
asked for before and after the mode. An output directory whose path can name nothing cannot be used.
-/

namespace Shading

/-- What a call asks for: the sources once, or anew whenever the program file changes. -/
inductive Mode where
  | once
  | watch
deriving DecidableEq

def Mode.ofWord? : String → Option Mode
  | "export" => some .once
  | "watch" => some .watch
  | _ => none

/-- The options of a call. -/
structure Options where
  outputDir : Option String
  target : String
  builder : String
  format : String
deriving DecidableEq

/-- The options when none is given. -/
def Options.standard : Options :=
  ⟨none, "es300", "build_program", "plain"⟩

/-- The names of the options, each of which takes a value. -/
inductive OptionName where
  | outputDir
  | target
  | builder
  | format
deriving DecidableEq

namespace OptionName

def ofLong? : String → Option OptionName
  | "--output-dir" => some .outputDir
  | "--target" => some .target
  | "--builder" => some .builder
  | "--format" => some .format
  | _ => none

def ofLetter? : Char → Option OptionName
  | 'o' => some .outputDir
  | 't' => some .target
  | 'b' => some .builder
  | 'f' => some .format
  | _ => none

end OptionName

/-- The options with the value of one of them replaced. -/
def Options.set (options : Options) (name : OptionName) (value : String) : Options :=
  match name with
  | .outputDir => { options with outputDir := some value }
  | .target => { options with target := value }
  | .builder => { options with builder := value }
  | .format => { options with format := value }

/-- What an argument is by itself. -/
inductive ArgumentForm where
  | endOfOptions
  | help
  | positional
  /-- An option whose value is the next argument. -/
  | option (name : OptionName)
  /-- An option that carries its value. -/
  | optionWith (name : OptionName) (value : String)
  | unknownOption
deriving DecidableEq

namespace ArgumentForm

/-- The form of an argument that starts with one dash and is no long option. -/
def ofShort : List Char → ArgumentForm
  | letter :: rest =>
    match OptionName.ofLetter? letter, rest with
    | none, _ => .unknownOption
    | some name, [] => .option name
    | some name, value => .optionWith name (String.ofList value)
  | [] => .positional

def of (argument : String) : ArgumentForm :=
  let chars := argument.toList
  match chars with
  | ['-', '-'] => .endOfOptions
  | ['-', '-', 'h', 'e', 'l', 'p'] => .help
  | '-' :: c :: rest =>
    let name := String.ofList (chars.takeWhile (· ≠ '='))
    match OptionName.ofLong? name, chars.dropWhile (· ≠ '=') with
    | some known, [] => .option known
    | some known, _ :: value => .optionWith known (String.ofList value)
    | none, _ => if c = '-' then .unknownOption else ofShort (c :: rest)
  | _ => .positional

end ArgumentForm

/-- What the arguments behind a command word say: the options, the positional arguments, and whether they ask for help. -/
structure Arguments where
  options : Options
  positional : List String
  help : Bool
deriving DecidableEq

namespace Arguments

/-- The arguments with the value of an option replaced. -/
def set (read : Arguments) (name : OptionName) (value : String) : Arguments :=
  { read with options := read.options.set name value }

/-- The arguments with further positional ones. -/
def place (read : Arguments) (positional : List String) : Arguments :=
  { read with positional := read.positional ++ positional }

/-- What is said once the arguments that are left are read too, or nothing for an unknown option or one without its
value. -/
def read? (read : Arguments) : List String → Option Arguments
  | [] => some read
  | argument :: rest =>
    match ArgumentForm.of argument with
    | .endOfOptions => some (read.place rest)
    | .help => { read with help := true }.read? rest
    | .positional => (read.place [argument]).read? rest
    | .optionWith name value => (read.set name value).read? rest
    | .option name =>
      match rest with
      | [] => none
      | value :: others => (read.set name value).read? others
    | .unknownOption => none

end Arguments

/-- A complete call. -/
structure Invocation where
  mode : Mode
  file : String
  options : Options
deriving DecidableEq

/-- What a command line asks for. -/
inductive Request where
  | help
  | run (call : Invocation)
deriving DecidableEq

namespace Request

/-- What a command word and its arguments ask for, or nothing when they cannot be used. -/
def ofCommand? (word : String) (arguments : List String) : Option Request := do
  let mode ← Mode.ofWord? word
  let read ← Arguments.read? ⟨.standard, [], false⟩ arguments
  match read.help, read.options.outputDir.any Path.hasNull, read.positional with
  | true, _, _ => return .help
  | false, false, [file] => return .run ⟨mode, file, read.options⟩
  | false, _, _ => none

/-- Only requests for help come before the command word, if there is one. -/
def isHelpOnly : List String → Bool
  | [] => true
  | argument :: rest =>
    match ArgumentForm.of argument with
    | .help => isHelpOnly rest
    | .positional | .endOfOptions => true
    | .option _ | .optionWith _ _ | .unknownOption => false

/-- What the arguments of the program ask for, or nothing when they cannot be used. -/
def ofArguments? : List String → Option Request
  | [] => none
  | "--" :: word :: arguments => ofCommand? word arguments
  | "--help" :: rest => if isHelpOnly rest then some .help else none
  | word :: arguments => ofCommand? word arguments

end Request

end Shading
