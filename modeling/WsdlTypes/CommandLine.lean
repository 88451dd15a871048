import WsdlTypes.Config.Read
import WsdlTypes.Export
import WsdlTypes.Summary
/-!
# The command line

The words of a command line name one document and say how to resolve it and what to write.
They are read from the front to the back, and the first one that does not fit is what is
wrong; asking for the version or for help ends the reading where it stands. Options on the
command line count more than those in a configuration file.
-/

namespace WsdlTypes.CommandLine

/-- How results are written. -/
inductive Format where
  | json
  | summary
deriving DecidableEq, Repr

/-- The name of a format. -/
def Format.label : Format → String
  | json => "json"
  | summary => "summary"

/-- The format of a name. -/
def Format.ofLabel? (text : String) : Option Format :=
  [json, summary].find? fun format => format.label = text

/-- The options that are followed by a value. -/
inductive Setting where
  | config
  | soapVersion
  | valueName
  | separator
  | format
deriving DecidableEq, Repr

namespace Setting

/-- The option as it is written. -/
def label : Setting → String
  | config => "--config"
  | soapVersion => "--soap-version"
  | valueName => "--empty-parameter-name"
  | separator => "--namespace-separator"
  | format => "--format"

/-- The option that is written so. -/
def ofLabel? (word : String) : Option Setting :=
  [config, soapVersion, valueName, separator, format].find? fun setting => setting.label = word

/-- Whether a value can be that of the option. -/
def accepts (setting : Setting) (value : String) : Bool :=
  match setting with
  | config => !value.isEmpty
  | soapVersion => (SoapVersion.ofLabel? value).isSome
  | format => (Format.ofLabel? value).isSome
  | valueName | separator => true

end Setting

/-- The options that stand alone. -/
inductive Switch where
  | doctypes
  | flat
  | strict
deriving DecidableEq, Repr

namespace Switch

/-- The option as it is written. -/
def label : Switch → String
  | doctypes => "--allow-dtd"
  | flat => "--flat-namespaces"
  | strict => "--strict"

/-- The option that is written so. -/
def ofLabel? (word : String) : Option Switch :=
  [doctypes, flat, strict].find? fun choice => choice.label = word

end Switch

/-- What a command line asks for. -/
structure Request where
  input : String
  settings : List (Setting × String) := []
  switches : List Switch := []
deriving DecidableEq, Repr

/-- Why a command line cannot be understood. -/
inductive UsageError where
  | noInput
  | unexpected (word : String)
  | repeated (option : String)
  | noValue (option : String)
  | badValue (option value : String)
deriving DecidableEq, Repr

/-- The error in words. -/
def UsageError.message : UsageError → String
  | noInput => "the source to resolve is missing"
  | unexpected word => "unexpected argument '" ++ word ++ "'"
  | repeated option => "the option '" ++ option ++ "' is given twice"
  | noValue option => "the option '" ++ option ++ "' needs a value"
  | badValue option value => "the option '" ++ option ++ "' cannot be '" ++ value ++ "'"

/-- What comes of reading a command line. -/
inductive Reading where
  | request (request : Request)
  | version
  | help
  | mistaken (e : UsageError)
deriving DecidableEq, Repr

/-- What was read so far. -/
structure Words where
  input : Option String := none
  settings : List (Setting × String) := []
  switches : List Switch := []

namespace Words

/-- Takes a word that is no option. -/
def takeInput (words : Words) (word : String) : Except UsageError Words :=
  match words.input with
  | none => .ok { words with input := some word }
  | some _ => .error (.unexpected word)

/-- Takes an option with its value. -/
def takeSetting (words : Words) (setting : Setting) (value : String) : Except UsageError Words :=
  if (words.settings.lookup setting).isSome then .error (.repeated setting.label)
  else if !setting.accepts value then .error (.badValue setting.label value)
  else .ok { words with settings := words.settings ++ [(setting, value)] }

/-- Takes an option that stands alone. -/
def takeSwitch (words : Words) (choice : Switch) : Except UsageError Words :=
  if choice ∈ words.switches then .error (.repeated choice.label)
  else .ok { words with switches := words.switches ++ [choice] }

/-- What was asked for when all words were read. -/
def request (words : Words) : Reading :=
  match words.input with
  | some input => .request { input, settings := words.settings, switches := words.switches }
  | none => .mistaken .noInput

end Words

/-- Goes on with what was read, unless a word did not fit. -/
def proceed (result : Except UsageError Words) (next : Words → Reading) : Reading :=
  match result with
  | .ok words => next words
  | .error e => .mistaken e

/-- Whether a word is an option and not a value; a dash alone is a value. -/
def isOption (word : String) : Bool := word.startsWith "-" && word != "-"

/-- What a cluster of options of one letter asks for: its first letter decides. -/
def readShort (word : String) : Reading :=
  match word.toList with
  | '-' :: 'V' :: _ => .version
  | '-' :: 'h' :: _ => .help
  | _ => .mistaken (.unexpected word)

/-- Reads the words behind two dashes, none of which is an option. -/
def readInputs (words : Words) : List String → Reading
  | [] => words.request
  | word :: rest => proceed (words.takeInput word) (readInputs · rest)

/-- Reads an option that has its value in the same word, behind an equals sign. -/
def takeAssigned (words : Words) (name value : String) : Except UsageError Words :=
  match Setting.ofLabel? name with
  | some setting => words.takeSetting setting value
  | none => .error (.unexpected (name ++ "=" ++ value))

/-- Reads words behind those that were read. -/
def readWords (words : Words) : List String → Reading
  | [] => words.request
  | "--" :: rest => readInputs words rest
  | "--version" :: _ => .version
  | "--help" :: _ => .help
  | word :: rest =>
    if !isOption word then proceed (words.takeInput word) (readWords · rest)
    else if !word.startsWith "--" then readShort word
    else
      match Text.splitOnce? '=' word.toList with
      | some (name, value) =>
        proceed (takeAssigned words (String.ofList name) (String.ofList value))
          (readWords · rest)
      | none =>
        match Switch.ofLabel? word, Setting.ofLabel? word, rest with
        | some choice, _, rest => proceed (words.takeSwitch choice) (readWords · rest)
        | none, some setting, value :: rest =>
          -- A word with a dash is taken for the next option, not for a value.
          if isOption value then .mistaken (.noValue word)
          else proceed (words.takeSetting setting value) (readWords · rest)
        | none, some _, [] => .mistaken (.noValue word)
        | none, none, _ => .mistaken (.unexpected word)

/-- Reads the words of a command line. -/
def read (words : List String) : Reading := readWords {} words

namespace Request

/-- The value of an option. -/
def setting? (request : Request) (setting : Setting) : Option String :=
  request.settings.lookup setting

/-- Whether an option that stands alone is there. -/
def has (request : Request) (choice : Switch) : Bool := choice ∈ request.switches

/-- The options of a configuration with those of the command line put over them. -/
def override (request : Request) (config : Config) : Config where
  hierarchical := config.hierarchical && !request.has .flat
  valueName := (request.setting? .valueName).getD config.valueName
  separator := (request.setting? .separator).getD config.separator
  soapVersion := ((request.setting? .soapVersion).bind SoapVersion.ofLabel?).getD
    config.soapVersion
  doctypes := config.doctypes || request.has .doctypes

/-- The options to resolve with: those of a configuration file, if one is named, with those of
the command line put over them. -/
def config (request : Request) (tree : File.Tree) : Except ConfigError Config :=
  match request.setting? .config with
  | some path => (Config.read tree path).map request.override
  | none => .ok (request.override {})

/-- The format to write results in. -/
def format (request : Request) : Format :=
  ((request.setting? .format).bind Format.ofLabel?).getD .json

end Request

/-- Why nothing was resolved. -/
inductive Failure where
  | usage (e : UsageError)
  | config (e : ConfigError)
  | load (input : String) (e : LoadError)
deriving DecidableEq, Repr

/-- What a run writes, and with which status it ends. -/
structure Output where
  status : Nat := 0
  out : String := ""
  err : String := ""
deriving DecidableEq, Repr

/-- A text whose lines behind the first one are indented. -/
def indentRest (width : Nat) (text : String) : String :=
  Text.join ("\n" ++ String.ofList (List.replicate width ' '))
    ((Text.segments '\n' text.toList).map String.ofList)

/-- What failed and the chain of what caused it; causes are numbered where there are more than
one. -/
def chain (context : String) (causes : List String) : String :=
  let written : List String :=
    match causes with
    | [cause] => ["    " ++ indentRest 4 cause]
    | _ => causes.mapIdx fun n cause => "    " ++ toString n ++ ": " ++ indentRest 7 cause
  "Error: " ++ context ++ "\n\nCaused by:\n" ++ String.join (written.map (· ++ "\n"))

namespace Failure

/-- The failure in words. -/
def message : Failure → String
  | usage e => "error: " ++ e.message ++ "\n\nFor more information, try '--help'.\n"
  | config e => chain "failed to load the resolver configuration" [e.message, e.cause]
  | load input e => chain ("failed to resolve " ++ input) (e.message :: e.causes)

/-- The status that a run ends with. -/
def status : Failure → Nat
  | usage _ => 2
  | config _ | load .. => 1

/-- What a run writes that fails. -/
def output (failure : Failure) : Output := { status := failure.status, err := failure.message }

end Failure

/-- The version of this program, as it is written. -/
def versionText : String := "wsdl-resolver 0.1.0\n"

/-- How to use this program. -/
def helpText : String :=
  "Resolves WSDL documents and their XML schemas into a type and operation model\n\n"
    ++ "Usage: wsdl-resolver [OPTIONS] <INPUT>\n\n"
    ++ "Arguments:\n"
    ++ "  <INPUT>  The WSDL or XSD source file or URL\n\n"
    ++ "Options:\n"
    ++ "      --config <CONFIG>                Read resolver options from a TOML file\n"
    ++ "      --soap-version <SOAP_VERSION>    SOAP version of the service bindings [1.1, 1.2]\n"
    ++ "      --allow-dtd                      Allow a document type definition to occur\n"
    ++ "      --flat-namespaces                Put every type into the root namespace\n"
    ++ "      --empty-parameter-name <NAME>    Name of the value of simple-content types\n"
    ++ "      --namespace-separator <TEXT>     Separator between namespace segments\n"
    ++ "      --format <FORMAT>                Format of the results [json, summary]\n"
    ++ "      --strict                         Fail if any diagnostic was recorded\n"
    ++ "  -h, --help                           Print help\n"
    ++ "  -V, --version                        Print version\n"

/-- Texts, each on a line of its own. -/
def linesOf (texts : List String) : String := String.join (texts.map (· ++ "\n"))

/-- What is written of a resolution. -/
def report (request : Request) (naming : Naming) (resolution : Resolution) : Output where
  status := if request.has .strict && !resolution.diagnostics.isEmpty then 1 else 0
  out :=
    match request.format with
    | .json => linesOf [resolution.json.render]
    | .summary => linesOf (resolution.summary naming)
  err := linesOf (resolution.diagnostics.map Diagnostic.render)

/-- Does what is asked for. -/
def fulfil (request : Request) (tree : File.Tree) : Except Failure Output := do
  let config ← (request.config tree).mapError .config
  let resolution ← (resolve config tree request.input).mapError (.load request.input)
  return report request config.naming resolution

/-- Does what a command line asks for. -/
def execute (words : List String) (tree : File.Tree) : Except Failure Output :=
  match read words with
  | .request request => fulfil request tree
  | .version => .ok { out := versionText }
  | .help => .ok { out := helpText }
  | .mistaken e => .error (.usage e)

/-- What a command line writes. -/
def run (words : List String) (tree : File.Tree) : Output :=
  match execute words tree with
  | .ok output => output
  | .error failure => failure.output

end WsdlTypes.CommandLine
