import FunctionHost.Bytes
/-!
# The options of the program

Every option has a word, and some have a letter.  An option may have a value; one that has none is
a flag.  The help text lists them all.
-/
namespace FunctionHost.Cli

/-- **An option of the program.** -/
inductive Switch where
  /-- Where the settings file is. -/
  | config
  /-- Whether the journal is printed as documents. -/
  | logJson
  /-- What to run. -/
  | invoke
  /-- What to hand to what is run. -/
  | payload
  /-- Whether to show what the options are. -/
  | help
  /-- Whether to show which version this is. -/
  | version
  deriving DecidableEq, Repr, Inhabited

namespace Switch

/-- All options, in the order in which the help text lists them. -/
def all : List Switch := [.config, .logJson, .invoke, .payload, .help, .version]

/-- The word of an option, without its dashes. -/
def word : Switch → String
  | .config => "config"
  | .logJson => "log-json"
  | .invoke => "invoke"
  | .payload => "payload"
  | .help => "help"
  | .version => "version"

/-- The letter of an option, if it has one. -/
def letter? : Switch → Option Char
  | .config => some 'c'
  | .help => some 'h'
  | .version => some 'V'
  | .logJson | .invoke | .payload => none

/-- What the value of an option is called, if it has one. -/
def value? : Switch → Option String
  | .config => some "CONFIG"
  | .invoke => some "MODULE.ENTRYPOINT"
  | .payload => some "PAYLOAD"
  | .logJson | .help | .version => none

/-- What an option is for. -/
def purpose : Switch → String
  | .config => "Path to the TOML configuration file"
  | .logJson => "Emit logs as JSON"
  | .invoke => "Run one entrypoint and exit, as `module.entrypoint`"
  | .payload => "Payload for `--invoke`"
  | .help => "Print help"
  | .version => "Print version"

/-- The option of a word. -/
def ofWord? (word : String) : Option Switch := all.find? (·.word = word)

/-- The option of a letter. -/
def ofLetter? (letter : Char) : Option Switch := all.find? (·.letter? = some letter)

/-- An option and its value, as texts show them. -/
def shown (s : Switch) : String :=
  "--" ++ s.word ++
    match s.value? with
    | none => ""
    | some value => " <" ++ value ++ ">"

/-- An option with its letter, as the help text shows it. -/
def listed (s : Switch) : String :=
  match s.letter? with
  | none => "    " ++ s.shown
  | some letter => String.ofList ['-', letter, ',', ' '] ++ s.shown

end Switch

/-! ## What the program says about itself -/

/-- The name of the program. -/
def programName : String := "capsule"

/-- The environment variable that stands in for the option that names the settings file. -/
def configVariable : String := "CAPSULE_CONFIG"

/-- The environment variable that says what of the journal is shown. -/
def filterVariable : String := "RUST_LOG"

/-- The version, as the program shows it. -/
def versionText : String := programName ++ " 0.1.0\n"

/-- How the program is called. -/
def usage : String := "Usage: " ++ programName ++ " [OPTIONS]"

/-- The columns that the help text leaves for the options. -/
def optionColumns : Nat := 34

/-- What the help text adds to the purpose of an option: where else its value comes from, given what
is there now. -/
def remark (fallback : Option String) : Switch → String
  | .config => " [env: " ++ configVariable ++ "=" ++ fallback.getD "" ++ "]"
  | .payload => " [default: ]"
  | .logJson | .invoke | .help | .version => ""

/-- The line of the help text for an option. -/
def helpLine (fallback : Option String) (s : Switch) : String :=
  "  " ++ s.listed ++ String.ofList (List.replicate (optionColumns - s.listed.length) ' ')
    ++ s.purpose ++ remark fallback s ++ "\n"

/-- **The help text**, given what the environment says about the settings file. -/
def helpText (fallback : Option String) : String :=
  "Pooled WebAssembly function host\n\n" ++ usage ++ "\n\nOptions:\n"
    ++ String.join (Switch.all.map (helpLine fallback))

end FunctionHost.Cli
