import ForwardingProxy.CommandLine.Command

/-!
Contract: which words and options the tool understands.

Owns: `Grammar`, with the grammar of the tool on its own and that of the tool as a word of a build
tool's command line.

Does not own: how arguments are read by a grammar; see `CommandLine.Reading`.
-/

namespace ForwardingProxy.CommandLine

/-- What an option does. -/
inductive OptionKind where
  /-- Is given without a value, once at most. -/
  | flag
  /-- Takes a value, once at most. -/
  | single
  /-- Takes a value each time it is given. -/
  | repeated
  /-- Asks for help and nothing else. -/
  | help
  /-- Asks for the version and nothing else. -/
  | version
deriving DecidableEq, Repr

/-- Whether options of that kind take a value. -/
def OptionKind.takesValue : OptionKind → Bool
  | .single | .repeated => true
  | .flag | .help | .version => false

/-- An option with its name after `--` and its letter after `-`. -/
structure OptionRule where
  name : String
  letter : Option Char
  kind : OptionKind
deriving DecidableEq, Repr

/-- The options that were given, by name and in order, with values; a flag has the empty one. -/
abbrev Given := List (String × String)

/-- Whether an option was given. -/
def Given.has (given : Given) (name : String) : Bool :=
  given.any fun entry => entry.1 == name

/-- All values of an option. -/
def Given.all (given : Given) (name : String) : List String :=
  (given.filter fun entry => entry.1 == name).map Prod.snd

/-- The value of an option that is given once at most. -/
def Given.value? (given : Given) (name : String) : Option String :=
  given.lookup name

/-- What may follow the words that lead to a point of the command line. -/
inductive Grammar where
  /-- One of several words, each with what may follow it. -/
  | choice (hasVersion : Bool) (choices : List (List String × Grammar))
  /-- The options of a command. -/
  | command (hasVersion : Bool) (options : List OptionRule) (make : Given → Command)

namespace Grammar

/-- The option that asks for help. -/
def helpRule : OptionRule := ⟨"help", some 'h', .help⟩

/-- The option that asks for the version. -/
def versionRule : OptionRule := ⟨"version", some 'V', .version⟩

/-- The options that every command has. -/
def commonOptions (hasVersion : Bool) : List OptionRule :=
  if hasVersion then [helpRule, versionRule] else [helpRule]

/-- The options that may be given. -/
def options : Grammar → List OptionRule
  | choice hasVersion _ => commonOptions hasVersion
  | command hasVersion options _ => options ++ commonOptions hasVersion

/-- The words that may come next, with their aliases. -/
def choices : Grammar → List (List String × Grammar)
  | choice _ choices => choices
  | command _ _ _ => []

/-- Whether one of several words has to follow. -/
def needsWord : Grammar → Bool
  | choice _ _ => true
  | command _ _ _ => false

/-- What may follow a word. -/
def after? (grammar : Grammar) (word : String) : Option Grammar :=
  (grammar.choices.find? fun entry => entry.1.contains word).map Prod.snd

/-- The option of that name. -/
def named? (grammar : Grammar) (name : String) : Option OptionRule :=
  grammar.options.find? fun rule => rule.name == name

/-- The option of that letter. -/
def lettered? (grammar : Grammar) (letter : Char) : Option OptionRule :=
  grammar.options.find? fun rule => rule.letter == some letter

/-- The `generate` command. -/
def generate (hasVersion : Bool) : Grammar :=
  .command hasVersion
    [⟨"src", some 's', .repeated⟩, ⟨"out", some 'o', .single⟩, ⟨"config", some 'c', .single⟩,
      ⟨"stdout", none, .flag⟩, ⟨"allow-errors", none, .flag⟩]
    fun given => .generate {
      sourceDirs := given.all "src"
      outputDirectory := given.value? "out"
      configFile := given.value? "config"
      printsFile := given.has "stdout"
      allowsErrors := given.has "allow-errors" }

/-- The `analyze` command. -/
def analyze (hasVersion : Bool) : Grammar :=
  .command hasVersion
    [⟨"src", some 's', .repeated⟩, ⟨"config", some 'c', .single⟩, ⟨"json", some 'j', .flag⟩]
    fun given => .analyze {
      sourceDirs := given.all "src"
      configFile := given.value? "config"
      asJson := given.has "json" }

/-- The `init` command. -/
def init (hasVersion : Bool) : Grammar :=
  .command hasVersion
    [⟨"cwd", none, .single⟩, ⟨"force", some 'f', .flag⟩]
    fun given => .init {
      directory := given.value? "cwd"
      overwrites := given.has "force" }

/-- The choice between the three commands; they know the version only if it is asked of them. -/
def commands (commandsHaveVersion : Bool) : Grammar :=
  .choice true [
    (["generate", "g"], generate commandsHaveVersion),
    (["analyze", "a"], analyze commandsHaveVersion),
    (["init"], init commandsHaveVersion)]

/-- The command line of the tool. -/
def tool : Grammar := commands false

/-- The command line of the build tool that knows this tool by its name. -/
def buildTool : Grammar :=
  .choice true [(["proxygen"], commands true)]

end Grammar

end ForwardingProxy.CommandLine
