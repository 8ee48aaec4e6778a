import ForwardingProxy.CommandLine.Grammar

/-!
Contract: arguments read by a grammar.

Owns: `UsageError` and `read`, which turns arguments into a command or says why they are none.

The value of an option stands in the same argument or is the next argument that does not begin
with `-`; a lone `-` counts as a value. An option without a value, with an empty one or given too
often is noticed when the next option is reached or the arguments end; an unknown option or a
stray word is noticed at once. After `--` no argument is an option.
-/

namespace ForwardingProxy.CommandLine

/-- Why arguments give no command. -/
inductive UsageError where
  | helpAsked
  | versionAsked
  /-- The words end before a command is chosen. -/
  | commandMissing
  | commandUnknown
  | argumentUnknown
  /-- An option without a value, or with an empty one. -/
  | valueMissing
  /-- A value for an option that takes none. -/
  | valueUnexpected
  | givenTwice
deriving DecidableEq, Repr

/-- The options read so far, and the one that was read last while its value may still come. -/
structure Reading where
  given : Given
  pending : Option (OptionRule × Option String)

namespace Reading

/-- Before anything is read. -/
def start : Reading := ⟨[], none⟩

/-- Whether the next argument can be the value of an option. -/
def awaitsValue (reading : Reading) : Bool :=
  match reading.pending with
  | some (_, none) => true
  | _ => false

/-- Adds an option with the value it has, if any. -/
def add (rule : OptionRule) (value : Option String) (given : Given) : Except UsageError Given :=
  match rule.kind, value with
  | .help, _ => .error .helpAsked
  | .version, _ => .error .versionAsked
  | .flag, _ => if given.has rule.name then .error .givenTwice else .ok (given ++ [(rule.name, "")])
  | .single, none | .repeated, none => .error .valueMissing
  | .single, some text =>
      if given.has rule.name then .error .givenTwice
      else if text.isEmpty then .error .valueMissing
      else .ok (given ++ [(rule.name, text)])
  | .repeated, some text =>
      if text.isEmpty then .error .valueMissing else .ok (given ++ [(rule.name, text)])

/-- The options given, with the last one among them. -/
def settle (reading : Reading) : Except UsageError Given :=
  match reading.pending with
  | none => .ok reading.given
  | some (rule, value) => add rule value reading.given

/-- Reads an option together with its value, if it has one. -/
def complete
    (rule : OptionRule)
    (value : Option String)
    (reading : Reading) : Except UsageError Reading := do
  let given ← reading.settle
  let extended ← add rule value given
  pure ⟨extended, none⟩

/-- Reads an option whose value may come. -/
def await (rule : OptionRule) (reading : Reading) : Except UsageError Reading := do
  let given ← reading.settle
  pure ⟨given, some (rule, none)⟩

/-- Takes an argument as the value that is awaited. -/
def supply (value : String) (reading : Reading) : Reading :=
  { reading with pending := reading.pending.map fun entry => (entry.1, some value) }

/-- Reads an option that takes a value, with the text that follows it in its argument. -/
def takeValue
    (rule : OptionRule)
    (value : Option String)
    (reading : Reading) : Except UsageError Reading :=
  match value with
  | none => await rule reading
  | some text => complete rule (some text) reading

/-- Reads an option that is named, with the text after `=`. -/
def named
    (grammar : Grammar)
    (name : String)
    (value : Option String)
    (reading : Reading) : Except UsageError Reading :=
  match grammar.named? name with
  | none => .error .argumentUnknown
  | some rule =>
      if rule.kind.takesValue then takeValue rule value reading
      else if value.isSome then .error .valueUnexpected
      else complete rule none reading

/-- The value in the rest of an argument after an option's letter; `=` may stand before it. -/
def attachedValue? : List Char → Option String
  | [] => none
  | '=' :: value => some (String.ofList value)
  | value => some (String.ofList value)

/-- Reads options by their letters; one that takes a value has the rest of the letters as it. -/
def lettered (grammar : Grammar) : List Char → Reading → Except UsageError Reading
  | [], reading => .ok reading
  | letter :: rest, reading =>
      match grammar.lettered? letter with
      | none => .error .argumentUnknown
      | some rule =>
          if rule.kind.takesValue then takeValue rule (attachedValue? rest) reading
          else do
            let extended ← complete rule none reading
            lettered grammar rest extended

end Reading

/-- A text cut at its first `=`. -/
def cutAtEquals (text : List Char) : String × Option String :=
  match text.dropWhile (· != '=') with
  | [] => (String.ofList text, none)
  | _ :: value => (String.ofList (text.takeWhile (· != '=')), some (String.ofList value))

/-- Follows the words after `help`, each of which has to lead on. -/
def askHelp : Grammar → List String → UsageError
  | _, [] => .helpAsked
  | grammar, word :: rest =>
      match grammar.after? word with
      | some next => askHelp next rest
      | none =>
          if grammar.needsWord && word == "help" && rest.isEmpty then .helpAsked
          else .commandUnknown

/-- What the arguments give once all are read. -/
def finish (grammar : Grammar) (reading : Reading) : Except UsageError Command := do
  let given ← reading.settle
  match grammar with
  | .choice _ _ => .error .commandMissing
  | .command _ _ make => pure (make given)

/-- Reads what follows `--`; no command takes such arguments. -/
def readTrailing
    (grammar : Grammar)
    (reading : Reading) : List String → Except UsageError Command
  | [] => finish grammar reading
  | word :: _ =>
      if grammar.needsWord && word != "help" && (grammar.after? word).isNone then
        .error .commandUnknown
      else .error .argumentUnknown

/-- Refuses a word that neither leads on nor is a value. -/
def stray (grammar : Grammar) : UsageError :=
  if grammar.needsWord then .commandUnknown else .argumentUnknown

/-- Reads one argument that is no word of the grammar; `none` stands for `--`. -/
def readArgument
    (grammar : Grammar)
    (argument : List Char)
    (reading : Reading) : Except UsageError (Option Reading) :=
  match argument with
  | ['-', '-'] => .ok none
  | '-' :: '-' :: text =>
      let (name, value) := cutAtEquals text
      (reading.named grammar name value).map some
  | '-' :: letter :: letters => (reading.lettered grammar (letter :: letters)).map some
  | value =>
      if reading.awaitsValue then .ok (some (reading.supply (String.ofList value)))
      else .error (stray grammar)

/-- Reads arguments from some point of the grammar on. -/
def readFrom (grammar : Grammar) (reading : Reading) : List String → Except UsageError Command
  | [] => finish grammar reading
  | argument :: rest =>
      if !reading.awaitsValue && grammar.needsWord && argument == "help" then
        .error (askHelp grammar rest)
      else
        match if reading.awaitsValue then none else grammar.after? argument with
        | some next => readFrom next reading rest
        | none =>
            match readArgument grammar argument.toList reading with
            | .error error => .error error
            | .ok (some extended) => readFrom grammar extended rest
            | .ok none => readTrailing grammar reading rest

/-- The command that arguments ask for; the first argument is the name of the program. -/
def read (grammar : Grammar) (arguments : List String) : Except UsageError Command :=
  readFrom grammar .start (arguments.drop 1)

end ForwardingProxy.CommandLine
