import SerialIsp.Text.Literal
import SerialIsp.CommandLine.Config

/-!
# Command line grammars

A command has options, which open with dashes and may stand anywhere, and either positional
arguments in a fixed order or subcommands. What follows a subcommand belongs to it.

The value of an option, and a positional argument, is looked at only when the next argument
has shown that nothing more belongs to it, or at the end. A subcommand is completed before
what is still open in the command it belongs to. This order decides which of several faults
is reported.
-/

namespace SerialIsp.CommandLine

/-- Why arguments were not taken. The first two are no faults but requests. -/
inductive UsageFault where
  | help
  /-- The version, of the command with this title. -/
  | version (title : String)
  /-- Nothing was given to a command with subcommands. -/
  | nothingGiven
  | subcommandMissing
  | subcommandUnknown
  | argumentUnknown
  | argumentMissing
  /-- An option needs a value, or must not be empty. -/
  | valueMissing
  /-- A value that cannot be read. -/
  | valueInvalid
  /-- A flag takes no value. -/
  | valueExcess
  /-- An option was given twice. -/
  | repeated
  deriving DecidableEq, Repr

/-- What values are. -/
inductive ValueKind where
  | text
  | path
  /-- A number of 32 bits, in any notation of a literal. -/
  | word
  /-- A number of 32 bits in decimal. -/
  | decimalWord
  /-- A number of 64 bits in decimal. -/
  | decimalLong
  /-- One of these words. A word in any mixture of cases is taken where `anyCase` is set. -/
  | oneOf (words : List String) (anyCase : Bool)
  deriving DecidableEq, Repr

/-- A decimal number of 32 bits. Either sign is read, so that minus zero is zero. -/
def decimalWord? (s : String) : Option UInt32 :=
  match s.toList with
  | '-' :: digits =>
    match Text.readDigits 10 Text.limit64 0 digits with
    | .ok 0 => if digits.isEmpty then none else some 0
    | _ => none
  | cs => (Text.readNumber 10 Text.limit32 cs).toOption.map Nat.toUInt32

/-- A decimal number of 64 bits. -/
def decimalLong? (s : String) : Option Nat := (Text.readNumber 10 Text.limit64 s.toList).toOption

/-- A number of 32 bits in any notation of a literal. -/
def word? (s : String) : Option UInt32 := (Text.readWord s).toOption

/-- A word in small letters. -/
def lowerCase (s : String) : String := String.ofList (s.toList.map Char.toLower)

/-- Whether a value is of a kind. -/
def ValueKind.check (kind : ValueKind) (value : String) : Except UsageFault Unit :=
  let valid (ok : Bool) : Except UsageFault Unit := if ok then .ok () else .error .valueInvalid
  match kind with
  | .text => .ok ()
  | .path => if value.isEmpty then .error .valueMissing else .ok ()
  | .word => valid (word? value).isSome
  | .decimalWord => valid (decimalWord? value).isSome
  | .decimalLong => valid (decimalLong? value).isSome
  | .oneOf words anyCase => valid (words.contains (if anyCase then lowerCase value else value))

/-- An option or a positional argument. -/
structure Parameter where
  /-- The name, which for an option stands behind two dashes. -/
  name : String
  /-- What its value is; a flag has none. -/
  kind : Option ValueKind
  /-- The letter behind one dash. -/
  short : Option Char := none
  /-- The environment variable that stands in for it. -/
  environmentName : Option String := none
  /-- Whether a positional argument has to be given. -/
  required : Bool := false
  deriving Repr

/-- A command. -/
inductive Grammar where
  | command (name : String) (options positionals : List Parameter) (commands : List Grammar)
  deriving Repr

namespace Grammar

/-- The command's name. -/
def name : Grammar → String
  | .command name .. => name

/-- What opens with dashes. -/
def options : Grammar → List Parameter
  | .command _ options .. => options

/-- What stands by its place. -/
def positionals : Grammar → List Parameter
  | .command _ _ positionals _ => positionals

/-- The subcommands. -/
def commands : Grammar → List Grammar
  | .command _ _ _ commands => commands

/-- The subcommand of a name. -/
def find? (g : Grammar) (name : String) : Option Grammar := g.commands.find? (·.name = name)

/-- The subcommand that every command with subcommands has beside its own. -/
def helpName : String := "help"

/-- Whether a word names a subcommand. -/
def knows (g : Grammar) (word : String) : Bool :=
  (g.find? word).isSome || (!g.commands.isEmpty && word = helpName)

end Grammar

/-- A command whose arguments are being read. -/
structure Level where
  grammar : Grammar
  /-- The names of the commands down to this one, joined. -/
  title : String
  /-- Whether the version can be asked for. -/
  versioned : Bool
  /-- What was taken, by parameter; a flag has an empty value. -/
  values : List (String × String) := []
  /-- The parameter whose value is not taken yet, and that value as far as it was given. -/
  pending : Option (Parameter × Option String) := none
  /-- Positional arguments so far. -/
  placed : Nat := 0
  /-- Whether two dashes alone have put an end to options. -/
  optionsEnded : Bool := false

namespace Level

/-- Takes a value for a parameter, or a flag, which has an empty one. -/
def take (l : Level) (p : Parameter) (value : String) : Except UsageFault Level := do
  if (l.values.lookup p.name).isSome then throw .repeated
  if let some kind := p.kind then kind.check value
  return { l with values := l.values ++ [(p.name, value)] }

/-- Takes what is pending. -/
def settle (l : Level) : Except UsageFault Level :=
  match l.pending with
  | none => .ok l
  | some (_, none) => .error .valueMissing
  | some (p, some value) => { l with pending := none }.take p value

/-- Waits for the value of an option. -/
def await (l : Level) (p : Parameter) : Except UsageFault Level := do
  return { ← l.settle with pending := some (p, none) }

/-- Answers a request in place of going on. -/
def request (l : Level) (fault : UsageFault) : Except UsageFault Level := do
  let _ ← l.settle
  throw fault

/-- Reads an option by its name, with the value after its equals sign if there is one. -/
def long (l : Level) (name : String) (value : Option String) : Except UsageFault Level := do
  match l.grammar.options.find? (·.name = name), value with
  | some p, some value =>
    if p.kind.isNone then throw .valueExcess
    (← l.settle).take p value
  | some p, none => if p.kind.isNone then (← l.settle).take p "" else l.await p
  | none, value =>
    if name = "help" ∨ (name = "version" ∧ l.versioned) then
      if value.isSome then throw .valueExcess
      l.request (if name = "help" then .help else .version l.title)
    else throw .argumentUnknown

/-- Reads letters behind one dash: flags, and last an option, whose value may follow at once
    with or without an equals sign. -/
def short (l : Level) : List Char → Except UsageFault Level
  | [] => .ok l
  | c :: rest =>
    match l.grammar.options.find? (·.short = some c) with
    | some p =>
      if p.kind.isNone then do short (← (← l.settle).take p "") rest
      else
        match rest with
        | [] => l.await p
        | '=' :: value => do (← l.settle).take p (String.ofList value)
        | value => do (← l.settle).take p (String.ofList value)
    | none =>
      if c = 'h' then l.request .help
      else if c = 'V' ∧ l.versioned then l.request (.version l.title)
      else .error .argumentUnknown

/-- Puts an argument in the next place. -/
def place (l : Level) (argument : String) : Except UsageFault Level :=
  match l.grammar.positionals[l.placed]? with
  | some p => do
    return { ← l.settle with pending := some (p, some argument), placed := l.placed + 1 }
  | none =>
    if l.grammar.commands.isEmpty ∨ (l.optionsEnded ∧ l.grammar.knows argument) then
      .error .argumentUnknown
    else .error .subcommandUnknown

/-- The option that waits for its value, while options have not ended. -/
def awaiting? (l : Level) : Option Parameter :=
  match l.pending, l.optionsEnded with
  | some (p, none), false => some p
  | _, _ => none

/-- Reads an argument that is no subcommand. -/
def read (l : Level) (argument : String) : Except UsageFault Level :=
  if l.optionsEnded then l.place argument
  else
    match argument.toList with
    | ['-', '-'] => .ok { l with optionsEnded := true }
    | '-' :: '-' :: option =>
      let name := String.ofList (option.takeWhile (· ≠ '='))
      match option.dropWhile (· ≠ '=') with
      | [] => l.long name none
      | _ :: value => l.long name (some (String.ofList value))
    | '-' :: c :: letters => l.short (c :: letters)
    | _ =>
      match l.awaiting? with
      | some p => .ok { l with pending := some (p, some argument) }
      | none => l.place argument

/-- Takes what the environment sets and the arguments do not. -/
def takeVariables (l : Level) (env : Environment) : Except UsageFault Level :=
  l.grammar.options.foldlM (fun l p =>
    match p.environmentName.bind fun name => env.lookup name with
    | some value => if (l.values.lookup p.name).isSome then .ok l else l.take p value
    | none => .ok l) l

/-- Ends a command, which has been followed by a `subcommand` or not. -/
def finish (l : Level) (env : Environment) (subcommand : Bool) : Except UsageFault Level := do
  let l ← (← l.settle).takeVariables env
  if !subcommand && !l.grammar.commands.isEmpty then
    throw (if l.values.isEmpty then .nothingGiven else .subcommandMissing)
  if l.grammar.positionals.any fun p => p.required && (l.values.lookup p.name).isNone then
    throw .argumentMissing
  return l

/-- The subcommand an argument calls. While an option waits for its value, and once options
    have ended, none is called. -/
def call? (l : Level) (argument : String) : Option Grammar :=
  if l.optionsEnded || l.awaiting?.isSome then none else l.grammar.find? argument

end Level

/-- What was given on a command line: the subcommands in order, and the values by
    parameter. -/
structure Given where
  path : List String
  values : List (String × String)
  deriving Repr

namespace Given

/-- The text given for a parameter. -/
def text? (g : Given) (name : String) : Option String := g.values.lookup name

/-- The text given for a parameter, or a default. -/
def text (g : Given) (name : String) (default : String) : String := (g.text? name).getD default

/-- Whether a flag was given. -/
def flag (g : Given) (name : String) : Bool := (g.text? name).isSome

/-- The number given for a parameter that has one. -/
def word (g : Given) (name : String) : UInt32 := ((g.text? name).bind word?).getD 0

end Given

/-- What asking for help on a subcommand comes to. -/
def helpOn (g : Grammar) : List String → UsageFault
  | [] => .help
  | name :: rest =>
    match g.find? name with
    | some sub => helpOn sub rest
    | none =>
      if g.knows name ∧ rest.isEmpty then .help else .subcommandUnknown

/-- Ends the commands, innermost first. -/
def finishAll (env : Environment) (subcommand : Bool) : List Level → Except UsageFault Given
  | [] => .ok { path := [], values := [] }
  | l :: outer => do
    let l ← l.finish env subcommand
    let given ← finishAll env true outer
    return { path := given.path ++ [l.grammar.name], values := l.values ++ given.values }

/-- Reads arguments for the command of `l`, which was called from the commands `outer`. -/
def readArguments (env : Environment) (l : Level) (outer : List Level) :
    List String → Except UsageFault Given
  | [] => finishAll env false (l :: outer)
  | argument :: rest =>
    match l.call? argument with
    | some sub =>
      readArguments env
        { grammar := sub, title := l.title ++ "-" ++ sub.name, versioned := l.versioned }
        (l :: outer) rest
    | none =>
      if argument = Grammar.helpName ∧ l.grammar.knows argument ∧ !l.optionsEnded ∧
          l.awaiting?.isNone then
        .error (helpOn l.grammar rest)
      else do readArguments env (← l.read argument) outer rest

/-- Reads the arguments of a command. -/
def Grammar.parse (g : Grammar) (versioned : Bool) (env : Environment) (arguments : List String) :
    Except UsageFault Given :=
  readArguments env { grammar := g, title := g.name, versioned } [] arguments

end SerialIsp.CommandLine
