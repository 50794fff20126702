import SerialIsp.CommandLine.Desk

/-!
# Wording

What a person is told when a command was not understood or has failed, and how much of what
a command tells about its doings is shown.
-/

namespace SerialIsp.CommandLine

/-- A parameter as it is written on a command line. -/
def Parameter.usage (p : Parameter) : String :=
  let letter := p.short.elim "" fun c => "-" ++ c.toString ++ ", "
  letter ++ "--" ++ p.name ++ (if p.kind.isSome then " <" ++ p.name ++ ">" else "")

/-- How a command is called: a line with its arguments, then its options and subcommands. -/
def Grammar.usage (g : Grammar) : List String :=
  let places := g.positionals.map fun p =>
    if p.required then " <" ++ p.name ++ ">" else " [" ++ p.name ++ "]"
  let commands := g.commands.map (·.name)
  let command := if commands.isEmpty then "" else " <command>"
  ["Usage: " ++ g.name ++ " [options]" ++ String.join places ++ command, "Options:"] ++
    g.options.map (fun p => "  " ++ p.usage) ++
    (if commands.isEmpty then [] else "Commands:" :: commands.map ("  " ++ ·))

/-- What is wrong with the arguments. -/
def UsageFault.message : UsageFault → String
  | .help => "help was asked for"
  | .version _ => "the version was asked for"
  | .nothingGiven => "nothing was given"
  | .subcommandMissing => "a command is missing"
  | .subcommandUnknown => "there is no such command"
  | .argumentUnknown => "an argument is not known"
  | .argumentMissing => "an argument is missing"
  | .valueMissing => "an option needs a value"
  | .valueInvalid => "a value cannot be read"
  | .valueExcess => "a flag takes no value"
  | .repeated => "an option was given twice"

/-- Why a command failed, in lines. -/
def RunFault.lines : RunFault → List String
  | .failure cause =>
    ("Error: " ++ cause.message) :: cause.chain.map ("  because: " ++ ·) ++
      cause.help.toList.map ("  help: " ++ ·) ++ ["  code: " ++ cause.code]
  | .config fault => ["Error: " ++ fault.message]
  | .imageOutput path fault =>
    ["Error: Failed to write image to " ++ path, "  because: " ++ fault.message]

/-- The log level in force where none is given. -/
def defaultLevel : String := "info"

/-- The rank of the least important notices that a log level shows. -/
def shownRank : String → Nat
  | "warn" => Importance.warning.rank
  | "info" => Importance.info.rank
  | "debug" | "trace" => Importance.debug.rank
  | _ => 0

/-- The notices that a log level shows, in words. -/
def Desk.shown (d : Desk) (level : String) : List String :=
  (d.notices.toList.filter fun n => n.importance.rank ≤ shownRank level).map Notice.text

end SerialIsp.CommandLine
