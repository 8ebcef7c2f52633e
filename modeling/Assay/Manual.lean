import Assay.Invocation

/-!
What the program tells about its use: the commands, and the options of each.
-/

namespace Assay

namespace Manual

structure Choice where
  name : String
  meaning : String

def Choice.placeholder (choice : Choice) : String :=
  String.ofList (choice.name.toList.map fun c => if c = '-' then '_' else c.toUpper)

def overrides (subject : Option String) : List Choice :=
  [⟨"config", "JSON configuration file (built-in defaults when omitted)"⟩,
   ⟨"subject-analyzer",
    "Path of the analyzer under evaluation [env: ANALYZER_BENCH_SUBJECT=" ++ subject.getD "" ++ "]"⟩,
   ⟨"jobs", "Worker threads (defaults to every core)"⟩,
   ⟨"timeout", "Per-invocation timeout in seconds, 0 disables"⟩,
   ⟨"output-dir", "Directory receiving the reports"⟩]

def withSuites (meaning : String) : List Choice → List Choice
  | [] => [⟨"suite", meaning⟩]
  | first :: rest => first :: ⟨"suite", meaning⟩ :: rest

def entry (name meaning : String) : String := "  " ++ name ++ "\n          " ++ meaning ++ "\n"

def Choice.entry (choice : Choice) : String :=
  Manual.entry ("    --" ++ choice.name ++ " <" ++ choice.placeholder ++ ">") choice.meaning

def helpEntry : String := entry "-h, --help" "Print help"

def page (purpose call : String) (choices : List Choice) (last : String) : String :=
  purpose ++ "\n\nUsage: analyzer-bench " ++ call ++ "\n\nOptions:\n"
    ++ String.join (choices.map Choice.entry) ++ helpEntry ++ last

def purpose : Topic → String
  | .whole => "Correctness benchmark for C/C++ static analyzers"
  | .run => "Run suites and write their reports (all suites by default)"
  | .list => "Print discovered case ids without running any analyzer"
  | .showDefaults => "Print the built-in configuration as JSON"
  | .help => "Print this message or the help of the given subcommand(s)"

def commands : List (String × Topic) :=
  [("run", .run), ("list", .list), ("default-config", .showDefaults), ("help", .help)]

def commandTable : String :=
  let width := commands.foldl (fun most command => max most command.1.length) 0
  "\n".intercalate (commands.map fun command =>
    "  " ++ command.1 ++ String.ofList (List.replicate (width - command.1.length + 2) ' ') ++ purpose command.2)

def text (subject : Option String) (topic : Topic) : String :=
  let others := overrides subject
  match topic with
  | .whole =>
    page (purpose .whole) ("[OPTIONS] [COMMAND]\n\nCommands:\n" ++ commandTable) others
      (entry "-V, --version" "Print version")
  | .run => page (purpose .run) "run [OPTIONS]" (withSuites "Suite to run; repeat for several" others) ""
  | .list => page (purpose .list) "list [OPTIONS]" (withSuites "Suite to list; repeat for several" others) ""
  | .showDefaults => page (purpose .showDefaults) "default-config [OPTIONS]" others ""
  | .help =>
    purpose .help ++ "\n\nUsage: analyzer-bench help [COMMAND]...\n\nArguments:\n"
      ++ "  [COMMAND]...  Print help for the subcommand(s)\n"

def usage : String := "Usage: analyzer-bench [OPTIONS] [COMMAND]\n"

example : Choice.placeholder ⟨"output-dir", ""⟩ = "OUTPUT_DIR" := by decide

end Manual

end Assay
