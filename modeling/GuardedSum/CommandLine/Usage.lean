import GuardedSum.Text.Control

namespace GuardedSum.CommandLine

inductive Page where
  | program
  | run
  | standalone (name : String)
  | help
  deriving DecidableEq

def lines (ls : List String) : String :=
  .join (ls.map (· ++ "\n"))

namespace Page

def verboseLine : String :=
  "  -v, --verbose  Log at debug level when RUST_LOG is not set. Logs go to stderr"

def helpLine : String :=
  "  -h, --help     Print help"

def runText (name : String) : String :=
  lines
    ["(default) Run the program and print its output",
      "",
      "Usage: " ++ name ++ " [OPTIONS]",
      "",
      "Options:",
      verboseLine,
      helpLine]

def text : Page → String
  | program =>
    lines
      ["Command line runner for the testcfg program.",
        "",
        "Usage: testcfg [OPTIONS]",
        "       testcfg <COMMAND>",
        "",
        "Commands:",
        "  run   (default) Run the program and print its output",
        "  help  Print this message or the help of the given subcommand(s)",
        "",
        "Options:",
        verboseLine,
        helpLine,
        "  -V, --version  Print version"]
  | run => runText "testcfg run"
  | standalone name => runText (Text.withoutControls .string name)
  | help =>
    lines
      ["Print this message or the help of the given subcommand(s)",
        "",
        "Usage: testcfg help [COMMAND]...",
        "",
        "Arguments:",
        "  [COMMAND]...  Print help for the subcommand(s)"]

end Page

def versionText : String :=
  lines ["testcfg 0.1.0"]

inductive Choice where
  | verbose
  | injectFault
  deriving DecidableEq

def Choice.name : Choice → String
  | verbose => "--verbose"
  | injectFault => "--inject-fault <MESSAGE>"

inductive UsageError where
  | unknownArgument (argument : String)
  | unknownSubcommand (word : String)
  -- A word that would have to be a subcommand, after options that exclude one.
  | excludedSubcommand (word : String) (given : List Choice)
  | repeated (choice : Choice)
  | missingValue (choice : Choice)
  | needlessValue (flag value : String)
  deriving DecidableEq

-- The message of an error. What was given stands in it without what a terminal could act on.
def UsageError.message (medium : Text.Medium) (e : UsageError) : String :=
  let inQuotes s := "'" ++ Text.withoutControls medium s ++ "'"
  "error: " ++
    match e with
    | unknownArgument a => "unexpected argument " ++ inQuotes a ++ " found"
    | unknownSubcommand w => "unrecognized subcommand " ++ inQuotes w
    | excludedSubcommand w given =>
      "the subcommand " ++ inQuotes w ++ " cannot be used with" ++
        match given with
        | [] => " one or more of the other specified arguments"
        | [c] => " " ++ inQuotes c.name
        | _ => ":"
    | repeated c => "the argument " ++ inQuotes c.name ++ " cannot be used multiple times"
    | missingValue c =>
      "a value is required for " ++ inQuotes c.name ++ " but none was supplied"
    | needlessValue f v =>
      "unexpected value " ++ inQuotes v ++ " for " ++ inQuotes f ++ " found; no more were expected"

end GuardedSum.CommandLine
