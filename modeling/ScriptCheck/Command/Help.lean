import ScriptCheck.Command.Arguments

/-!
# Help texts
-/

namespace ScriptCheck.Command

/-- The text on a topic. -/
def HelpTopic.text : HelpTopic → String
  | .program =>
    "Usage: quill [OPTIONS] <COMMAND>\n\n" ++
    "Commands:\n" ++
    "  check  Lex, parse and bind a program, reporting any diagnostics\n" ++
    "  help   Print this message or the help of the given subcommand(s)\n\n" ++
    "Options:\n" ++
    "  -v, --verbose...  Log more. Repeat for more detail (info, debug, trace)\n" ++
    "  -h, --help        Print help\n" ++
    "  -V, --version     Print version\n"
  | .check true =>
    "Lex, parse and bind a program, reporting any diagnostics\n\n" ++
    "Usage: quill check [OPTIONS] <INPUT>\n\n" ++
    "Arguments:\n" ++
    "  <INPUT>\n" ++
    "          The input file\n\n" ++
    "Options:\n" ++
    "  -s, --source\n" ++
    "          Whether the given input should be used directly as the source instead of as the " ++
    "source file path\n\n" ++
    "  -v, --verbose...\n" ++
    "          Log more. Repeat for more detail (info, debug, trace)\n\n" ++
    "      --emit <EMIT>\n" ++
    "          Print an intermediate result to stdout\n\n" ++
    "          Possible values:\n" ++
    "          - tokens:  Every token, one per line\n" ++
    "          - ast:     The parsed module as JSON\n" ++
    "          - symbols: The symbol table as JSON\n\n" ++
    "      --color <COLOR>\n" ++
    "          When to color diagnostics\n" ++
    "          \n" ++
    "          [default: auto]\n" ++
    "          [possible values: auto, always, never]\n\n" ++
    "  -h, --help\n" ++
    "          Print help (see a summary with '-h')\n"
  | .check false =>
    "Lex, parse and bind a program, reporting any diagnostics\n\n" ++
    "Usage: quill check [OPTIONS] <INPUT>\n\n" ++
    "Arguments:\n" ++
    "  <INPUT>  The input file\n\n" ++
    "Options:\n" ++
    "  -s, --source         Whether the given input should be used directly as the source " ++
    "instead of as the source file path\n" ++
    "  -v, --verbose...     Log more. Repeat for more detail (info, debug, trace)\n" ++
    "      --emit <EMIT>    Print an intermediate result to stdout " ++
    "[possible values: tokens, ast, symbols]\n" ++
    "      --color <COLOR>  When to color diagnostics [default: auto] " ++
    "[possible values: auto, always, never]\n" ++
    "  -h, --help           Print help (see more with '--help')\n"
  | .help =>
    "Print this message or the help of the given subcommand(s)\n\n" ++
    "Usage: quill help [COMMAND]...\n\n" ++
    "Arguments:\n" ++
    "  [COMMAND]...  Print help for the subcommand(s)\n"

/-- The name of the program and its version. -/
def versionText : String := "quill_cli 0.1.0\n"

end ScriptCheck.Command
