import SamlConformance.CommandLine.Option

/-!
# Usage

What is printed instead of an answer when a command line cannot be followed, or
asks for help or the version.

## Main definitions

* `usage`: How the program is called.
* `UsageError.message`: The wording of a fault.
-/

namespace SamlConformance

namespace CommandLine

/-- The name and version of the program. -/
def version : String := "ctk 0.1.0\n"

/-- How the program is called. -/
def usage : String :=
  "ctk - SAML 2.0 IdP conformance toolkit\n\n" ++
  "Usage: ctk [OPTIONS] <COMMAND>\n\n" ++
  "Commands:\n" ++
  "  check <CAPTURES>... [--report <REPORT>]  Check captured exchanges\n" ++
  "  codes [--document <DOCUMENT>]            List the clauses that are checked\n" ++
  "  config show                              Show the configuration\n" ++
  "  help [COMMAND]...                        Print this message\n\n" ++
  "Options:\n" ++
  "  -c, --config <CONFIG>  Configuration file\n" ++
  "      --debug            Log everything\n" ++
  "  -q, --quiet            Omit violations from the report\n" ++
  "  -l, --lenient          Pass over responses with an error status\n" ++
  "  -o, --output <OUTPUT>  Output format: table or json\n" ++
  "  -h, --help             Print help\n" ++
  "  -V, --version          Print version\n"

/-- The wording of a fault. -/
def UsageError.message : UsageError → String
  | helpAsked => usage
  | versionAsked => version
  | nothingGiven => usage
  | commandMissing => "error: a command is required\n\n" ++ usage
  | commandUnknown => "error: unknown command\n\n" ++ usage
  | argumentUnknown => "error: unexpected argument\n\n" ++ usage
  | valueUnusable => "error: a value is missing or cannot be used\n\n" ++ usage
  | valueUnexpected => "error: an option takes no value\n\n" ++ usage
  | argumentRepeated => "error: an option is given twice\n\n" ++ usage
  | argumentMissing => "error: a required argument is missing\n\n" ++ usage

end CommandLine

end SamlConformance
