import Markweave.CommandLine.Arguments

namespace Markweave.CommandLine

/-- The variable that stands in for the option of the class prefix. -/
def stylePrefixVariable : Text := "YMF_STYLE_PREFIX"

def versionLine : Text := "ymf 0.1.24\n"

/-- Lines, each with an end. -/
def page (lines : List String) : Text := lines.flatMap fun l => l.toList ++ ['\n']

/-- A page; the one on rendering shows what the variable holds. -/
def Topic.page (stylePrefix : Option Text) : Topic → Text
  | overview => CommandLine.page [
    "YMF markdown renderer - CLI",
    "",
    "Usage: ymf <COMMAND>",
    "",
    "Commands:",
    "  render  Render a markdown document to HTML",
    "  help    Print this message or the help of the given subcommand(s)",
    "",
    "Options:",
    "  -h, --help     Print help",
    "  -V, --version  Print version"]
  | render => CommandLine.page [
    "Render a markdown document to HTML",
    "",
    "Usage: ymf render [OPTIONS] [INPUT]",
    "",
    "Arguments:",
    "  [INPUT]  Markdown file to render (default: stdin)",
    "",
    "Options:",
    "  -o, --output <OUTPUT>",
    "          Write HTML to this file instead of stdout",
    "  -c, --config <CONFIG>",
    "          Path to configuration file (default: auto-discover ymf.toml)",
    "      --style-prefix <STYLE_PREFIX>",
    "          Class prefix for generated markup (overrides config) [env: " ++
      String.ofList (stylePrefixVariable ++ ['='] ++ stylePrefix.getD []) ++ "]",
    "      --app-base-var-name <APP_BASE_VAR_NAME>",
    "          Script accessor used by toggler and TOC snippets (overrides config)",
    "      --max-parsing-time-ms <MAX_PARSING_TIME_MS>",
    "          Parse time budget in milliseconds (overrides config)",
    "      --shared-ids",
    "          Number elements from the process-wide counter",
    "      --accumulate-togglers",
    "          Emit a snippet for every pair in TOGGLER.AFTER/BEFORE",
    "  -v, --verbose",
    "          Enable verbose output",
    "  -h, --help",
    "          Print help"]
  | help => CommandLine.page [
    "Print this message or the help of the given subcommand(s)",
    "",
    "Usage: ymf help [COMMAND]...",
    "",
    "Arguments:",
    "  [COMMAND]...  Print help for the subcommand(s)"]

end Markweave.CommandLine
