/-! # Help

The texts that the program prints when it is asked how to use it. -/

namespace AutomationConfig.Usage

/-- The name and the version of the program. -/
def version : String := "nia-config 0.1.0\n"

/-- What the program does and how it is called. -/
def heading : String :=
  "Merge, finalize and validate network infrastructure automation configuration.\n\n" ++
    "Usage: nia-config [OPTIONS]\n\nOptions:\n"

/-- The help with a line for each argument. -/
def summary : String := heading ++ String.join [
  "      --config <PATH>      Config file or directory (TOML or JSON). Repeat to merge several; " ++
    "later paths override earlier ones [default: nia-config.toml]\n",
  "      --log-level <LEVEL>  Logging level (error, warn, info, debug, trace) " ++
    "[possible values: error, warn, info, debug, trace]\n",
  "      --inspect            Print the finalized configuration (credentials redacted)\n",
  "      --strict             Treat warnings (deprecated fields, overridden values) as errors\n",
  "  -h, --help               Print help (see more with '--help')\n",
  "  -V, --version            Print version\n"]

/-- The help in full. -/
def full : String := heading ++ String.join [
  "      --config <PATH>\n",
  "          Config file or directory (TOML or JSON). Repeat to merge several; " ++
    "later paths override earlier ones\n",
  "          \n          [default: nia-config.toml]\n\n",
  "      --log-level <LEVEL>\n",
  "          Logging level (error, warn, info, debug, trace).\n",
  "          \n          If omitted, `NIA_CONFIG_LOG` or a default level will be used.\n",
  "          \n          [possible values: error, warn, info, debug, trace]\n\n",
  "      --inspect\n          Print the finalized configuration (credentials redacted)\n\n",
  "      --strict\n          Treat warnings (deprecated fields, overridden values) as errors\n\n",
  "  -h, --help\n          Print help (see a summary with '-h')\n\n",
  "  -V, --version\n          Print version\n"]

end AutomationConfig.Usage
