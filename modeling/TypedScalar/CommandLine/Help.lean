/-! The help text of the command line. -/

namespace TypedScalar.CommandLine

def helpLines : List String :=
  [
    "usage: colscalar [-h] --type DATA_TYPE [--cast CAST] [--describe]",
    "                 [--config CONFIG] [--log-level \x7bDEBUG,INFO,WARNING,ERROR\x7d]",
    "                 text",
    "",
    "Parse and render typed scalars",
    "",
    "positional arguments:",
    "  text                  Textual value to parse (the null token builds a null",
    "                        scalar)",
    "",
    "options:",
    "  -h, --help            show this help message and exit",
    "  --type DATA_TYPE      Data type of the value (e.g. int8, uint32, double,",
    "                        string)",
    "  --cast CAST           Cast the parsed scalar to this type before printing",
    "  --describe            Print data type, validity and value instead of the",
    "                        rendering",
    "  --config CONFIG       YAML scalar configuration file",
    "  --log-level \x7bDEBUG,INFO,WARNING,ERROR\x7d",
    "                        Logging level (default: WARNING)",
    "",
    "Examples:",
    "  # Render an int8 scalar",
    "  python -m colscalar.cli --type int8 -- -128",
    "",
    "  # Parse a double and cast it to int16",
    "  python -m colscalar.cli --type double --cast int16 42.0",
    "",
    "  # Show kind, validity and value of a null",
    "  python -m colscalar.cli --type uint8 --describe null"
  ]

/-- The help text, each line ended by a newline. -/
def help : String := String.join (helpLines.map (· ++ "\n"))

end TypedScalar.CommandLine
