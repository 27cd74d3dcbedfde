import NativeDeps.Session

/-!
# Usage

What the program says about its own command line.
-/

namespace NativeDeps.CommandLine

def programName : String := "pijul-devenv"

def usageLines : List String :=
  [ "usage: pijul-devenv [-h] [--platform PLATFORM] [--config-dir CONFIG_DIR]",
    "                    [--work-dir WORK_DIR] [--provisioner \x7bmanifest,nix\x7d]",
    "                    [--run RUN_COMMAND] [--json] [--verbose] [--dry-run]",
    "                    \x7bresolve,render,shell,info\x7d" ]

/-- The lines that explain the command line, below those that sum it up. -/
def helpLines : List String :=
  [ "",
    "Pijul development environment - resolves native build dependencies",
    "",
    "positional arguments:",
    "  \x7bresolve,render,shell,info\x7d",
    "                        Command to execute",
    "",
    "options:",
    "  -h, --help            show this help message and exit",
    "  --platform PLATFORM   Host platform identifier or alias (default: auto-",
    "                        detect)",
    "  --config-dir CONFIG_DIR",
    "                        Directory containing environment.yaml and",
    "                        platforms.yaml",
    "  --work-dir WORK_DIR   Directory generated files are written to",
    "  --provisioner \x7bmanifest,nix\x7d",
    "                        Provisioner used by the shell command (default: from",
    "                        config)",
    "  --run RUN_COMMAND     Command to run inside the environment (shell command",
    "                        only)",
    "  --json                Print resolved dependencies as JSON (resolve command",
    "                        only)",
    "  --verbose, -v         Enable verbose output",
    "  --dry-run             Resolve and render without invoking the orchestrator",
    "",
    "Examples:",
    "  pijul-devenv resolve                  # List dependencies for this host",
    "  pijul-devenv resolve --platform darwin --json",
    "  pijul-devenv render                   # Print the nix-shell expression",
    "  pijul-devenv shell                    # Enter the environment",
    "  pijul-devenv shell --run \"cargo build\"",
    "  pijul-devenv info                     # Show environment information",
    "        " ]

def usageText : String :=
  textOfLines usageLines

def helpText : String :=
  textOfLines (usageLines ++ helpLines)

end NativeDeps.CommandLine
