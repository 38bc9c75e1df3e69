import DecoratorLint.Config.Section
import DecoratorLint.Files.Collection

/-!
# Settings of a run

What the configuration file and the command line say together.  The command line
adds to the file; nothing of the file is overridden.
-/

namespace DecoratorLint

/-- What a run goes by. -/
structure Settings where
  required : List RuleSpec := []
  disable : List String := []
  exclusion : Exclusion := {}
deriving Repr, DecidableEq

namespace Settings

/-- Folders of tools and environments, which are never checked. -/
def toolDirectories : List String :=
  [".venv", "venv", "__pycache__", ".git", ".tox", "build", "dist", ".pytest_cache",
    ".ruff_cache", "node_modules", ".mypy_cache"]

/-- The settings from a configuration and from what the command line adds. -/
def merge (config : Option Config) (require : List RuleSpec) (disable exclude : List String) :
    Settings :=
  let base := config.getD {}
  { required := base.required ++ require
    disable := base.disable ++ disable
    exclusion :=
      { patterns := base.exclude ++ exclude
        directories := toolDirectories } }

end Settings

end DecoratorLint
