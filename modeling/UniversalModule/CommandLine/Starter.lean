import UniversalModule.Path

/-!
The project file that is used when no other is named, and what a new one says.
-/

namespace UniversalModule.CommandLine

def projectFile : Path := ⟨"umdsmith.yaml"⟩

def starterLines : List String :=
  ["# umdsmith project file",
    "",
    "compilerOptions:",
    "  filename: dist/bt.js      # Output file",
    "  coreFilename: lib/bt.js   # Core runtime library",
    "  exportName: BT            # Global name and core constructor",
    "  exportAliases: []         # Extra export names",
    "  scopeTemplates: true      # Wrap each template in its own function",
    "  sourceMap: false          # Append an inline source map",
    "  coreOptions: \x7b\x7d           # Passed to setOptions",
    "  requires: \x7b\x7d",
    "  # requires:",
    "  #   jquery:",
    "  #     globals: jQuery",
    "  #     ym: jquery",
    "  #   lodash:",
    "  #     commonJS: lodash"]

/-- A project file with the defaults spelled out. -/
def starterText : Text := starterLines.flatMap fun line => line.toList ++ ['\n']

end UniversalModule.CommandLine
