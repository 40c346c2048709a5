import CompilerDriver.Catalogue.Row
/-!
# The driver's own options

The data of the compiler driver's own options, in the order of their registration and in groups by what
they are about, and the table of them.
-/

namespace CompilerDriver

namespace Catalogue

/-- Positional inputs and the separator before the arguments of the program. -/
def positional : List Row :=
  [{ spelling := "<input>", generator := .made .input "<input>" },
   { spelling := "--", generator := .made .remaining "--", metaVariable := some "<arguments>",
     helpText := some "Pass the remaining arguments to the program being run" }]

/-- Help and version. -/
def helpAndVersion : List Row :=
  [{ spelling := "-help", generator := .made .flag "-help",
     helpText := some "Display available options" },
   { spelling := "-h", generator := .copied "-help", isAlias := true },
   { spelling := "--help", generator := .copied "-help", isAlias := true },
   { spelling := "-help-hidden", generator := .made .flag "-help-hidden",
     helpText := some "Display available options, including hidden options" },
   { spelling := "--help-hidden", generator := .copied "-help-hidden", isAlias := true },
   { spelling := "-version", generator := .made .flag "-version",
     helpText := some "Print version information and exit" },
   { spelling := "--version", generator := .copied "-version", isAlias := true },
   { spelling := "-v", generator := .made .flag "-v",
     helpText := some "Show commands to run and use verbose output" }]

/-- What the driver makes. -/
def modes : List Row :=
  [{ spelling := "-c", generator := .made .flag "-c", helpText := some "Emit object file(s) (-c)" },
   { spelling := "-emit-object", generator := .copied "-c", isAlias := true },
   { spelling := "-S", generator := .made .flag "-S", helpText := some "Emit assembly file(s) (-S)" },
   { spelling := "-emit-assembly", generator := .copied "-S", isAlias := true },
   { spelling := "-emit-ir", generator := .made .flag "-emit-ir",
     helpText := some "Emit LLVM IR file(s)" },
   { spelling := "-emit-bc", generator := .made .flag "-emit-bc",
     helpText := some "Emit LLVM BC file(s)" },
   { spelling := "-emit-sil", generator := .made .flag "-emit-sil",
     helpText := some "Emit canonical SIL file(s)" },
   { spelling := "-emit-silgen", generator := .made .flag "-emit-silgen",
     helpText := some "Emit raw SIL file(s)" },
   { spelling := "-emit-sib", generator := .made .flag "-emit-sib",
     helpText := some "Emit serialized AST + canonical SIL file(s)" },
   { spelling := "-emit-sibgen", generator := .made .flag "-emit-sibgen",
     helpText := some "Emit serialized AST + raw SIL file(s)" },
   { spelling := "-emit-executable", generator := .made .flag "-emit-executable",
     helpText := some "Emit a linked executable" },
   { spelling := "-emit-library", generator := .made .flag "-emit-library",
     helpText := some "Emit a linked library" },
   { spelling := "-typecheck", generator := .made .flag "-typecheck",
     helpText := some "Parse and type-check input file(s)" },
   { spelling := "-parse", generator := .made .flag "-parse", helpText := some "Parse input file(s)" },
   { spelling := "-dump-ast", generator := .made .flag "-dump-ast",
     helpText := some "Parse and type-check input file(s) and dump AST(s)" },
   { spelling := "-print-target-info", generator := .made .flag "-print-target-info",
     helpText := some
       "Print target information for the given target <triple>, such as -target x86_64-apple-macos10.9" },
   { spelling := "-scan-dependencies", generator := .made .flag "-scan-dependencies",
     helpText := some "Scan dependencies of the given Swift sources" }]

/-- Where results go. -/
def outputs : List Row :=
  [{ spelling := "-o", generator := .made .joinedOrSeparate "-o", metaVariable := some "<file>",
     helpText := some "Write output to <file>" },
   { spelling := "-emit-module", generator := .made .flag "-emit-module",
     helpText := some "Emit an importable module" },
   { spelling := "-emit-module-path", generator := .made .separate "-emit-module-path",
     metaVariable := some "<path>", helpText := some "Emit an importable module to <path>" },
   { spelling := "-emit-module-interface", generator := .made .flag "-emit-module-interface",
     helpText := some "Output module interface file" },
   { spelling := "-emit-module-interface-path",
     generator := .made .separate "-emit-module-interface-path", metaVariable := some "<path>",
     helpText := some "Output module interface file to <path>" },
   { spelling := "-emit-private-module-interface-path",
     generator := .made .separate "-emit-private-module-interface-path", metaVariable := some "<path>",
     helpText := some "Output private module interface file to <path>" },
   { spelling := "-emit-objc-header", generator := .made .flag "-emit-objc-header",
     helpText := some "Emit an Objective-C header file" },
   { spelling := "-emit-objc-header-path", generator := .made .separate "-emit-objc-header-path",
     metaVariable := some "<path>", helpText := some "Emit an Objective-C header file to <path>" },
   { spelling := "-emit-dependencies", generator := .made .flag "-emit-dependencies",
     helpText := some "Emit basic Make-compatible dependencies files" },
   { spelling := "-emit-tbd", generator := .made .flag "-emit-tbd", helpText := some "Emit a TBD file" },
   { spelling := "-emit-tbd-path", generator := .made .separate "-emit-tbd-path",
     metaVariable := some "<path>", helpText := some "Emit the TBD file to <path>" },
   { spelling := "-emit-loaded-module-trace", generator := .made .flag "-emit-loaded-module-trace",
     helpText := some "Emit a JSON file containing information about what modules were loaded" },
   { spelling := "-serialize-diagnostics", generator := .made .flag "-serialize-diagnostics",
     helpText := some "Serialize diagnostics in a binary format" },
   { spelling := "-save-optimization-record", generator := .made .flag "-save-optimization-record",
     helpText := some "Generate a YAML optimization record file" },
   { spelling := "-save-optimization-record=", generator := .made .joined "-save-optimization-record=",
     metaVariable := some "<format>",
     helpText := some "Generate an optimization record file in a specific format (default: YAML)" },
   { spelling := "-output-file-map", generator := .made .separate "-output-file-map",
     metaVariable := some "<path>", helpText := some "A file which specifies the location of outputs" },
   { spelling := "-index-store-path", generator := .made .separate "-index-store-path",
     metaVariable := some "<path>", helpText := some "Store indexing data to <path>" },
   { spelling := "-save-temps", generator := .made .flag "-save-temps",
     helpText := some "Save intermediate compilation results" }]

/-- Search paths and linking. -/
def searchAndLinking : List Row :=
  [{ spelling := "-I", generator := .made .joinedOrSeparate "-I",
     helpText := some "Add directory to the import search path" },
   { spelling := "-F", generator := .made .joinedOrSeparate "-F",
     helpText := some "Add directory to framework search path" },
   { spelling := "-L", generator := .made .joinedOrSeparate "-L",
     helpText := some "Add directory to library link search path" },
   { spelling := "-l", generator := .made .joined "-l",
     helpText := some "Specifies a library which should be linked against" },
   { spelling := "-framework", generator := .made .separate "-framework",
     helpText := some "Specifies a framework which should be linked against" },
   { spelling := "-sdk", generator := .made .separate "-sdk", metaVariable := some "<sdk>",
     helpText := some "Compile against <sdk>" },
   { spelling := "-target", generator := .made .separate "-target", metaVariable := some "<triple>",
     helpText := some "Generate code for the given target <triple>, such as x86_64-apple-macos10.9" },
   { spelling := "-resource-dir", generator := .made .separate "-resource-dir",
     metaVariable := some "</usr/lib/swift>",
     helpText := some "The directory that holds the compiler resource files" },
   { spelling := "-static-stdlib", generator := .made .flag "-static-stdlib",
     helpText := some "Statically link the Swift standard library" },
   { spelling := "-use-ld=", generator := .made .joined "-use-ld=",
     helpText := some "Specifies the flavor of the linker to be used" },
   { spelling := "-Xlinker", generator := .made .separate "-Xlinker",
     helpText := some "Specifies an option which should be passed to the linker" },
   { spelling := "-Xcc", generator := .made .separate "-Xcc", metaVariable := some "<arg>",
     helpText := some "Pass <arg> to the C/C++/Objective-C compiler" },
   { spelling := "-Xclang-linker", generator := .made .separate "-Xclang-linker", isHidden := true,
     helpText := some "Pass <arg> to Clang when invoking the linker" },
   { spelling := "-Xfrontend", generator := .made .separate "-Xfrontend", isHidden := true,
     metaVariable := some "<arg>", helpText := some "Pass <arg> to the Swift frontend" },
   { spelling := "-Xllvm", generator := .made .separate "-Xllvm", isHidden := true,
     metaVariable := some "<arg>", helpText := some "Pass <arg> to LLVM." },
   { spelling := "-import-objc-header", generator := .made .separate "-import-objc-header",
     helpText := some "Implicitly imports an Objective-C header file" }]

/-- Module configuration. -/
def moduleConfiguration : List Row :=
  [{ spelling := "-module-name", generator := .made .separate "-module-name",
     helpText := some "Name of the module to build" },
   { spelling := "-module-link-name", generator := .made .separate "-module-link-name",
     helpText := some "Library to link against when using this module" },
   { spelling := "-swift-version", generator := .made .separate "-swift-version",
     metaVariable := some "<vers>",
     helpText := some "Interpret input according to a specific Swift language version number" },
   { spelling := "-D", generator := .made .joinedOrSeparate "-D",
     helpText := some "Marks a conditional compilation flag as true" },
   { spelling := "-enable-library-evolution", generator := .made .flag "-enable-library-evolution",
     helpText := some "Build the module to allow binary-compatible library evolution" },
   { spelling := "-parse-as-library", generator := .made .flag "-parse-as-library",
     helpText := some "Parse the input file(s) as libraries, not scripts" },
   { spelling := "-parse-stdlib", generator := .made .flag "-parse-stdlib", isHidden := true,
     helpText := some "Parse the input file(s) as the Swift standard library" },
   { spelling := "-working-directory", generator := .made .separate "-working-directory",
     metaVariable := some "<path>",
     helpText := some "Resolve file paths relative to the specified directory" }]

/-- Code generation. -/
def codeGeneration : List Row :=
  [{ spelling := "-g", generator := .made .flag "-g",
     helpText := some "Emit debug info. This is the preferred setting for debugging with LLDB." },
   { spelling := "-gnone", generator := .made .flag "-gnone", helpText := some "Don't emit debug info" },
   { spelling := "-debug-info-format=", generator := .made .joined "-debug-info-format=",
     helpText := some "Specify the debug info format type to either 'dwarf' or 'codeview'" },
   { spelling := "-O", generator := .made .flag "-O", helpText := some "Compile with optimizations" },
   { spelling := "-Onone", generator := .made .flag "-Onone",
     helpText := some "Compile without any optimization" },
   { spelling := "-Osize", generator := .made .flag "-Osize",
     helpText := some "Compile with optimizations and target small code size" },
   { spelling := "-Ounchecked", generator := .made .flag "-Ounchecked",
     helpText := some "Compile with optimizations and remove runtime safety checks" },
   { spelling := "-whole-module-optimization", generator := .made .flag "-whole-module-optimization",
     helpText := some "Optimize input files together instead of individually" },
   { spelling := "-wmo", generator := .copied "-whole-module-optimization", isAlias := true },
   { spelling := "-no-whole-module-optimization",
     generator := .made .flag "-no-whole-module-optimization",
     helpText := some "Disable optimizing input files together instead of individually" },
   { spelling := "-num-threads", generator := .made .separate "-num-threads",
     metaVariable := some "<n>",
     helpText := some "Enable multi-threading and specify number of threads" },
   { spelling := "-sanitize=", generator := .made .commaJoined "-sanitize=",
     metaVariable := some "<check>", helpText := some "Turn on runtime checks for erroneous behavior." },
   { spelling := "-sanitize-coverage=", generator := .made .commaJoined "-sanitize-coverage=",
     metaVariable := some "<type>",
     helpText := some
       "Specify the type of coverage instrumentation for Sanitizers and additional options separated by commas" },
   { spelling := "-embed-bitcode", generator := .made .flag "-embed-bitcode", isHidden := true,
     helpText := some "Embed LLVM IR bitcode as data" },
   { spelling := "-enforce-exclusivity=", generator := .made .joined "-enforce-exclusivity=",
     metaVariable := some "<enforcement>", helpText := some "Enforce law of exclusivity" }]

/-- How jobs are run. -/
def orchestration : List Row :=
  [{ spelling := "-j", generator := .made .joinedOrSeparate "-j", metaVariable := some "<n>",
     helpText := some "Number of commands to execute in parallel" },
   { spelling := "-incremental", generator := .made .flag "-incremental",
     helpText := some "Perform an incremental build if possible" },
   { spelling := "-enable-batch-mode", generator := .made .flag "-enable-batch-mode",
     helpText := some "Enable combining frontend jobs into batches" },
   { spelling := "-disable-batch-mode", generator := .made .flag "-disable-batch-mode",
     helpText := some "Disable combining frontend jobs into batches" },
   { spelling := "-driver-batch-count", generator := .made .separate "-driver-batch-count",
     isHidden := true,
     helpText := some "Use the given number of batch-mode partitions, rather than partitioning dynamically" },
   { spelling := "-driver-print-jobs", generator := .made .flag "-driver-print-jobs", isHidden := true,
     helpText := some "Dump list of job which would be executed" },
   { spelling := "-###", generator := .copied "-driver-print-jobs", isAlias := true },
   { spelling := "-driver-time-compilation", generator := .made .flag "-driver-time-compilation",
     helpText := some "Prints the total time it took to execute all compilation tasks" },
   { spelling := "-parseable-output", generator := .made .flag "-parseable-output",
     helpText := some "Emit textual output in a parseable format" },
   { spelling := "-continue-building-after-errors",
     generator := .made .flag "-continue-building-after-errors",
     helpText := some "Continue building, even after errors are encountered" },
   { spelling := "-stats-output-dir", generator := .made .separate "-stats-output-dir",
     isHidden := true, helpText := some "Directory to write unified statistics-output files to" },
   { spelling := "-driver-use-frontend-path", generator := .made .separate "-driver-use-frontend-path",
     isHidden := true,
     helpText := some
       "Use the given executable to perform compilations. Arguments can be passed as a ';' separated list" },
   { spelling := "-disallow-use-new-driver", generator := .made .flag "-disallow-use-new-driver",
     isHidden := true }]

/-- Diagnostics. -/
def diagnostics : List Row :=
  [{ spelling := "-suppress-warnings", generator := .made .flag "-suppress-warnings",
     helpText := some "Suppress all warnings" },
   { spelling := "-warnings-as-errors", generator := .made .flag "-warnings-as-errors",
     helpText := some "Treat warnings as errors" },
   { spelling := "-no-warnings-as-errors", generator := .made .flag "-no-warnings-as-errors",
     helpText := some "Don't treat warnings as errors" },
   { spelling := "-color-diagnostics", generator := .made .flag "-color-diagnostics",
     helpText := some "Print diagnostics in color" },
   { spelling := "-no-color-diagnostics", generator := .made .flag "-no-color-diagnostics",
     helpText := some "Do not print diagnostics in color" },
   { spelling := "-diagnostic-style", generator := .made .separate "-diagnostic-style",
     metaVariable := some "<style>",
     helpText := some "The formatting style used when printing diagnostics ('swift' or 'llvm')" }]

/-- Every row, in the order of registration. -/
def rows : List Row :=
  positional ++ helpAndVersion ++ modes ++ outputs ++ searchAndLinking ++ moduleConfiguration
    ++ codeGeneration ++ orchestration ++ diagnostics

/-- The rows with the constructions behind their generators. -/
def lines : List Line :=
  resolveAfter [] rows

end Catalogue

/-- The table of the compiler driver's own options. -/
def driverOptions : Table Occurrence :=
  Catalogue.tableOf Catalogue.lines

end CompilerDriver
