/-!
# File types

The kinds of file that a compiler driver reads or writes. A file type has three texts with three uses:
`raw` names an output file when nothing else does and is shared by some types, `name` is the
stable identifier and belongs to one type only, and `description` is for people. Three predicates sort
the types: input of a compilation, readable text, and product of code generation.
-/

namespace CompilerDriver

/-- A kind of file known to the driver, in the order of the listing. -/
inductive FileType where
  /-- Swift source. -/
  | swift
  /-- Canonical SIL text. -/
  | sil
  /-- Canonical serialized SIL. -/
  | sib
  /-- Raw (pre-mandatory-pass) SIL text. -/
  | rawSil
  /-- Raw serialized SIL. -/
  | rawSib
  /-- Linked executable or library. -/
  | image
  /-- Compiled object file. -/
  | object
  /-- Debug symbol bundle. -/
  | dSym
  /-- Make-style dependency listing. -/
  | dependencies
  /-- Autolink entries extracted from objects. -/
  | autolink
  /-- Serialized Swift module. -/
  | swiftModule
  /-- Serialized module documentation. -/
  | swiftDocumentation
  /-- Public textual module interface. -/
  | swiftInterface
  /-- Private textual module interface. -/
  | privateSwiftInterface
  /-- Package-scoped textual module interface. -/
  | packageSwiftInterface
  /-- Serialized source location info. -/
  | swiftSourceInfoFile
  /-- Target assembly. -/
  | assembly
  /-- LLVM IR text. -/
  | llvmIr
  /-- LLVM bitcode. -/
  | llvmBitcode
  /-- Serialized diagnostics. -/
  | diagnostics
  /-- Serialized diagnostics of the module-emission job. -/
  | emitModuleDiagnostics
  /-- Dependency listing of the module-emission job. -/
  | emitModuleDependencies
  /-- Generated Objective-C header. -/
  | objcHeader
  /-- Incremental build dependency graph. -/
  | swiftDeps
  /-- Loaded-module trace. -/
  | moduleTrace
  /-- Fix-it remapping file. -/
  | remap
  /-- List of imported modules. -/
  | importedModules
  /-- Text-based dynamic library stub. -/
  | tbd
  /-- Precompiled Clang module. -/
  | pcm
  /-- Precompiled Clang header. -/
  | pch
  /-- Clang module map. -/
  | clangModuleMap
  /-- AST dump. -/
  | ast
  /-- Index store directory. -/
  | indexData
  /-- Path recorded in index units in place of the real output. -/
  | indexUnitOutputPath
  /-- Scanned module dependency graph. -/
  | jsonDependencies
  /-- Target information. -/
  | jsonTargetInfo
  /-- Compiler feature list. -/
  | jsonCompilerFeatures
  /-- Supported frontend feature list. -/
  | jsonSupportedFeatures
  /-- Module artifact listing. -/
  | jsonSwiftArtifacts
  /-- API digester baseline. -/
  | jsonApiBaseline
  /-- ABI digester baseline. -/
  | jsonAbiBaseline
  /-- API descriptor. -/
  | jsonApiDescriptor
  /-- Extracted compile-time constant values. -/
  | swiftConstValues
  /-- YAML optimization record. -/
  | yamlOptimizationRecord
  /-- Bitstream optimization record. -/
  | bitstreamOptimizationRecord
  /-- Module summary for cross-module optimization. -/
  | moduleSummary
  /-- Module dependency scanner cache. -/
  | modDepCache
  /-- Cached diagnostics from a compilation cache replay. -/
  | cachedDiagnostics
  deriving DecidableEq, Repr, Inhabited

namespace FileType

/-- Every file type, in order. -/
def all : List FileType :=
  [.swift, .sil, .sib, .rawSil, .rawSib, .image, .object, .dSym, .dependencies, .autolink,
   .swiftModule, .swiftDocumentation, .swiftInterface, .privateSwiftInterface,
   .packageSwiftInterface, .swiftSourceInfoFile, .assembly, .llvmIr, .llvmBitcode, .diagnostics,
   .emitModuleDiagnostics, .emitModuleDependencies, .objcHeader, .swiftDeps, .moduleTrace,
   .remap, .importedModules, .tbd, .pcm, .pch, .clangModuleMap, .ast, .indexData,
   .indexUnitOutputPath, .jsonDependencies, .jsonTargetInfo, .jsonCompilerFeatures,
   .jsonSupportedFeatures, .jsonSwiftArtifacts, .jsonApiBaseline, .jsonAbiBaseline,
   .jsonApiDescriptor, .swiftConstValues, .yamlOptimizationRecord, .bitstreamOptimizationRecord,
   .moduleSummary, .modDepCache, .cachedDiagnostics]

/-- The token that names an output file of this type when no other convention applies. -/
def raw : FileType → String
  | .swift => "swift"
  | .sil => "sil"
  | .sib => "sib"
  | .rawSil => "sil"
  | .rawSib => "sib"
  | .image => "out"
  | .object => "o"
  | .dSym => "dSYM"
  | .dependencies => "d"
  | .autolink => "autolink"
  | .swiftModule => "swiftmodule"
  | .swiftDocumentation => "swiftdoc"
  | .swiftInterface => "swiftinterface"
  | .privateSwiftInterface => "private.swiftinterface"
  | .packageSwiftInterface => "package.swiftinterface"
  | .swiftSourceInfoFile => "swiftsourceinfo"
  | .assembly => "s"
  | .llvmIr => "ll"
  | .llvmBitcode => "bc"
  | .diagnostics => "dia"
  | .emitModuleDiagnostics => "emit-module.dia"
  | .emitModuleDependencies => "emit-module.d"
  | .objcHeader => "h"
  | .swiftDeps => "swiftdeps"
  | .moduleTrace => "trace.json"
  | .remap => "remap"
  | .importedModules => "importedmodules"
  | .tbd => "tbd"
  | .pcm => "pcm"
  | .pch => "pch"
  | .clangModuleMap => "modulemap"
  | .ast => "ast"
  | .indexData => "indexdata"
  | .indexUnitOutputPath => "indexunitoutputpath"
  | .jsonDependencies => "dependencies.json"
  | .jsonTargetInfo => "targetInfo.json"
  | .jsonCompilerFeatures => "compilerFeatures.json"
  | .jsonSupportedFeatures => "supportedFeatures.json"
  | .jsonSwiftArtifacts => "artifacts.json"
  | .jsonApiBaseline => "api.json"
  | .jsonAbiBaseline => "abi.json"
  | .jsonApiDescriptor => "apidescriptor.json"
  | .swiftConstValues => "swiftconstvalues"
  | .yamlOptimizationRecord => "opt.yaml"
  | .bitstreamOptimizationRecord => "opt.bitstream"
  | .moduleSummary => "swiftmodulesummary"
  | .modDepCache => "moduledepcache"
  | .cachedDiagnostics => "cached-diagnostics"

/-- The stable identifier of the type, which no other type has. -/
def name : FileType → String
  | .swift => "swift"
  | .sil => "sil"
  | .sib => "sib"
  | .rawSil => "raw-sil"
  | .rawSib => "raw-sib"
  | .image => "image"
  | .object => "object"
  | .dSym => "dSYM"
  | .dependencies => "dependencies"
  | .autolink => "autolink"
  | .swiftModule => "swiftmodule"
  | .swiftDocumentation => "swiftdoc"
  | .swiftInterface => "swiftinterface"
  | .privateSwiftInterface => "private-swiftinterface"
  | .packageSwiftInterface => "package-swiftinterface"
  | .swiftSourceInfoFile => "swiftsourceinfo"
  | .assembly => "assembly"
  | .llvmIr => "llvm-ir"
  | .llvmBitcode => "llvm-bc"
  | .diagnostics => "diagnostics"
  | .emitModuleDiagnostics => "emit-module-diagnostics"
  | .emitModuleDependencies => "emit-module-dependencies"
  | .objcHeader => "objc-header"
  | .swiftDeps => "swift-dependencies"
  | .moduleTrace => "module-trace"
  | .remap => "remap"
  | .importedModules => "imported-modules"
  | .tbd => "tbd"
  | .pcm => "pcm"
  | .pch => "pch"
  | .clangModuleMap => "modulemap"
  | .ast => "ast-dump"
  | .indexData => "index-data"
  | .indexUnitOutputPath => "index-unit-output-path"
  | .jsonDependencies => "json-dependencies"
  | .jsonTargetInfo => "json-target-info"
  | .jsonCompilerFeatures => "json-compiler-features"
  | .jsonSupportedFeatures => "json-supported-features"
  | .jsonSwiftArtifacts => "json-module-artifacts"
  | .jsonApiBaseline => "api-baseline-json"
  | .jsonAbiBaseline => "abi-baseline-json"
  | .jsonApiDescriptor => "api-descriptor-json"
  | .swiftConstValues => "const-values"
  | .yamlOptimizationRecord => "yaml-opt-record"
  | .bitstreamOptimizationRecord => "bitstream-opt-record"
  | .moduleSummary => "swift-module-summary"
  | .modDepCache => "module-dependency-cache"
  | .cachedDiagnostics => "cached-diagnostics"

/-- The label shown to people. -/
def description : FileType → String
  | .swift => "swift"
  | .sil => "sil"
  | .sib => "sib"
  | .rawSil => "raw SIL"
  | .rawSib => "raw SIB"
  | .image => "linked image"
  | .object => "object file"
  | .dSym => "dSYM"
  | .dependencies => "make-style dependencies"
  | .autolink => "autolink"
  | .swiftModule => "swiftmodule"
  | .swiftDocumentation => "swiftdoc"
  | .swiftInterface => "swiftinterface"
  | .privateSwiftInterface => "private.swiftinterface"
  | .packageSwiftInterface => "package.swiftinterface"
  | .swiftSourceInfoFile => "swiftsourceinfo"
  | .assembly => "assembly source"
  | .llvmIr => "LLVM IR"
  | .llvmBitcode => "LLVM bitcode"
  | .diagnostics => "serialized diagnostics"
  | .emitModuleDiagnostics => "emit-module serialized diagnostics"
  | .emitModuleDependencies => "emit-module dependencies"
  | .objcHeader => "Objective-C header"
  | .swiftDeps => "swiftdeps"
  | .moduleTrace => "module trace"
  | .remap => "remap"
  | .importedModules => "importedmodules"
  | .tbd => "tbd"
  | .pcm => "pcm"
  | .pch => "pch"
  | .clangModuleMap => "modulemap"
  | .ast => "AST dump"
  | .indexData => "index data"
  | .indexUnitOutputPath => "index unit output path"
  | .jsonDependencies => "dependency scan graph"
  | .jsonTargetInfo => "target info"
  | .jsonCompilerFeatures => "compiler features"
  | .jsonSupportedFeatures => "supported features"
  | .jsonSwiftArtifacts => "module artifacts"
  | .jsonApiBaseline => "API baseline"
  | .jsonAbiBaseline => "ABI baseline"
  | .jsonApiDescriptor => "API descriptor"
  | .swiftConstValues => "swiftconstvalues"
  | .yamlOptimizationRecord => "YAML optimization record"
  | .bitstreamOptimizationRecord => "bitstream optimization record"
  | .moduleSummary => "swiftmodulesummary"
  | .modDepCache => "dependency scanner cache"
  | .cachedDiagnostics => "cached diagnostics"

/-- Whether a compilation of Swift code accepts files of this type as input. -/
def isCompilationInput : FileType → Bool
  | .swift | .sil | .sib | .rawSil | .rawSib => true
  | _ => false

/-- Whether files of this type are text that people can read. -/
def isTextual : FileType → Bool
  | .swift | .sil | .rawSil | .dependencies | .autolink | .swiftInterface
  | .privateSwiftInterface | .packageSwiftInterface | .assembly | .llvmIr
  | .emitModuleDependencies | .objcHeader | .moduleTrace | .remap | .importedModules | .tbd
  | .clangModuleMap | .ast | .jsonDependencies | .jsonTargetInfo | .jsonCompilerFeatures
  | .jsonSupportedFeatures | .jsonSwiftArtifacts | .jsonApiBaseline | .jsonAbiBaseline
  | .jsonApiDescriptor | .swiftConstValues | .yamlOptimizationRecord => true
  | _ => false

/-- Whether files of this type come out of code generation, once for each generated module. -/
def isGenerated : FileType → Bool
  | .assembly | .llvmIr | .llvmBitcode | .object => true
  | _ => false

/-! ## Finding a type by its name -/

/-- No file type has this name. -/
structure UnknownName where
  name : String
  deriving DecidableEq, Repr

/-- The text that reports the unknown name. -/
def UnknownName.message (e : UnknownName) : String :=
  "unknown file type name: " ++ e.name

/-- The file types under their names, latest first. A type that is entered stands in place of any earlier one
with its name. -/
def byName : List (String × FileType) :=
  all.foldl (fun table ty => (ty.name, ty) :: table) []

/-- The file type with the given name. -/
def ofName? (name : String) : Option FileType :=
  byName.lookup name

/-- The file type with the given name, or the name that is unknown. -/
def parse (name : String) : Except UnknownName FileType :=
  match ofName? name with
  | some ty => .ok ty
  | none => .error ⟨name⟩

/-- The given types in order, each once. -/
def sortedDistinct (types : List FileType) : List FileType :=
  all.filter (fun ty => ty ∈ types)

end FileType

end CompilerDriver
