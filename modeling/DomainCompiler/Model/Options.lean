import DomainCompiler.Schema.Decoder

/-!
# Options of a compilation
-/

namespace DomainCompiler

structure Options where
  /-- Base package of the generated sources. -/
  packageName : String := ""
  /-- Module that the aggregates belong to. -/
  moduleName : String := ""
  /-- Package under which enums are generated. -/
  enumPackage : String := "domain.models.enums"
  /-- What is put behind the name of a class to name its persistence companion. -/
  persistenceSuffix : String := "Jpa"
  /-- Warnings count as errors. -/
  strict : Bool := false
  deriving DecidableEq, Repr

namespace Options

open DomainCompiler.Schema

/-- Enums can be imported by their full name once the package and the module are known. -/
def qualifiesEnums (o : Options) : Bool :=
  !o.packageName.isEmpty && !o.moduleName.isEmpty

def enumImport (o : Options) (name : String) : String :=
  o.packageName ++ "." ++ o.moduleName ++ "." ++ o.enumPackage ++ "." ++ name

/-- The options with the package and the module replaced where these are given. -/
def withNames (o : Options) (package module : String) : Options :=
  { o with
    packageName := if package.isEmpty then o.packageName else package
    moduleName := if module.isEmpty then o.moduleName else module }

def packageNameKey : Key := .single "package_name"
def moduleNameKey : Key := .single "module_name"
def enumPackageKey : Key := .single "enum_package"
def persistenceSuffixKey : Key := .single "persistence_suffix"
def strictKey : Key := .single "strict"

def keys : List Key :=
  [packageNameKey, moduleNameKey, enumPackageKey, persistenceSuffixKey, strictKey]

def read : Decoder Options :=
  record "CompilerOptions" keys fun r =>
    mk <$> packageNameKey.optional text "" r
      <*> moduleNameKey.optional text "" r
      <*> enumPackageKey.optional nonemptyText "domain.models.enums" r
      <*> persistenceSuffixKey.optional nonemptyText "Jpa" r
      <*> strictKey.optional bool false r

end Options

end DomainCompiler
