import Tablewright.Introspection.Source
import Tablewright.Table.Index

namespace Tablewright.Probe

open Declaration

def literalTexts (elements : List Expression) : Option (List String) :=
  elements.mapM fun element =>
    match element with
    | .text value => some value
    | _ => none

def listMacro : String := "vec"

def listMethod : String := "to_vec"

def literalSequence : Expression → Option (List String)
  | .returned (some value) => literalSequence value
  | .array elements => literalTexts elements
  | .reference target => literalSequence target
  | .enclosed inner => literalSequence inner
  | .grouped inner => literalSequence inner
  | .methodCall receiver method 0 =>
      if method = listMethod then literalSequence receiver else none
  | .macroCall path _ body =>
      if path.isName listMacro then (expressionsOf body).bind literalTexts else none
  | _ => none

def literalNames : List Statement → Option (List String)
  | [.expression value] =>
      (literalSequence value).bind fun names =>
        if !names.isEmpty && names.all Naming.isIdentifier then some names else none
  | _ => none

structure ProbedIndex where
  index : SecondaryIndex
  fallsBack : Bool

def hasMethod (functions : List FunctionDeclaration) (method : String) : Bool :=
  functions.any fun function => function.name = method

def probeIndex (table : String) (functions : List FunctionDeclaration) (pattern : Pattern) :
    Option ProbedIndex :=
  if hasMethod functions pattern.probeMethod then
    let hasSort := hasMethod functions pattern.sortMethod
    match functions.find? fun function => function.name = pattern.namesMethod with
    | none => some ⟨.defaultFor table pattern hasSort, false⟩
    | some function =>
        match literalNames function.body with
        | some names => some ⟨.custom pattern names hasSort, false⟩
        | none => some ⟨.defaultFor table pattern hasSort, true⟩
  else none

def reportFallback (table : String) (pattern : Pattern) (context : Context) : Context :=
  (context.note (.named .warn .probing "custom_names_fallback"
    [("table", .text table), ("method", .text pattern.namesMethod)])).report
    (.warning "custom_names_fallback" table
      s!"{pattern.namesMethod} must return a literal list of identifiers; using the default variant")

def addIndex (table : String) (functions : List FunctionDeclaration)
    (state : Capabilities × Context) (pattern : Pattern) : Capabilities × Context :=
  match probeIndex table functions pattern with
  | none => state
  | some probed =>
      (state.1.setIndex probed.index,
        if probed.fallsBack then reportFallback table pattern state.2 else state.2)

def event (table : String) (capabilities : Capabilities) : Event :=
  .named .debug .probing "capabilities_probed"
    [("table", .text table), ("key_slice", .truth capabilities.keySlice.isSome),
      ("value_slice", .truth capabilities.valueSlice.isSome),
      ("after_load", .truth capabilities.hasAfterLoad)]

def probe (sources : SourceSet) (table : String) (context : Context) :
    Capabilities × Context :=
  let functions := sources.functionsOf table
  let start : Capabilities := { hasAfterLoad := hasMethod functions afterLoadMethod }
  let probed := Pattern.all.foldl (addIndex table functions) (start, context)
  (probed.1, probed.2.note (event table probed.1))

end Tablewright.Probe
