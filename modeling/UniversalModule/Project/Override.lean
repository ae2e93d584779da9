import UniversalModule.Project.Basic

/-!
Overrides of a project. What an override does not set stays as it is; aliases are replaced as a
whole. The variable of the runtime and the dependencies cannot be overridden.
-/

namespace UniversalModule

structure Override where
  filename : Option Text
  dirname : Option Text
  coreFilename : Option Text
  exportName : Option Text
  exportAliases : Option (List Text)
  scopeTemplates : Option Bool
  sourceMap : Option Bool
  coreOptions : Option Json.Value
  bundler : Option Text

namespace Project

def merge (project : Project) (change : Override) : Project :=
  { project with
    filename := change.filename <|> project.filename
    dirname := change.dirname <|> project.dirname
    coreFilename := change.coreFilename <|> project.coreFilename
    exportName := change.exportName.getD project.exportName
    exportAliases := change.exportAliases.getD project.exportAliases
    scopeTemplates := change.scopeTemplates.getD project.scopeTemplates
    sourceMap := change.sourceMap.getD project.sourceMap
    coreOptions := change.coreOptions.getD project.coreOptions
    bundler := change.bundler.getD project.bundler }

end Project

end UniversalModule
