import ServiceAtlas.Document.Render
import ServiceAtlas.Payloads
import ServiceAtlas.Routes
import ServiceAtlas.Schema.Catalogue

/-!
Everything that one run makes, before any of it is written.
-/

namespace ServiceAtlas

structure Generation where
  schemas : Table Schema
  routes : Routes
  document : Document

namespace Generation
variable [Stack]

def schemaTable (schemas : Table Schema) : Table Value := Schema.valuesOf schemas

/-- The given address counts before the one that came with the payloads. -/
def assemble (payloads : Payloads) (generator : Generator) (baseUrl : Option String)
    (schemas : Table Schema) (routes : Routes) : Generation where
  schemas := schemas
  routes := routes
  document :=
    { openapiVersion := generator.openapiVersion
      info := Info.ofAppInfo payloads.appInfo
      server := Operation.firstText baseUrl payloads.baseUrl
      paths := routes.toTable
      schemas := schemaTable schemas
      forbidden := generator.forbidden }

def generate (payloads : Payloads) (generator : Generator) (overrides : Overrides)
    (baseUrl : Option String) : Traced Generation := do
  if !overrides.isEmpty then
    Traced.note (.overridesApplied overrides.length)
  let schemas ← Schema.ofCatalogue overrides .standard ((payloads.console.find? "types").getD .null)
  let routes ← Routes.build payloads.console payloads.full overrides generator.options
  return assemble payloads generator baseUrl schemas routes

def text (g : Generation) (format : Document.Format) : Except Failure String :=
  format.render g.document.toValue

end Generation
end ServiceAtlas
