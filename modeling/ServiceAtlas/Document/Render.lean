import ServiceAtlas.Document
import ServiceAtlas.Value.Written

/-!
Documents as text.
-/

namespace ServiceAtlas.Document

/-- The text of a document, unless it holds what cannot be written. -/
def Format.render [Stack] : Format → Value → Except Failure String
  | .json, v => Json.write v
  | .yaml, v => Yaml.write v

end ServiceAtlas.Document
