import ClientGen.Builtin.Products
import ClientGen.Builtin.Storage
import ClientGen.Builtin.Weather

/-! The models that come with the library, by name. -/

namespace ClientGen

/-- A model that comes with the library, and the service to generate from it. -/
structure Definition where
  name : String
  description : String
  service : ShapeId
  model : Model

namespace Builtin

/-- The names, in the order in which they are listed. -/
def names : List String := ["weather", "storage", "catalog"]

/-- The prelude with these definitions in addition. -/
def build (shapes : List Shape) (operations : List Operation) (services : List Service) :
    Except ModelError Model :=
  Model.withPrelude.insertAll shapes operations services

/-- The definition with the name, if there is one. -/
def find? (name : String) : Option (Except ModelError Definition) :=
  match name with
  | "weather" => some <| do
    pure ⟨name, "City weather lookups over REST", Weather.id "Weather",
      ← build Weather.shapes Weather.operations Weather.services⟩
  | "storage" => some <| do
    pure ⟨name, "Object storage with folders and chunked blobs", Storage.id "Storage",
      ← build Storage.shapes Storage.operations Storage.services⟩
  | "catalog" => some <| do
    pure ⟨name, "Product catalog over JSON RPC", Products.id "Catalog",
      ← build Products.shapes Products.operations Products.services⟩
  | _ => none

end Builtin

end ClientGen
