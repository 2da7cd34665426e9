import ClientGen.Model.Build

/-!
# A catalog of products

The service is called by name with JSON on one path. Its model has an enum with a default, a union,
a set, a document, and maps with enum and integer keys.
-/

namespace ClientGen.Builtin.Products

def id (name : String) : ShapeId := ⟨"example.catalog", name⟩

def shapes : List Shape := [
  ⟨id "Category", .enum [⟨"BOOKS", "books"⟩, ⟨"MUSIC", "music"⟩, ⟨"GAMES", "games"⟩],
    [.default (.string "books")]⟩,
  ⟨id "PriceRange", .structure [
    .needed "min" .double,
    .needed "max" .double], []⟩,
  ⟨id "PriceTag", .union [
    .optional "fixed" .double,
    .optional "range" (id "PriceRange"),
    .optional "label" .string], [.documentation "How an item is priced."]⟩,
  ⟨id "StockByWarehouse", .map (.needed "key" .integer) (.needed "value" .long), []⟩,
  ⟨id "CountsByCategory", .map (.needed "key" (id "Category")) (.needed "value" .integer), []⟩,
  ⟨id "TagSet", .set (.needed "member" .string), []⟩,
  ⟨id "Item", .structure [
    .needed "id" .string [.jsonName "ItemId"],
    .optional "name" .string,
    .optional "category" (id "Category"),
    .optional "price" (id "PriceTag"),
    .optional "stock" (id "StockByWarehouse"),
    .optional "tags" (id "TagSet"),
    .optional "attributes" .document], []⟩,
  ⟨id "ItemList", .list (.needed "member" (id "Item")), []⟩,
  ⟨id "ListItemsInput", .structure [
    .optional "category" (id "Category"),
    .optional "maxResults" .integer [.boxed],
    .optional "nextToken" .string], []⟩,
  ⟨id "ListItemsOutput", .structure [
    .optional "items" (id "ItemList"),
    .optional "counts" (id "CountsByCategory"),
    .optional "nextToken" .string], []⟩,
  ⟨id "GetItemInput", .structure [.needed "id" .string], []⟩,
  ⟨id "GetItemOutput", .structure [.optional "item" (id "Item")], []⟩,
  ⟨id "PutItemInput", .structure [.needed "item" (id "Item")], []⟩,
  ⟨id "PutItemOutput", .structure [.needed "version" .long], []⟩]

def operations : List Operation := [
  { Operation.named (id "ListItems") with
    input := id "ListItemsInput"
    output := id "ListItemsOutput"
    documentation := "Lists items, optionally in one category." },
  { Operation.named (id "GetItem") with
    input := id "GetItemInput"
    output := id "GetItemOutput" },
  { Operation.named (id "PutItem") with
    input := id "PutItemInput"
    output := id "PutItemOutput" }]

def services : List Service := [
  { id := id "Catalog"
    version := "2024-06-01"
    operations := operations.map (·.id)
    protocol := some .rpcJson
    documentation := none }]

end ClientGen.Builtin.Products
