import ClientGen.Model.Build

/-!
# An object store with folders

The collections of this model are wrapped, sparse and nested, a folder refers to itself, and one
operation sends a blob as the whole body.
-/

namespace ClientGen.Builtin.Storage

def id (name : String) : ShapeId := ⟨"example.storage", name⟩

def shapes : List Shape := [
  ⟨id "ChunkList", .list (.needed "chunk" .blob), [.sparse]⟩,
  ⟨id "ChunkBatches", .list (.needed "batch" (id "ChunkList")), [.wrapped]⟩,
  ⟨id "Metadata", .map (.needed "key" .string) (.needed "value" .string), [.wrapped]⟩,
  ⟨id "FolderList", .list (.needed "folder" (id "Folder")), [.wrapped]⟩,
  ⟨id "ObjectList", .list (.needed "object" (id "ObjectSummary")), [.wrapped]⟩,
  ⟨id "TagList", .list (.needed "member" .string), []⟩,
  ⟨id "KeyList", .list (.needed "member" .string), [.sparse]⟩,
  ⟨id "ErrorMap", .map (.needed "key" .string) (.needed "value" .string), []⟩,
  ⟨id "Folder", .structure [
    .needed "name" .string,
    .optional "parent" (id "Folder"),
    .optional "children" (id "FolderList"),
    .optional "metadata" (id "Metadata")], [.documentation "A folder and its subfolders."]⟩,
  ⟨id "ObjectSummary", .structure [
    .needed "key" .string,
    .optional "size" .long,
    .optional "lastModified" .timestamp], []⟩,
  ⟨id "PutObjectInput", .structure [
    .needed "key" .string [.httpLabel],
    .optional "owner" .string [.httpHeader "X-Object-Owner"],
    .optional "data" .blob [.httpPayload]], []⟩,
  ⟨id "PutObjectOutput", .structure [.optional "etag" .string], []⟩,
  ⟨id "GetObjectInput", .structure [.needed "key" .string [.httpLabel]], []⟩,
  ⟨id "GetObjectOutput", .structure [
    .needed "key" .string,
    .optional "data" .blob,
    .optional "chunks" (id "ChunkBatches"),
    .optional "metadata" (id "Metadata")], []⟩,
  ⟨id "ListFolderInput", .structure [
    .optional "path" .string [.httpQuery "path"],
    .optional "tags" (id "TagList") [.httpQuery "tag"]], []⟩,
  ⟨id "ListFolderOutput", .structure [
    .optional "folder" (id "Folder"),
    .optional "objects" (id "ObjectList")], []⟩,
  ⟨id "DeleteObjectsInput", .structure [
    .needed "keys" (id "KeyList"),
    .optional "quiet" .boolean,
    .optional "requestId" .string [.httpHeader "X-Request-Id"]], []⟩,
  ⟨id "DeleteObjectsOutput", .structure [
    .optional "deleted" (id "KeyList"),
    .optional "errors" (id "ErrorMap")], []⟩]

def operations : List Operation := [
  { Operation.named (id "PutObject") with
    input := id "PutObjectInput"
    output := id "PutObjectOutput"
    http := some ⟨.put, "/objects/\x7bkey+\x7d"⟩ },
  { Operation.named (id "GetObject") with
    input := id "GetObjectInput"
    output := id "GetObjectOutput"
    http := some ⟨.get, "/objects/\x7bkey+\x7d"⟩ },
  { Operation.named (id "ListFolder") with
    input := id "ListFolderInput"
    output := id "ListFolderOutput"
    http := some ⟨.get, "/folders"⟩
    documentation := "Lists one folder with its objects." },
  { Operation.named (id "DeleteObjects") with
    input := id "DeleteObjectsInput"
    output := id "DeleteObjectsOutput"
    http := some ⟨.post, "/objects/delete"⟩ }]

def services : List Service := [
  { id := id "Storage"
    version := "2019-11-30"
    operations := operations.map (·.id)
    protocol := some .restJson
    documentation := none }]

end ClientGen.Builtin.Storage
