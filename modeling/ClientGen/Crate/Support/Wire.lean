import ClientGen.Crate.Support.Basic

/-!
# The module of the wire

It holds the errors of decoding and the codecs of scalars. The codec of binary data is in it only
for crates that need it, since it needs a package of its own.
-/

namespace ClientGen.Support

open Code

/-! ## Errors -/

/-- What can be wrong with a value on the wire. -/
def decodeFailures : List Failure :=
  [⟨"A required member was absent or null.",
      "missing required member '\x7bmember\x7d' of \x7bshape\x7d",
      "MissingRequiredMember \x7b shape: &'static str, member: &'static str \x7d"⟩,
    ⟨"The JSON type was wrong.", "expected \x7bexpected\x7d, found \x7bfound\x7d",
      "UnexpectedType \x7b expected: &'static str, found: &'static str \x7d"⟩,
    ⟨"A number did not fit the target integer type.",
      "number \x7bvalue\x7d does not fit in \x7btarget\x7d",
      "OutOfRange \x7b value: String, target: &'static str \x7d"⟩,
    ⟨"A map key could not be parsed as the key type.",
      "invalid map key '\x7bkey\x7d': \x7breason\x7d",
      "InvalidKey \x7b key: String, reason: String \x7d"⟩,
    ⟨"A union container did not hold exactly one variant.",
      "union \x7bshape\x7d must have exactly one member set",
      "InvalidUnion \x7b shape: &'static str \x7d"⟩,
    ⟨"A wrapped map entry lacked its key.", "map entry is missing '\x7b0\x7d'",
      "MissingEntryField(&'static str)"⟩,
    ⟨"A timestamp was not a representable number of seconds.", "invalid timestamp: \x7b0\x7d",
      "InvalidTimestamp(String)"⟩]

/-- What can be wrong with binary data. -/
def blobFailure : Failure :=
  ⟨"A blob was not valid base64.", "invalid base64 blob: \x7b0\x7d", "InvalidBlob(String)"⟩

/-- What can be wrong in a crate with or without binary data. -/
def wireFailures (blobs : Bool) : List Failure :=
  decodeFailures ++ if blobs then [blobFailure] else []

def kindWords : List Code :=
  [.doc "Stand-in for entries that are absent.", "pub static NULL: Value = Value::Null;",
    scope "fn describe(value: &Value) -> &'static str"
      [scope "match value"
        ["Value::Null => \"null\",", "Value::Bool(_) => \"boolean\",",
          "Value::Number(_) => \"number\",", "Value::String(_) => \"string\",",
          "Value::Array(_) => \"array\",", "Value::Object(_) => \"object\","]],
    scope "fn unexpected(expected: &'static str, value: &Value) -> DecodeError"
      [scope "DecodeError::UnexpectedType" ["expected,", "found: describe(value),"]]]

/-! ## Containers -/

/-- A function that takes a value of one kind, or fails with the word for the kind. -/
def expectation (name result view word : String) : Code :=
  scope s!"pub fn {name}(value: &Value) -> Result<{result}, DecodeError>"
    [s!"value.{view}().ok_or_else(|| unexpected({Text.literal word}, value))"]

/-- The containers, and the fields of entries. -/
def containers : List Code :=
  [expectation "expect_object" "&Map<String, Value>" "as_object" "object",
    expectation "expect_array" "&Vec<Value>" "as_array" "array",
    .doc "A required, non-null field of a wrapped map entry.",
    spread "pub fn entry_field<'a>" ["entry: &'a Map<String, Value>", "name: &'static str"],
    scope ") -> Result<&'a Value, DecodeError>"
      [under "entry" [".get(name)", ".filter(|value| !value.is_null())",
        ".ok_or(DecodeError::MissingEntryField(name))"]]]

/-! ## Scalars -/

/-- Text, truth values and numbers. -/
def scalars : List Code :=
  [expectation "decode_str" "&str" "as_str" "string",
    scope "pub fn decode_string(value: &Value) -> Result<String, DecodeError>"
      ["decode_str(value).map(str::to_string)"],
    expectation "decode_bool" "bool" "as_bool" "boolean",
    scope "pub fn decode_integer<T: TryFrom<i64>>(value: &Value) -> Result<T, DecodeError>"
      ["let raw = value.as_i64().ok_or_else(|| unexpected(\"integer\", value))?;",
        .block "T::try_from(raw)"
          [.block ".map_err(|_| DecodeError::OutOfRange \x7b"
            ["value: raw.to_string(),", "target: std::any::type_name::<T>(),"] "\x7d)"] ""],
    expectation "decode_f64" "f64" "as_f64" "number",
    scope "pub fn decode_f32(value: &Value) -> Result<f32, DecodeError>"
      ["decode_f64(value).map(|v| v as f32)"],
    .doc "Parses a map key into the key type.",
    "pub fn parse_key<T>(key: &str) -> Result<T, DecodeError>",
    under "where" ["T: std::str::FromStr,", "T::Err: std::fmt::Display,"],
    .block "\x7b"
      [.block "key.parse::<T>()"
        [.block ".map_err(|e| DecodeError::InvalidKey \x7b"
          ["key: key.to_string(),", "reason: e.to_string(),"] "\x7d)"] ""] "\x7d"]

def timestamps : List Code :=
  [.doc "Decodes epoch seconds, fractional or negative.",
    scope "pub fn decode_timestamp(value: &Value) -> Result<SystemTime, DecodeError>"
      ["let seconds = decode_f64(value)?;",
        under "let offset = Duration::try_from_secs_f64(seconds.abs())"
          [".map_err(|e| DecodeError::InvalidTimestamp(e.to_string()))?;"],
        under "let time = if seconds >= 0.0 \x7b" ["UNIX_EPOCH.checked_add(offset)"],
        .block "\x7d else \x7b" ["UNIX_EPOCH.checked_sub(offset)"] "\x7d;",
        "time.ok_or_else(|| DecodeError::InvalidTimestamp(seconds.to_string()))"],
    .doc "Encodes epoch seconds; whole seconds become integers.",
    scope "pub fn encode_timestamp(value: &SystemTime) -> Value"
      [.block "let seconds = match value.duration_since(UNIX_EPOCH) \x7b"
          ["Ok(elapsed) => elapsed.as_secs_f64(),",
            "Err(before) => -before.duration().as_secs_f64(),"] "\x7d;",
        under "if seconds.fract() == 0.0 && seconds.abs() < 9.0e15 \x7b"
          ["Value::from(seconds as i64)"],
        scope "\x7d else" ["Value::from(seconds)"]]]

def blobs : List Code :=
  [scope "pub fn decode_blob(value: &Value) -> Result<Vec<u8>, DecodeError>"
      ["use base64::Engine;",
        under "base64::engine::general_purpose::STANDARD"
          [".decode(decode_str(value)?)", ".map_err(|e| DecodeError::InvalidBlob(e.to_string()))"]],
    scope "pub fn encode_blob(value: &[u8]) -> Value"
      ["use base64::Engine;",
        "Value::String(base64::engine::general_purpose::STANDARD.encode(value))"]]

/-! ## The module -/

/-- The module of the wire, of a crate with or without binary data. -/
def wire (withBlobs : Bool) : Support where
  ns := "crate::wire"
  docs := "Wire-level decode errors and scalar codec helpers."
  dependencies := (if withBlobs then [Dependency.base64] else []) ++ [.json, .errors]
  code := [.text "use serde_json::\x7bMap, Value\x7d;",
      .text "use std::time::\x7bDuration, SystemTime, UNIX_EPOCH\x7d;"]
    ++ errorType "A wire value did not match the shape it was decoded as."
      "Debug, Clone, PartialEq, thiserror::Error" "DecodeError" (wireFailures withBlobs)
    ++ kindWords ++ containers ++ scalars ++ timestamps
    ++ if withBlobs then blobs else []

end ClientGen.Support
