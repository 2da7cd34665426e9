import ClientGen.Crate.Support.Basic

/-! Requests and responses, as the generated crate sees them. -/

namespace ClientGen.Support

open Code

/-! ## Methods and headers -/

def requestMethods : List Code :=
  [.doc "HTTP request methods.", "#[derive(Debug, Clone, Copy, PartialEq, Eq, Hash)]",
    scope "pub enum Method" ["Get,", "Post,", "Put,", "Patch,", "Delete,", "Head,"],
    scope "impl Method"
      [scope "pub fn as_str(self) -> &'static str"
        [scope "match self"
          ["Self::Get => \"GET\",", "Self::Post => \"POST\",", "Self::Put => \"PUT\",",
            "Self::Patch => \"PATCH\",", "Self::Delete => \"DELETE\",",
            "Self::Head => \"HEAD\","]]],
    scope "impl fmt::Display for Method"
      [scope "fn fmt(&self, f: &mut fmt::Formatter<'_>) -> fmt::Result"
        ["f.write_str(self.as_str())"]]]

def headerChanges : List Code :=
  [scope "pub fn new() -> Self" ["Self::default()"],
    .doc "Sets `name`, replacing every existing value.",
    scope "pub fn insert(&mut self, name: impl Into<String>, value: impl Into<String>)"
      ["let name = name.into();", "self.remove(&name);",
        "self.entries.push((name, value.into()));"],
    .doc "Adds a value, keeping existing ones.",
    scope "pub fn append(&mut self, name: impl Into<String>, value: impl Into<String>)"
      ["self.entries.push((name.into(), value.into()));"]]

/-- The functions that look at headers, and the one that removes them. -/
def headerViews : List Code :=
  [.doc "The first value of `name`.",
    scope "pub fn get(&self, name: &str) -> Option<&str>"
      [under "self.entries"
        [".iter()", ".find(|(n, _)| n.eq_ignore_ascii_case(name))", ".map(|(_, v)| v.as_str())"]],
    scope "pub fn get_all(&self, name: &str) -> Vec<&str>"
      [under "self.entries"
        [".iter()", ".filter(|(n, _)| n.eq_ignore_ascii_case(name))", ".map(|(_, v)| v.as_str())",
          ".collect()"]],
    scope "pub fn contains(&self, name: &str) -> bool" ["self.get(name).is_some()"],
    scope "pub fn remove(&mut self, name: &str)"
      ["self.entries.retain(|(n, _)| !n.eq_ignore_ascii_case(name));"],
    scope "pub fn len(&self) -> usize" ["self.entries.len()"],
    scope "pub fn is_empty(&self) -> bool" ["self.entries.is_empty()"],
    scope "pub fn iter(&self) -> impl Iterator<Item = (&str, &str)>"
      ["self.entries.iter().map(|(n, v)| (n.as_str(), v.as_str()))"]]

def headers : List Code :=
  [.doc "Header multimap with case-insensitive names.",
    "#[derive(Debug, Clone, Default, PartialEq, Eq)]",
    scope "pub struct Headers" ["entries: Vec<(String, String)>,"],
    scope "impl Headers" (headerChanges ++ headerViews)]

/-! ## Requests -/

def requestUri : List Code :=
  [.doc "Full URI: endpoint, path, and percent-encoded query string.",
    scope "pub fn uri(&self) -> String"
      [.text ("let mut uri = format!(\"\x7b\x7d\x7b\x7d\", " ++
          "self.endpoint.trim_end_matches('/'), self.path);"),
        scope "if !self.query.is_empty()"
          [under "let pairs: Vec<String> = self"
              [".query", ".iter()",
                ".map(|(k, v)| " ++
                  "format!(\"\x7b\x7d=\x7b\x7d\", percent_encode(k), percent_encode(v)))",
                ".collect();"],
            "uri.push('?');", "uri.push_str(&pairs.join(\"&\"));"],
        "uri"]]

def requests : List Code :=
  [.doc "An outgoing request.", "#[derive(Debug, Clone, PartialEq)]",
    scope "pub struct HttpRequest"
      ["pub method: Method,", .doc "Scheme and authority, set by the endpoint middleware.",
        "pub endpoint: String,", "pub path: String,", "pub query: Vec<(String, String)>,",
        "pub headers: Headers,", "pub body: Vec<u8>,"],
    scope "impl HttpRequest"
      ([scope "pub fn new(method: Method, path: impl Into<String>) -> Self"
          [scope "Self"
            ["method,", "endpoint: String::new(),", "path: path.into(),", "query: Vec::new(),",
              "headers: Headers::new(),", "body: Vec::new(),"]],
        scope "pub fn add_query(&mut self, name: impl Into<String>, value: impl Into<String>)"
          ["self.query.push((name.into(), value.into()));"],
        .doc "Serializes `value` as the request body.",
        spread "pub fn set_json_body" ["&mut self", "value: &serde_json::Value"],
        scope ") -> Result<(), ClientError>"
          ["self.body = serde_json::to_vec(value)?;", "Ok(())"]]
        ++ requestUri)]

/-! ## Responses -/

def responses : List Code :=
  [.doc "A received response.", "#[derive(Debug, Clone, PartialEq)]",
    scope "pub struct HttpResponse"
      ["pub status: u16,", "pub headers: Headers,", "pub body: Vec<u8>,"],
    scope "impl HttpResponse"
      [scope "pub fn new(status: u16, body: impl Into<Vec<u8>>) -> Self"
          [scope "Self" ["status,", "headers: Headers::new(),", "body: body.into(),"]],
        scope "pub fn is_success(&self) -> bool" ["(200..300).contains(&self.status)"],
        .doc "Parses the body as JSON; an empty body is an empty object.",
        scope "pub fn json_body(&self) -> Result<serde_json::Value, ClientError>"
          [scope "if self.body.iter().all(u8::is_ascii_whitespace)"
              ["return Ok(serde_json::Value::Object(serde_json::Map::new()));"],
            "Ok(serde_json::from_slice(&self.body)?)"]]]

/-- The encoding of text in an address. -/
def percentEncoding : List Code :=
  [.doc "Percent-encodes everything outside the unreserved set.",
    scope "pub fn percent_encode(value: &str) -> String"
      ["let mut out = String::with_capacity(value.len());",
        scope "for byte in value.bytes()"
          [scope "match byte"
            [scope "b'A'..=b'Z' | b'a'..=b'z' | b'0'..=b'9' | b'-' | b'.' | b'_' | b'~' =>"
                ["out.push(byte as char)"],
              "_ => out.push_str(&format!(\"%\x7b:02X\x7d\", byte)),"]],
        "out"]]

end ClientGen.Support
