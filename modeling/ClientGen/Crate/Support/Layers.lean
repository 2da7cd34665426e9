import ClientGen.Crate.Support.Http
import ClientGen.Crate.Support.Stack

/-!
# The middleware that a generated crate comes with

All middleware has the same form: a type with what it is configured with, a constructor, a name and
a handler. One module holds it together with the stack.
-/

namespace ClientGen.Support

open Code

/-- A middleware of the generated crate. -/
structure Layer where
  docs : String
  name : String
  /-- The fields of its type; without any, the type has a default. -/
  fields : List String
  params : String
  /-- The new value. -/
  value : Code
  /-- Its name, as it tells it itself. -/
  shownName : String
  /-- Whether the handler changes the request. -/
  changes : Bool
  handler : List Code

def Layer.code (l : Layer) : List Code :=
  let type := s!"{l.name}Middleware"
  let definition : List Code :=
    if l.fields.isEmpty then ["#[derive(Default)]", s!"pub struct {type};"]
    else [scope s!"pub struct {type}" (l.fields.map fun f => .text (f ++ ","))]
  let request := (if l.changes then "mut " else "") ++ "request: HttpRequest"
  .doc l.docs :: definition
    ++ [scope s!"impl {type}" [scope s!"pub fn new({l.params}) -> Self" [l.value]],
      scope s!"impl Middleware for {type}"
        [scope "fn name(&self) -> &'static str" [l.shownName],
          spread "fn handle" ["&self", request, "next: Next<'_>"],
          scope ") -> Result<HttpResponse, ClientError>" l.handler]]

/-- Middleware that changes the request and hands it on. -/
def Layer.changing (docs name : String) (fields : List String) (params : String) (value : Code)
    (change : Code) : Layer :=
  ⟨docs, name, fields, params, value, Text.literal name, true, [change, "next.run(request)"]⟩

/-- The middleware that sets headers and the address. -/
def requestLayers : List Layer :=
  [.changing "Sets `User-Agent`." "UserAgent" ["value: String"] "value: impl Into<String>"
      "Self \x7b value: value.into() \x7d"
      "request.headers.insert(\"User-Agent\", self.value.clone());",
    .changing "Sets `Content-Type` on requests that carry a body." "ContentType"
      ["value: &'static str"] "value: &'static str" "Self \x7b value \x7d"
      (scope "if !request.body.is_empty() && !request.headers.contains(\"Content-Type\")"
        ["request.headers.insert(\"Content-Type\", self.value);"]),
    { Layer.changing "Sets a fixed header." "Header" ["name: &'static str", "value: String"]
        "name: &'static str, value: impl Into<String>" "Self \x7b name, value: value.into() \x7d"
        "request.headers.insert(self.name, self.value.clone());" with shownName := "self.name" },
    .changing "Points the request at the configured endpoint." "Endpoint" ["endpoint: String"]
      "endpoint: impl Into<String>" "Self \x7b endpoint: endpoint.into() \x7d"
      "request.endpoint = self.endpoint.clone();",
    .changing "Sets `Content-Length` from the body." "ContentLength" [] "" "Self"
      "request.headers.insert(\"Content-Length\", request.body.len().to_string());"]

/-- The middleware that tries again. -/
def retryLayer : Layer where
  docs := "Retries retryable failures of the inner layers."
  name := "Retry"
  fields := ["max_attempts: u32"]
  params := "max_attempts: u32"
  value := scope "Self" ["max_attempts: max_attempts.max(1),"]
  shownName := "\"Retry\""
  changes := false
  handler := ["let mut attempt = 1;",
    scope "loop"
      [scope "match next.run(request.clone())"
        [scope "Err(error) if error.is_retryable() && attempt < self.max_attempts =>"
            ["attempt += 1;"],
          "result => return result,"]]]

def tokenLayer : Layer :=
  .changing "Sets `Authorization: Bearer <token>` when a token is configured." "BearerAuth"
    ["token: Option<String>"] "token: Option<String>" "Self \x7b token \x7d"
    (scope "if let Some(token) = &self.token"
      ["request.headers.insert(\"Authorization\", format!(\"Bearer \x7b\x7d\", token));"])

/-- The middleware that turns responses into errors. -/
def statusLayer : Layer where
  docs := "Turns non-success responses into `ClientError::Service`."
  name := "StatusCheck"
  fields := []
  params := ""
  value := "Self"
  shownName := "\"StatusCheck\""
  changes := false
  handler := ["let response = next.run(request)?;",
    under "if response.is_success() \x7b" ["Ok(response)"],
    scope "\x7d else"
      [.block "Err(ClientError::Service \x7b"
        ["status: response.status,",
          "body: String::from_utf8_lossy(&response.body).into_owned(),"] "\x7d)"]]

/-- The module of requests, responses and middleware. -/
def runtime : Support where
  ns := "crate::runtime"
  docs := "HTTP types, the transport seam, and the middleware stack."
  dependencies := [.json]
  code := [.text "use crate::error::ClientError;", .text "use std::fmt;"] ++ requestMethods
    ++ headers ++ requests ++ responses ++ percentEncoding ++ transport ++ stackSteps ++ remainder
    ++ operationStack ++ (requestLayers ++ [retryLayer, tokenLayer, statusLayer]).flatMap Layer.code

end ClientGen.Support
