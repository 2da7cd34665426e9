import ClientGen.Crate.Support.Basic

/-! The stack of middleware around the transport, in the generated crate. -/

namespace ClientGen.Support

open Code

def transport : List Code :=
  [.doc "Sends requests. Implemented by the caller.",
    scope "pub trait Transport"
      ["fn send(&self, request: HttpRequest) -> Result<HttpResponse, ClientError>;"],
    "impl<F> Transport for F",
    under "where" ["F: Fn(HttpRequest) -> Result<HttpResponse, ClientError>,"],
    .block "\x7b"
      [scope "fn send(&self, request: HttpRequest) -> Result<HttpResponse, ClientError>"
        ["self(request)"]] "\x7d"]

/-- The steps of a stack, and what stands in them. -/
def stackSteps : List Code :=
  [.doc "Phases of an operation stack, in execution order.",
    "#[derive(Debug, Clone, Copy, PartialEq, Eq, PartialOrd, Ord, Hash)]",
    scope "pub enum Step" ["Initialize,", "Serialize,", "Build,", "Finalize,", "Deserialize,"],
    .doc "One layer of an operation stack.",
    scope "pub trait Middleware"
      ["fn name(&self) -> &'static str;",
        .doc "Handles `request`, calling `next.run` to continue inward.",
        .block "fn handle(" ["&self,", "request: HttpRequest,", "next: Next<'_>,"]
          ") -> Result<HttpResponse, ClientError>;"]]

def remainder : List Code :=
  [.doc "The remaining layers and the transport.", "#[derive(Clone, Copy)]",
    scope "pub struct Next<'a>"
      ["layers: &'a [(Step, Box<dyn Middleware>)],", "transport: &'a dyn Transport,"],
    scope "impl<'a> Next<'a>"
      [scope "pub fn run(self, request: HttpRequest) -> Result<HttpResponse, ClientError>"
        [scope "match self.layers.split_first()"
          [scope "Some(((_, layer), rest)) =>"
              [.block "layer"
                [.block ".handle("
                  ["request,",
                    .block "Next \x7b" ["layers: rest,", "transport: self.transport,"] "\x7d,"]
                  ")"] ""],
            "None => self.transport.send(request),"]]]]

def stackFunctions : List Code :=
  [scope "pub fn new(operation: &'static str) -> Self"
      [scope "Self" ["operation,", "layers: Vec::new(),"]],
    scope "pub fn operation(&self) -> &'static str" ["self.operation"],
    .doc "Adds a layer after every layer of the same or an earlier step.",
    scope "pub fn push(&mut self, step: Step, middleware: impl Middleware + 'static)"
      [under "let index = self"
          [".layers", ".iter()", ".position(|(s, _)| *s > step)",
            ".unwrap_or(self.layers.len());"],
        "self.layers.insert(index, (step, Box::new(middleware)));"],
    .doc "Layer names, outermost first.",
    scope "pub fn names(&self) -> Vec<&'static str>"
      ["self.layers.iter().map(|(_, m)| m.name()).collect()"],
    .doc "Runs `request` through every layer and the transport.",
    spread "pub fn handle" ["&self", "request: HttpRequest", "transport: &dyn Transport"],
    scope ") -> Result<HttpResponse, ClientError>"
      [scope "Next" ["layers: &self.layers,", "transport,"], under "" [".run(request)"]]]

def operationStack : List Code :=
  [.doc "The middleware for one operation call.",
    scope "pub struct OperationStack"
      ["operation: &'static str,", "layers: Vec<(Step, Box<dyn Middleware>)>,"],
    scope "impl OperationStack" stackFunctions]

end ClientGen.Support
