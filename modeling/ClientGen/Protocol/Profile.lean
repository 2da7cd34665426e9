import ClientGen.Middleware.Registry
import ClientGen.Model.Operation

/-!
# What each protocol brings along

Besides the binding of requests, a protocol has a content type of bodies, fields of the
configuration, and the middleware of every call.
-/

namespace ClientGen

/-- A field of the generated configuration. Type and default are source text. -/
structure ConfigField where
  name : String
  type : String
  default : String
  docs : String
deriving DecidableEq

namespace Protocol

def contentType : Protocol → String
  | restJson => "application/json"
  | rpcJson => "application/x-amz-json-1.1"

def commonFields : List ConfigField :=
  [⟨"endpoint", "String", "String::from(\"http://localhost:8080\")",
      "Scheme and authority every request is sent to."⟩,
    ⟨"user_agent", "String",
      "String::from(concat!(env!(\"CARGO_PKG_NAME\"), \"/\", env!(\"CARGO_PKG_VERSION\")))",
      "Value of the `User-Agent` header."⟩,
    ⟨"max_attempts", "u32", "3",
      "Attempts per call, including the first, for retryable failures."⟩]

/-- The fields of the configuration, in their order. -/
def configFields : Protocol → List ConfigField
  | restJson => commonFields ++ [⟨"api_token", "Option<String>", "None",
      "Bearer token sent in the `Authorization` header, if set."⟩]
  | rpcJson => commonFields ++ [⟨"region", "String", "String::from(\"us-east-1\")",
      "Region sent in the `X-Amz-Region` header."⟩]

def commonMiddleware (contentType : String) : List Middleware :=
  [⟨"UserAgent", .prepare, .tail, "UserAgentMiddleware::new(self.config.user_agent.clone())"⟩,
    ⟨"ContentType", .serialize, .tail,
      "ContentTypeMiddleware::new(" ++ Text.literal contentType ++ ")"⟩,
    ⟨"Endpoint", .build, .head, "EndpointMiddleware::new(self.config.endpoint.clone())"⟩,
    ⟨"ContentLength", .build, .after "Endpoint", "ContentLengthMiddleware::new()"⟩,
    ⟨"Retry", .finalize, .head, "RetryMiddleware::new(self.config.max_attempts)"⟩,
    ⟨"StatusCheck", .deserialize, .tail, "StatusCheckMiddleware::new()"⟩]

/-- The middleware of a protocol for the service with the name. -/
def middleware (p : Protocol) (service : String) : List Middleware :=
  commonMiddleware p.contentType ++ match p with
    | restJson => [⟨"BearerAuth", .finalize, .after "Retry",
        "BearerAuthMiddleware::new(self.config.api_token.clone())"⟩]
    | rpcJson =>
      [⟨"Target", .serialize, .after "ContentType",
          "HeaderMiddleware::new(\"X-Amz-Target\", \"" ++ service ++ ".\x7boperation\x7d\")"⟩,
        ⟨"Region", .finalize, .after "Retry",
          "HeaderMiddleware::new(\"X-Amz-Region\", self.config.region.clone())"⟩]

/-- The registry of the middleware for the service with the name. -/
def registry (p : Protocol) (service : String) : Except GenerationError Registry :=
  (Registry.new service).registerAll (p.middleware service)

/-- The items of the runtime that the middleware is made with. -/
def runtimeImports : Protocol → List String
  | restJson => ["BearerAuthMiddleware", "ContentLengthMiddleware", "ContentTypeMiddleware",
      "EndpointMiddleware", "RetryMiddleware", "StatusCheckMiddleware", "UserAgentMiddleware"]
  | rpcJson => ["ContentLengthMiddleware", "ContentTypeMiddleware", "EndpointMiddleware",
      "HeaderMiddleware", "RetryMiddleware", "StatusCheckMiddleware", "UserAgentMiddleware"]

end Protocol

end ClientGen
