import ClientGen.Crate.Support.Basic

/-! The module of the errors of client operations. -/

namespace ClientGen.Support

open Code

/-- What can go wrong in an operation. -/
def clientFailures : List Failure :=
  [⟨"The transport could not complete the exchange.", "transport failed: \x7b0\x7d",
      "Transport(String)"⟩,
    ⟨"The service answered with a non-success status.",
      "service returned HTTP \x7bstatus\x7d: \x7bbody\x7d",
      "Service \x7b status: u16, body: String \x7d"⟩,
    ⟨"The response did not match the expected shape.", "failed to decode response: \x7b0\x7d",
      "Decode(#[from] DecodeError)"⟩,
    ⟨"A body was not valid JSON.", "invalid JSON: \x7b0\x7d", "Json(#[from] serde_json::Error)"⟩,
    ⟨"The input could not be bound to a request.", "invalid request: \x7b0\x7d",
      "InvalidRequest(String)"⟩]

/-- Whether another attempt may help. -/
def retryable : Code :=
  scope "impl ClientError"
    [.doc "Whether retrying the same request may succeed.",
      scope "pub fn is_retryable(&self) -> bool"
        [scope "match self"
          ["Self::Transport(_) => true,",
            "Self::Service \x7b status, .. \x7d => *status >= 500 || *status == 429,",
            "_ => false,"]]]

def errors : Support where
  ns := "crate::error"
  docs := "Errors returned by client operations."
  dependencies := [.json, .errors]
  code := .text "use crate::wire::DecodeError;"
    :: errorType "Errors returned by client operations." "Debug, thiserror::Error" "ClientError"
      clientFailures
    ++ [retryable]

end ClientGen.Support
