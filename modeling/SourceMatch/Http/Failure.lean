import SourceMatch.Url.Basic

/-!
Requests that a service answered with a status other than success, and what to tell the user about
them.
-/
namespace SourceMatch

namespace Http

def reason? : Nat → Option String
  | 100 => "Continue"
  | 101 => "Switching Protocols"
  | 102 => "Processing"
  | 103 => "Early Hints"
  | 200 => "OK"
  | 201 => "Created"
  | 202 => "Accepted"
  | 203 => "Non Authoritative Information"
  | 204 => "No Content"
  | 205 => "Reset Content"
  | 206 => "Partial Content"
  | 207 => "Multi-Status"
  | 208 => "Already Reported"
  | 226 => "IM Used"
  | 300 => "Multiple Choices"
  | 301 => "Moved Permanently"
  | 302 => "Found"
  | 303 => "See Other"
  | 304 => "Not Modified"
  | 305 => "Use Proxy"
  | 307 => "Temporary Redirect"
  | 308 => "Permanent Redirect"
  | 400 => "Bad Request"
  | 401 => "Unauthorized"
  | 402 => "Payment Required"
  | 403 => "Forbidden"
  | 404 => "Not Found"
  | 405 => "Method Not Allowed"
  | 406 => "Not Acceptable"
  | 407 => "Proxy Authentication Required"
  | 408 => "Request Timeout"
  | 409 => "Conflict"
  | 410 => "Gone"
  | 411 => "Length Required"
  | 412 => "Precondition Failed"
  | 413 => "Payload Too Large"
  | 414 => "URI Too Long"
  | 415 => "Unsupported Media Type"
  | 416 => "Range Not Satisfiable"
  | 417 => "Expectation Failed"
  | 418 => "I'm a teapot"
  | 421 => "Misdirected Request"
  | 422 => "Unprocessable Entity"
  | 423 => "Locked"
  | 424 => "Failed Dependency"
  | 425 => "Too Early"
  | 426 => "Upgrade Required"
  | 428 => "Precondition Required"
  | 429 => "Too Many Requests"
  | 431 => "Request Header Fields Too Large"
  | 451 => "Unavailable For Legal Reasons"
  | 500 => "Internal Server Error"
  | 501 => "Not Implemented"
  | 502 => "Bad Gateway"
  | 503 => "Service Unavailable"
  | 504 => "Gateway Timeout"
  | 505 => "HTTP Version Not Supported"
  | 506 => "Variant Also Negotiates"
  | 507 => "Insufficient Storage"
  | 508 => "Loop Detected"
  | 510 => "Not Extended"
  | 511 => "Network Authentication Required"
  | _ => none

def statusText (status : Nat) : String :=
  toString status ++ " " ++ (reason? status).getD "<unknown status code>"

def isSuccess (status : Nat) : Bool := 200 ≤ status && status < 300
def isClientError (status : Nat) : Bool := 400 ≤ status && status < 500
def isServerError (status : Nat) : Bool := 500 ≤ status && status < 600

end Http

structure RequestFailure where
  url : Url
  status : Nat
  text : String
deriving DecidableEq, Repr, Inhabited

namespace RequestFailure

def code (f : RequestFailure) : String :=
  if Http.isClientError f.status then "E001" else "E002"

def suggestions (f : RequestFailure) : List String :=
  if f.status = 404 then
    ["Check that the URL is correct", "Verify that the server exposes the requested endpoint"]
  else if f.status = 429 then
    ["Wait a moment before retrying", "Consider reducing request frequency"]
  else if f.status = 413 then
    ["Submit fewer source files", "Remove sources that are not imported by the contract"]
  else if Http.isServerError f.status then
    ["The server is experiencing issues, try again later",
      "Check the server status before retrying"]
  else ["Check the request parameters and try again"]

def message (f : RequestFailure) : String :=
  "[" ++ f.code ++ "] Request to " ++ f.url.toText ++ " failed with status " ++
    Http.statusText f.status ++ "\nServer response: " ++ f.text ++ "\n\nSuggestions:\n" ++
    String.join (f.suggestions.map fun s => "  • " ++ s ++ "\n")

end RequestFailure

end SourceMatch
