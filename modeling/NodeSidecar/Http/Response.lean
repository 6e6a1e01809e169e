import NodeSidecar.Json.Basic
/-!
# HTTP — responses

What a request is answered. A response without content has no type; the text
that tells a caller what is wrong with a target is free.
-/

namespace NodeSidecar.Http

/-- What a response carries. -/
inductive Content where
  /-- Nothing. -/
  | nothing
  /-- A text that tells what is wrong with the request. -/
  | notice
  /-- JSON. -/
  | json (j : Json)
  /-- An exposition of metrics. -/
  | exposition (text : String)

/-- The type of a content. -/
def Content.mediaType : Content → Option String
  | .nothing => none
  | .notice => some "text/plain; charset=utf-8"
  | .json _ => some "application/json"
  | .exposition _ => some "text/plain; version=0.0.4"

/-- A response. -/
structure Response where
  /-- The status code. -/
  status : Nat
  /-- What it carries. -/
  content : Content
  /-- The methods that would be allowed, when the request's one is not. -/
  allow : List String
  /-- The content is announced and not sent. -/
  withheld : Bool := false

namespace Response

/-- A response with JSON. -/
def json (status : Nat) (j : Json) : Response where
  status := status
  content := .json j
  allow := []

/-- Nothing is at the path. -/
def notFound : Response where
  status := 404
  content := .nothing
  allow := []

/-- Something is at the path, but it does not take the method. -/
def methodNotAllowed (allow : List String) : Response where
  status := 405
  content := .nothing
  allow := allow

/-- The target cannot be read. -/
def badTarget : Response where
  status := 400
  content := .notice
  allow := []

/-- The body is too long. -/
def tooLong : Response where
  status := 413
  content := .notice
  allow := []

/-- The response to a request by this method: one for the head alone is sent no
content. -/
def forMethod (method : String) (r : Response) : Response :=
  { r with withheld := method = "HEAD" }

end Response

end NodeSidecar.Http
