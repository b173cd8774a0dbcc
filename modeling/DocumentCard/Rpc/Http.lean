import DocumentCard.Rpc.Service
set_option autoImplicit false

/-!
# The service over HTTP

Calls are posted to one path, in bodies of limited size; another path tells that the service is up.
-/

namespace DocumentCard.Rpc.Http

open Json (Value)
open Session (Helpers)

/-- A request. -/
structure Request where
  method : String
  /-- the path, maybe with a query behind it -/
  target : String
  body : Bytes := []

/-- What a response carries. -/
inductive Body where
  | empty
  | text (text : String)
  | json (value : Value)

/-- A response. -/
structure Response where
  status : Nat
  body : Body

/-- The path of a target, without query and fragment. -/
def path (target : String) : List Char := target.toList.takeWhile fun c => c ≠ '?' && c ≠ '#'

/-- How the service is. -/
def health : Value :=
  .ofFields [("status", .string "healthy"), ("version", .string "0.1.0"),
    ("service", .string "ddc-server")]

/-- The response to a body that is too long. -/
def tooLong : Response :=
  ⟨413, .text "Failed to buffer the request body: length limit exceeded"⟩

/-- The response to a method that the path does not have. -/
def wrongMethod : Response := ⟨405, .empty⟩

/-- The response to a path that there is not. -/
def notFound : Response := ⟨404, .empty⟩

/-- Serves a request whose body may have at most `limit` bytes. -/
def serve (limit : Nat) (helpers : Helpers) (m : Moment) (s : Service) (r : Request) :
    Service × Response :=
  if path r.target = "/rpc".toList then
    if r.method ≠ "POST" then (s, wrongMethod)
    else if limit < r.body.length then (s, tooLong)
    else
      let (after, answer) := s.answer helpers m r.body
      (after, ⟨200, .json answer.toJson⟩)
  else if path r.target = "/health".toList then
    if r.method = "GET" then (s, ⟨200, .json health⟩)
    else if r.method = "HEAD" then (s, ⟨200, .empty⟩)
    else (s, wrongMethod)
  else (s, notFound)

end DocumentCard.Rpc.Http
