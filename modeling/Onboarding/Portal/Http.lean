import Onboarding.Portal.Session

/-!
# The portal's HTTP interface

`Portal.handle` answers one request: it routes it by path and method, and after the answer to an
accepted submission it closes the session. A claimed session refuses everything.
-/

namespace Onboarding

/-- One request. -/
structure Request where
  method : String
  /-- The path, with the query behind a question mark. -/
  target : String
  headers : List (String × String) := []
  body : Body := ⟨[], none⟩
  declaredLength : Option Nat := none

namespace Request

/-- The path of a target and its query. -/
def route (r : Request) : String × List Char :=
  match Text.cutAt '?' r.target.toList with
  | some (path, query) => (String.ofList path, query)
  | none => (r.target, [])

/-- Whether two header names are the same. -/
def sameName (a b : String) : Bool :=
  a.toList.map Char.toLower == b.toList.map Char.toLower

/-- The value of the first header of a name. -/
def header? (r : Request) (name : String) : Option String :=
  (r.headers.find? fun h => sameName h.1 name).map (·.2)

/-- The content of the body. -/
def content (r : Request) : Except RequestError Bytes :=
  (r.body.receive r.declaredLength).1.mapError .ofBody

end Request

namespace Response

/-- The answer to a method that a path does not have. -/
def wrongMethod (allowed : String) : Response where
  status := 405
  body := .ofMembers [("error", .text "method_not_allowed")]
  allow := some allowed

/-- The answer to a path that is not there. -/
def notFound : Response :=
  { status := 404, body := .ofMembers [("error", .text "not_found")] }

end Response

namespace Portal

variable {ρ : Type} [Radio ρ]

/-- Answers a request of a session that is not claimed. -/
def dispatch (p : Portal ρ) (r : Request) : Portal ρ × Response :=
  let (path, query) := r.route
  if path = "/local-wifi" then
    if r.method = "GET" then p.scan (Query.refreshRequested query)
    else (p, .wrongMethod "GET")
  else if path = "/provision" then
    if r.method = "POST" then p.submit r.content (r.header? "Authorization")
    else (p, .wrongMethod "POST")
  else if path = "/status" then
    if r.method = "GET" then (p, p.status) else (p, .wrongMethod "GET")
  else (p, .notFound)

/-- Hands over what a written answer leaves to do. -/
def afterwards (p : Portal ρ) (r : Response) : Portal ρ :=
  match r.followUp with
  | some c => p.complete c
  | none => p

/-- Answers a request. -/
def handle (p : Portal ρ) (r : Request) : Portal ρ × Response :=
  if p.session.submitted then (p, .refusal .closed)
  else
    let (p, response) := p.dispatch r
    (p.afterwards response, response)

end Portal

end Onboarding
