import Onboarding.Json.Printer
import Onboarding.Portal.Http

/-!
# Requests and answers on one line

A request on a line is its method, its target and its body, with one blank between them; the body
is the rest of the line and may be absent, the target too. An answer on a line is its status and its
body without blanks.
-/

namespace Onboarding

namespace Request

/-- What stands before and after the first blank; a text without one is all before it. -/
def firstWord (line : List Char) : List Char × List Char :=
  (Text.cutAt ' ' line).getD (line, [])

/-- The request that a line spells. -/
def ofLine (line : List Char) : Request :=
  let (method, rest) := firstWord line
  let (target, body) := firstWord rest
  let content := Utf8.encode (String.ofList body)
  { method := String.ofList method
    target := String.ofList target
    body := .whole content
    declaredLength := some content.length }

end Request

/-- An answer on a line. -/
def Response.line (r : Response) : String :=
  String.ofList (Numeral.text r.status ++ ' ' :: r.body.compact)

end Onboarding
