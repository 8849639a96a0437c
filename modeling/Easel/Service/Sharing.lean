import Easel.Http

/-!
Leave for pages of other origins to use the service. Any origin may; a browser asks first whether a method and some headers
are allowed.
-/

namespace Easel.Service.Sharing

open Http

def methods : List String :=
  ["GET", "POST", "DELETE", "OPTIONS"]

def headers : List String :=
  ["Accept", "Accept-Language", "Authorization", "Content-Language", "Content-Type", "X-Plugin-ID"]

def isHeaderAllowed (name : String) : Bool :=
  headers.any fun h => lowered h = trimmed (lowered name)

def allowOrigin : String := "access-control-allow-origin"

def askedMethod (r : Request) : Option String :=
  if r.method = "OPTIONS" then r.header? "access-control-request-method" else none

def refusals (method : String) (asked : Option String) : List String :=
  let names := (asked.map fun s => (Text.pieces (· = ',') s.toList).map String.ofList).getD []
  (if method ∈ methods then [] else ["method"]) ++ (if names.all isHeaderAllowed then [] else ["headers"])

/-- The answer to a browser that asks first. -/
def preflight (method : String) (asked : Option String) : Response :=
  let base : Response :=
    match refusals method asked with
    | [] => .ofText 200 "OK"
    | rs => .ofText 400 ("Disallowed CORS " ++ ", ".intercalate rs)
  { base with
    headers := [(allowOrigin, "*"), ("access-control-allow-methods", ", ".intercalate methods),
      ("access-control-max-age", "600"), ("access-control-allow-headers", ", ".intercalate headers)] }

/-- Any page may read the answer. -/
def mark (a : Response) : Response :=
  { a with headers := a.headers ++ [(allowOrigin, "*")] }

end Easel.Service.Sharing
