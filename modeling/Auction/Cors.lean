/-!
# Cross-origin requests

A browser names the page a request comes from in its `Origin` header. An origin is allowed when
the allow list holds it, or holds `*`. An allowed origin is echoed back with the methods and
headers a page may use and how long a browser may remember that; any other origin gets no such
headers, so the browser blocks the answer.

A preflight (`OPTIONS`) is answered at once with no content; every other request goes on to the
handler behind.
-/

namespace Auction

namespace Cors

/-- Whether an origin is allowed by the list. -/
def originAllowed (allowed : List String) (origin : String) : Bool :=
  allowed.any fun o => o == "*" || o == origin

/-- The headers an allowed origin gets, in the order they are set. -/
def grantHeaders (origin : String) : List (String × String) :=
  [("Access-Control-Allow-Origin", origin),
   ("Vary", "Origin"),
   ("Access-Control-Allow-Methods", "GET, POST, PUT, DELETE, OPTIONS, PATCH"),
   ("Access-Control-Allow-Headers",
     "Accept, Content-Type, Content-Length, Authorization, Idempotency-Key, X-Requested-With"),
   ("Access-Control-Max-Age", "86400")]

/-- What the policy does with a request. -/
structure Decision where
  /-- Headers added to the answer. -/
  headers : List (String × String)
  /-- Whether the request goes on to the handler; otherwise it is answered with no content. -/
  passOn : Bool
  deriving Repr

/-- The policy for a request of `method` from `origin` (empty when the header is absent). -/
def decide (allowed : List String) (method origin : String) : Decision :=
  { headers := if !origin.isEmpty && originAllowed allowed origin then grantHeaders origin else [],
    passOn := method != "OPTIONS" }

end Cors

end Auction
