import EntityHub.Http.Message
/-!
# Redirections

A reply can name a place at which to ask on. With the codes 301, 302, 303, 307 and 308 the request
goes there. On the way a post becomes a get if the code does not say that it stays a post, and the
credentials stay behind if the place is on another host or at another port.
-/

namespace EntityHub

namespace Url

/-- The port number of a URL, also if it is that of the scheme. -/
def knownPort? (u : Url) : Option Nat := u.port.or (defaultPort? u.scheme)

/-- Whether two URLs have one host and one port. -/
def sharesServer (u v : Url) : Bool := u.host = v.host && u.knownPort? = v.knownPort?

end Url

namespace Http

namespace Status

/-- Whether a reply sends the request on to the place that it names. -/
def redirects (s : Status) : Bool := s.code ∈ [301, 302, 303, 307, 308]

/-- Whether a request becomes a plain get when it is sent on. -/
def makesGet (s : Status) (m : Method) : Bool :=
  s.code = 303 || (s.code ∈ [301, 302] && m = .post)

end Status

/-- What becomes of a request that is sent on to a place. -/
def Request.redirected (s : Status) (place : Url) (r : Request) : Request :=
  let plain := s.makesGet r.method
  { method := if plain then .get else r.method
    url := place.sent
    headers :=
      { r.headers with
        authorization := if r.url.sharesServer place then r.headers.authorization else none
        contentType := if plain then none else r.headers.contentType }
    body := if plain then [] else r.body }

/-- How many redirections of a request are followed. -/
def maxRedirections : Nat := 10

end Http

end EntityHub
