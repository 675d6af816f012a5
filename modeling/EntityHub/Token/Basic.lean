import EntityHub.Text.Quoted
import EntityHub.Time.Calendar
/-!
# Tokens

A bearer token and the instant from which it is no longer good. A token without expiry is good
until something else says otherwise. The text of a token never shows in diagnostic text.
-/

namespace EntityHub

/-- A bearer token. -/
@[ext] structure Token where
  accessToken : String
  expiry : Option Instant := none
deriving DecidableEq

namespace Token

/-- The token with that expiry. -/
def withExpiry (t : Token) (expiry : Instant) : Token := { t with expiry := some expiry }

/-- The token with the expiry that a lifetime in seconds gives it. A lifetime that leads beyond
the calendar sets no expiry, and one that leads before it has ended now. -/
def expiringIn (t : Token) (seconds : Int) (now : Instant) : Token :=
  match (Span.ofSeconds? seconds).bind now.add? with
  | some expiry => t.withExpiry expiry
  | none => if seconds < 0 then t.withExpiry now else t

/-- Whether the token may be used at an instant. -/
def isValidAt (t : Token) (now : Instant) : Bool :=
  !t.accessToken.isEmpty && t.expiry.all fun expiry => decide (now < expiry)

/-- The token in diagnostic text. -/
def debug (t : Token) : String :=
  Quoted.record "Token"
    [("access_token", Quoted.redacted), ("expiry", Quoted.option (t.expiry.map Instant.text))]

end Token

end EntityHub
