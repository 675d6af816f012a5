/-!
# Authentication strategies

The ways in which a client can prove who it is, and the names they go by.
-/

namespace EntityHub

/-- A way to authenticate. -/
inductive AuthStrategy where
  | none
  | basic
  | clientCredentials
  | publicKeyJwt
  | userFlow
deriving DecidableEq, Repr

namespace AuthStrategy

/-- The name used in messages. -/
def text : AuthStrategy → String
  | none => "none"
  | basic => "basic"
  | clientCredentials => "client credentials"
  | publicKeyJwt => "public key JWT"
  | userFlow => "user flow"

/-- The name used in diagnostic text. -/
def label : AuthStrategy → String
  | none => "None"
  | basic => "Basic"
  | clientCredentials => "ClientCredentials"
  | publicKeyJwt => "PublicKeyJwt"
  | userFlow => "UserFlow"

/-- All strategies. -/
def all : List AuthStrategy := [none, basic, clientCredentials, publicKeyJwt, userFlow]

/-- The strategy of a name. -/
def ofText? (s : String) : Option AuthStrategy := all.find? (·.text = s)

end AuthStrategy

end EntityHub
