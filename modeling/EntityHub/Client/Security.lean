import EntityHub.Access.ClientInfo
import EntityHub.Access.Rule
import EntityHub.Client.Basic
/-!
# Clients and rules of the hub

The clients that are registered with the hub, and the rules on what each may do.
-/

namespace EntityHub.Client

variable {τ : Type}

/-- Where clients are registered. -/
def clientsPath : String := "/security/clients"

/-- Where the rules of a client are kept. -/
def rulesPath (id : String) : String := clientsPath ++ "/" ++ Percent.segment id ++ "/acl"

/-- Refuses an empty identifier. -/
def checkId (id : String) : Except Error Unit :=
  if id = "" then .error (.of .clientIdEmpty) else .ok ()

variable [TokenSource τ]

/-- The security client in diagnostic text. -/
def securityDebug (c : Client τ) : String := Quoted.record "SecurityClient" [("client", c.debug)]

/-- The registered clients by their identifiers. -/
def clients (now : Instant) : ClientAction τ (Dict ClientInfo) :=
  getDecoded now .getClients clientsPath ClientInfo.dictDecoder

/-- Registers a client, with the key by which its assertions are checked. -/
def addClient (now : Instant) (id : String) (key : Option PublicKey) : ClientAction τ Unit := do
  MonadExcept.ofExcept (checkId id)
  let info : ClientInfo := { clientId := id, publicKey := key.map PublicKey.pem }
  discard (postValue now .addClient clientsPath info.toValue)

/-- Removes a client. -/
def deleteClient (now : Instant) (id : String) : ClientAction τ Unit := do
  MonadExcept.ofExcept (checkId id)
  let info : ClientInfo := { clientId := id, deleted := true }
  discard (postValue now .deleteClient clientsPath info.toValue)

/-- The rules of a client. -/
def accessRules (now : Instant) (id : String) : ClientAction τ (List AccessRule) := do
  MonadExcept.ofExcept (checkId id)
  getDecoded now .getAccessRules (rulesPath id) AccessRule.listDecoder

/-- Gives a client other rules. -/
def setAccessRules (now : Instant) (id : String) (rules : List AccessRule) : ClientAction τ Unit := do
  MonadExcept.ofExcept (checkId id)
  discard (postValue now .setAccessRules (rulesPath id) (AccessRule.listToValue rules))

end EntityHub.Client
