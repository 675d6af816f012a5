import EntityHub.Text.Quoted
import EntityHub.Time.Calendar
/-!
# Configuration of the token cache
-/

namespace EntityHub

/-- What to do with a token whose lifetime is unknown. -/
inductive NoExpiryPolicy where
  /-- Use it until it is dropped. -/
  | cacheUntilInvalidated
  /-- Use it once. -/
  | alwaysReauthenticate
deriving DecidableEq, Repr

/-- The name of a policy in diagnostic text. -/
def NoExpiryPolicy.label : NoExpiryPolicy → String
  | cacheUntilInvalidated => "CacheUntilInvalidated"
  | alwaysReauthenticate => "AlwaysReauthenticate"

/-- How a cache decides whether a token may be used again. -/
structure TokenConfig where
  noExpiryPolicy : NoExpiryPolicy := .cacheUntilInvalidated
  /-- How long before its expiry a token is renewed. -/
  expiryLeeway : Duration := ⟨0⟩
deriving DecidableEq

/-- The configuration in diagnostic text. -/
def TokenConfig.debug (c : TokenConfig) : String :=
  Quoted.record "TokenConfig"
    [("no_expiry_policy", c.noExpiryPolicy.label), ("expiry_leeway", c.expiryLeeway.text)]

end EntityHub
