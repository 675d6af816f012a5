import EntityHub.Text.Quoted
import EntityHub.Time.Calendar
/-!
# Configuration of the transport
-/

namespace EntityHub.Http

/-- How requests are sent. -/
structure Config where
  /-- How long a request may take. -/
  timeout : Duration := .ofSeconds 30
  /-- The name of the application, put in front of that of the library. -/
  userAgent : Option String := none
deriving DecidableEq

/-- The configuration in diagnostic text. -/
def Config.debug (c : Config) : String :=
  Quoted.record "HttpConfig"
    [("timeout", c.timeout.text), ("user_agent", Quoted.option (c.userAgent.map Quoted.text))]

end EntityHub.Http
