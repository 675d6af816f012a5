/-!
# Faults of a URL text
-/

namespace EntityHub.Url

/-- Why a text is no absolute URL. -/
inductive Fault where
  /-- No scheme stands in front. -/
  | relativeWithoutBase
  | emptyHost
  | invalidDomain
  | invalidDomainCharacter
  | invalidPort
  | invalidIpv4
  | invalidIpv6
deriving DecidableEq, Repr

/-- The wording of a fault. -/
def Fault.text : Fault → String
  | relativeWithoutBase => "relative URL without a base"
  | emptyHost => "empty host"
  | invalidDomain => "invalid international domain name"
  | invalidDomainCharacter => "invalid domain character"
  | invalidPort => "invalid port number"
  | invalidIpv4 => "invalid IPv4 address"
  | invalidIpv6 => "invalid IPv6 address"

end EntityHub.Url
