namespace Telemux

inductive UrlError where
  | emptyHost
  | domainName
  | domainCharacter
  | port
  | ipv4Address
  | ipv6Address
  | noScheme
  deriving DecidableEq

def UrlError.message : UrlError → String
  | .emptyHost => "empty host"
  | .domainName => "invalid international domain name"
  | .domainCharacter => "invalid domain character"
  | .port => "invalid port number"
  | .ipv4Address => "invalid IPv4 address"
  | .ipv6Address => "invalid IPv6 address"
  | .noScheme => "relative URL without a base"

end Telemux
