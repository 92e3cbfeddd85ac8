import CloudTemplate.Value.Basic

/-!
# Ingress rules

A rule of a security group admits traffic of a protocol from a source to a range of ports.  The
protocol may be a name in any case or a number; both are read as a text in small letters.
-/

namespace CloudTemplate

/-- The protocol of a rule. -/
def ingressProtocol? (rule : PropertyValue) : Option String :=
  match rule.get? "IpProtocol" with
  | none => none
  | some (.string name) => some (asciiLower name)
  | some other => other.asInt64?.map toString

/-- Whether a protocol has no ports of its own, so that -1 stands for all of them. -/
def hasWildcardPorts (protocol : String) : Bool := ["-1", "icmp", "icmpv6"].contains protocol

end CloudTemplate
