import Turnstile.Net.Cidr

/-!
# Trusted proxies

The networks whose members may name the client they forward for.  Entries that
are no ranges are skipped.  With no ranges at all every peer is trusted.
-/

namespace Turnstile
namespace Net

/-- The ranges of trusted proxies. -/
structure TrustedProxies where
  ranges : List Cidr
deriving DecidableEq, Repr

namespace TrustedProxies

/-- No ranges, so that every peer is trusted. -/
def everyone : TrustedProxies where
  ranges := []

/-- The ranges among the configured entries. -/
def ofEntries (entries : List String) : TrustedProxies where
  ranges := entries.filterMap fun entry => (Cidr.read entry.toList).toOption

/-- The configured entries that are no ranges. -/
def rejected (entries : List String) : List InvalidCidr :=
  entries.filterMap fun entry =>
    match Cidr.read entry.toList with
    | .ok _ => none
    | .error invalid => some invalid

/-- Whether any range is configured. -/
def isEnabled (proxies : TrustedProxies) : Bool :=
  !proxies.ranges.isEmpty

/-- Whether a peer's word on the client is believed. -/
def trusts (proxies : TrustedProxies) (peer : Address) : Bool :=
  !proxies.isEnabled || proxies.ranges.any fun range => range.contains peer

end TrustedProxies
end Net
end Turnstile
