import Stackfort.CoreTime
import Stackfort.DomainKinds

/-! What crosses the boundary to the agent: the domains of an account reduced to what the web server
configuration depends on, and the document of a desired-state revision, which carries them together
with the activations that wait for it. An empty text stands for an absent value, as on the wire. -/

namespace Stackfort.Nginx

inductive HeaderPolicy where
  | noSniff
  | referrerStrictOrigin
  | permissionsSensitiveOff
  | unsupported (text : String)
  deriving DecidableEq

structure OCIApplicationUpstream where
  applicationID : ID
  loopbackPort : Int
  deriving DecidableEq

structure Options where
  headerPolicies : List HeaderPolicy
  ociUpstreams : List OCIApplicationUpstream
  activationRevisionID : String
  deriving DecidableEq

def defaultOptions : Options := ⟨[.noSniff, .referrerStrictOrigin], [], ""⟩

structure WAFExceptionSpec where
  id : String
  ruleID : Nat
  (requestPath parameter : String)
  expiresAt : Time
  deriving DecidableEq

structure RedirectSpec where
  statusCode : Int
  (targetURL targetASCIIHost : String)
  hostMode : Choice RedirectHostMode
  (preservePath preserveQuery wildcardSubdomains : Bool)
  deriving DecidableEq

structure TargetSpec where
  type : Choice DomainTargetType
  (documentRoot phpVersion : String)
  redirect : Option RedirectSpec
  applicationID : String
  deriving DecidableEq

structure DomainSpec where
  name : NormalizedDomainName
  status : Choice DomainStatus
  canonicalMode : Choice CanonicalMode
  http01Challenge : Bool
  tlsCertificateID : String
  wafMode : Choice WAFMode
  wafExceptions : List WAFExceptionSpec
  cachePreset : Choice CachePreset
  cacheGeneration : String
  target : TargetSpec
  deriving DecidableEq

/-- A domain that waits for the activation of its target. -/
structure DomainActivationExpectation where
  (domainID targetID : ID)
  deriving DecidableEq

inductive DocumentRootAccess where
  | static
  | php
  deriving DecidableEq

structure DocumentRootIntent where
  relativePath : String
  access : DocumentRootAccess
  deriving DecidableEq

/-- `domainDesiredStateDocument`, without its constant fields. -/
structure DomainDocument where
  domains : List DomainSpec
  options : Options
  documentRoots : List DocumentRootIntent
  phpVersions : List String
  pending : List DomainActivationExpectation
  deriving DecidableEq

end Stackfort.Nginx
