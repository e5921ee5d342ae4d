import Stackfort.DomainNames

/-! The enumerated values of domains and certificates, with the texts the store and the audit records
use for them. A stored column holds one of these values; the migrations reject any other text. -/

namespace Stackfort

/-- A value of an enumerated string type as a caller gives it: absent, one of the known values, or any other
text. -/
inductive Choice (α : Type) where
  | unset
  | known (value : α)
  | unsupported (text : String)
  deriving DecidableEq

def Choice.isKnown {α : Type} : Choice α → Bool
  | .known _ => true
  | .unset | .unsupported _ => false

/-- An absent value has a default, an unknown one is rejected. -/
def Choice.normalize {α : Type} (fallback : α) (message : String) : Choice α → Except CoreError α
  | .unset => pure fallback
  | .known value => pure value
  | .unsupported _ => throw (.invalidInput message)

inductive DomainStatus where
  | pending
  | active
  | suspended
  | removed
  deriving DecidableEq

inductive CanonicalMode where
  | preferApex
  | preferWWW
  | serveBoth
  deriving DecidableEq

inductive DocumentRootMode where
  | default
  | custom
  | shared
  deriving DecidableEq

inductive DomainTargetType where
  | static
  | php
  | ociApplication
  | redirect
  deriving DecidableEq

inductive RedirectHostMode where
  | apexOnly
  | wwwOnly
  | both
  deriving DecidableEq

inductive TLSMode where
  | acme
  | imported
  deriving DecidableEq

inductive TLSChallengeType where
  | http01
  | dns01
  | imported
  deriving DecidableEq

inductive TLSIssuanceStatus where
  | disabled
  | pending
  | issuing
  | active
  | renewing
  | failed
  deriving DecidableEq

inductive WAFMode where
  | off
  | detectionOnly
  | blockingPL1
  deriving DecidableEq

inductive CachePreset where
  | disabled
  | respectOrigin
  | wordPress
  | fastCGIRespectOrigin
  | fastCGIWordPress
  deriving DecidableEq

inductive DomainLifecycleAction where
  | create
  | edit
  | suspend
  | resume
  | remove
  deriving DecidableEq

inductive AppliedStateStatus where
  | active
  | superseded
  | rolledBack
  deriving DecidableEq

inductive AccountStatus where
  | active
  | suspended
  | archived
  deriving DecidableEq

inductive ACMEEnvironment where
  | letsEncryptStaging
  | letsEncryptProduction
  deriving DecidableEq

inductive ACMEAccountStatus where
  | pending
  | valid
  | deactivated
  | revoked
  deriving DecidableEq

inductive TLSCertificateStatus where
  | ordering
  | staged
  | active
  | retired
  deriving DecidableEq

inductive TLSCertificatePurpose where
  | issue
  | renew
  deriving DecidableEq

/-! ### Their texts -/

def CanonicalMode.text : CanonicalMode → String
  | .preferApex => "prefer_apex"
  | .preferWWW => "prefer_www"
  | .serveBoth => "serve_both"

def DomainTargetType.text : DomainTargetType → String
  | .static => "static"
  | .php => "php"
  | .ociApplication => "oci_application"
  | .redirect => "redirect"

def WAFMode.text : WAFMode → String
  | .off => "off"
  | .detectionOnly => "detection_only"
  | .blockingPL1 => "blocking_pl1"

def CachePreset.text : CachePreset → String
  | .disabled => "disabled"
  | .respectOrigin => "respect_origin"
  | .wordPress => "wordpress"
  | .fastCGIRespectOrigin => "fastcgi_respect_origin"
  | .fastCGIWordPress => "fastcgi_wordpress"

def CachePreset.isFastCGI : CachePreset → Bool
  | .fastCGIRespectOrigin | .fastCGIWordPress => true
  | _ => false

def DomainStatus.text : DomainStatus → String
  | .pending => "pending"
  | .active => "active"
  | .suspended => "suspended"
  | .removed => "removed"

def ACMEEnvironment.text : ACMEEnvironment → String
  | .letsEncryptStaging => "letsencrypt-staging"
  | .letsEncryptProduction => "letsencrypt-production"

def TLSCertificatePurpose.text : TLSCertificatePurpose → String
  | .issue => "issue"
  | .renew => "renew"

def DomainLifecycleAction.text : DomainLifecycleAction → String
  | .create => "create"
  | .edit => "edit"
  | .suspend => "suspend"
  | .resume => "resume"
  | .remove => "remove"

end Stackfort
