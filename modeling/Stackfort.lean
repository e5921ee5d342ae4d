import Stackfort.OperationFencing
import Stackfort.OperationReplay
import Stackfort.AccountRendering
import Stackfort.UpdateGates
import Stackfort.UpdateRecovery
import Stackfort.UpdateSnapshot
import Stackfort.StorageLatch
import Stackfort.AccountProvisioning
import Stackfort.OneTimeCodes
import Stackfort.Lockouts
import Stackfort.RetriedFailures
import Stackfort.ChallengeServing
import Stackfort.CertificateQueue
import Stackfort.RenderingOrder
import Stackfort.DatabaseAgent
import Stackfort.OCIQuadlet
import Stackfort.JobReconciler
import Stackfort.PoolReconciler
import Stackfort.IdentityRanges
import Stackfort.IdentityDeletion
import Stackfort.BuildInputs
import Stackfort.PortAllocation
import Stackfort.SecretEnvelopes
