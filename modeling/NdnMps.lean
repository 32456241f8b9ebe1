import NdnMps.Schema.Repetition
import NdnMps.Schema.Replacement
import NdnMps.Schema.Overlap
import NdnMps.Schema.Thresholds
import NdnMps.Schema.Printed
import NdnMps.Schema.EmptyList
import NdnMps.Schema.Repair
import NdnMps.Schema.Minimal
import NdnMps.Schema.Restoration
import NdnMps.Schema.Conformity
import NdnMps.Schema.Relaxation
import NdnMps.Verifier.Rejection
import NdnMps.Verifier.Interchange
import NdnMps.Verifier.Acceptance
import NdnMps.SignerList.Wire
import NdnMps.BlsHelpers.Aggregates
import NdnMps.BlsHelpers.Leftovers
import NdnMps.BlsHelpers.Signing
import NdnMps.Initiator.Uniqueness
import NdnMps.Initiator.Callbacks
import NdnMps.Initiator.Handover
import NdnMps.Initiator.Completion
import NdnMps.Initiator.Validity
import NdnMps.Initiator.Promise
import NdnMps.Initiator.Confidentiality
import NdnMps.Initiator.Shortage
import NdnMps.Initiator.Lengths
import NdnMps.Initiator.Rolls
import NdnMps.Initiator.Silence
import NdnMps.Initiator.Losses
import NdnMps.Initiator.Contacts
import NdnMps.Initiator.Attestation
import NdnMps.Signer.Approval
import NdnMps.Signer.Refusal
import NdnMps.Signer.Conclusion
import NdnMps.Signer.Replies
import NdnMps.System.Delivery
import NdnMps.System.Rpc
import NdnMps.System.Undisturbed
import NdnMps.System.KeyChains
import NdnMps.System.ResultNames
import NdnMps.System.RoundTrip
import NdnMps.System.Passage
import NdnMps.System.Refusals
import NdnMps.System.Confluence
