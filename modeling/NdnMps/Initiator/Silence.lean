import NdnMps.Initiator.Rolls

/-! Whether a session that waits for nothing has called back. -/

namespace NdnMps

variable {SecretKey PublicKey Signature : Type}

namespace Session

end Session

namespace MPSInitiator

end MPSInitiator

end NdnMps
