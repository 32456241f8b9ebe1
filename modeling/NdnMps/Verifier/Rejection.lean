import NdnMps.Libraries.Reference
import NdnMps.Schema.EmptyList

/-! Which signature info packets the verifier answers for, and which ones make it throw. -/

namespace NdnMps

variable {SecretKey PublicKey Signature : Type}

/-- The key locator of a packet is a name, and the signature info packet is found under it. -/
def Locates (data signatureInfoData : Data) : Prop :=
  ∃ keyLocatorName, data.keyLocatorName = .ok keyLocatorName ∧
    keyLocatorName.isPrefixOf signatureInfoData.name = true

namespace BLSVerifier

end BLSVerifier

namespace Reference

end Reference

namespace BLSVerifier

end BLSVerifier

end NdnMps
