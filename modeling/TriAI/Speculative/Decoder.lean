import Mathlib

/-!
Contract: the speculative decoder of `speculative/mod.rs`.

Owns: `SpeculativeDecoder` with `generateDraft`, `verifyAndAccept` and `generate`.

Does not own: the draft model and the verifier. Probabilities are exact rationals. A sum of
token ids wraps; where a build checks for overflows, it panics instead.
-/

set_option autoImplicit false

namespace TriAI.Speculative

structure DraftToken where
  tokenId : UInt32
  logProb : ℚ
  layer : UInt32
deriving DecidableEq

structure VerificationResult where
  acceptedTokens : List UInt32
  rejectedCount : Nat
  totalDraftTokens : Nat
  speedup : ℚ
deriving DecidableEq

structure SpeculativeConfig where
  draftModelPath : String
  maxDraftTokens : Nat
  acceptanceThreshold : ℚ
  enabled : Bool
deriving DecidableEq

/-- `SpeculativeConfig::default()` -/
def SpeculativeConfig.default : SpeculativeConfig where
  draftModelPath := ""
  maxDraftTokens := 5
  acceptanceThreshold := 1 / 2
  enabled := true

structure SpeculativeDecoder where
  config : SpeculativeConfig
  draftQueue : List DraftToken
  verifiedTokens : List UInt32
  totalDraftGenerated : Nat
  totalVerified : Nat

/-- What makes a run of the decoder panic in every build. -/
inductive Panic where
  | remainderByZero
  | indexOutOfBounds
deriving DecidableEq

namespace SpeculativeDecoder

def new (config : SpeculativeConfig) : SpeculativeDecoder where
  config := config
  draftQueue := []
  verifiedTokens := []
  totalDraftGenerated := 0
  totalVerified := 0

/-- One round of the loop of `generate_draft`. -/
def draftToken (promptTokens : List UInt32) (index : Nat) : Except Panic DraftToken :=
  if promptTokens.length = 0 then .error .remainderByZero
  else
    match promptTokens[index % promptTokens.length]? with
    | none => .error .indexOutOfBounds
    | some token =>
        .ok {
          tokenId := token + UInt32.ofNat index
          logProb := 4 / 5 - index * (1 / 10)
          layer := 0 }

variable (decoder : SpeculativeDecoder)

def generateDraft (promptTokens : List UInt32) :
    Except Panic (List DraftToken × SpeculativeDecoder) := do
  let promptLen := if promptTokens.isEmpty then 1 else promptTokens.length
  let count := min decoder.config.maxDraftTokens promptLen
  let drafts ← (List.range count).mapM (draftToken promptTokens)
  return (drafts,
    { decoder with
      draftQueue := decoder.draftQueue ++ drafts
      totalDraftGenerated := decoder.totalDraftGenerated + count })

/-- The test of `verify_and_accept`. -/
def accepts (draft : DraftToken) (logProb : ℚ) : Bool :=
  decide (logProb * decoder.config.acceptanceThreshold ≤ draft.logProb)

/-- One round of the loop of `verify_and_accept`: the accepted tokens and the number of rejected
ones so far, and a draft with its place. -/
def verify (verifierLogprobs : List ℚ) (before : List UInt32 × Nat) (draft : DraftToken × Nat) :
    List UInt32 × Nat :=
  match verifierLogprobs[draft.2]? with
  | some logProb =>
      if decoder.accepts draft.1 logProb then (before.1 ++ [draft.1.tokenId], before.2)
      else (before.1, before.2 + 1)
  | none => (before.1 ++ [draft.1.tokenId], before.2)

def verifyAndAccept (draftTokens : List DraftToken) (verifierLogprobs : List ℚ) :
    VerificationResult × SpeculativeDecoder :=
  let (accepted, rejected) := draftTokens.zipIdx.foldl (decoder.verify verifierLogprobs) ([], 0)
  let totalGenerated := accepted.length + rejected
  ({ acceptedTokens := accepted
     rejectedCount := rejected
     totalDraftTokens := totalGenerated
     speedup :=
       if 0 < totalGenerated then (totalGenerated : ℚ) / (max accepted.length 1 : Nat) else 1 },
    { decoder with
      verifiedTokens := decoder.verifiedTokens ++ accepted
      totalVerified := decoder.totalVerified + accepted.length })

def generate (prompt : List UInt32) (verifierCallback : List DraftToken → List ℚ) :
    Except Panic (List UInt32 × SpeculativeDecoder) := do
  let (drafts, decoder) ← decoder.generateDraft prompt
  let (result, decoder) := decoder.verifyAndAccept drafts (verifierCallback drafts)
  return (result.acceptedTokens, decoder)

end SpeculativeDecoder

end TriAI.Speculative
