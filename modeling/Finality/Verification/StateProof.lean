import Finality.Config.Basic
import Finality.Rejection
import Finality.Text.Utf8

/-!
# Verifying state proofs

A leaf holds a key and either the digest of its value or the mark that it has none. A
proof shows a claim under a root if its leaf is the one of the claim and its path leads to
the root.
-/

namespace Finality

/-- The leaf of a key and a claim: a mark, the key with its length, and the digest of the
value if there is one. -/
def Claim.leaf (key : Bytes) : Claim → Bytes
  | .membership value => 1 :: (leBytes 4 key.length ++ key ++ (sha256 value).bytes)
  | .absence => 0 :: (leBytes 4 key.length ++ key)

/-- The key under which a path is committed: the store's own key and the path, with one slash
between them. -/
def commitmentKey (store : Bytes) (path : String) : Bytes :=
  let slash : UInt8 := 47
  (store.reverse.dropWhile (· == slash)).reverse
    ++ slash :: utf8 (String.ofList (path.toList.dropWhile (· == '/')))

/-- Check that a proof shows a claim about a key under a root, in at most `maxDepth` steps if
that is given. -/
def verifyProof (root : Bytes) (proof : Proof) (key : Bytes) (claim : Claim)
    (maxDepth : Option Int) : Except Rejection Unit :=
  match maxDepth.filter (· < (proof.steps.length : Int)) with
  | some limit => .error (.limit .proofDepth limit proof.steps.length)
  | none =>
    if proof.leaf ≠ claim.leaf key then .error (.leafMismatch claim)
    else if proof.root.bytes ≠ root then .error (.rootMismatch claim root proof.root)
    else .ok ()

/-- Check a proof against a consensus state of a client that is neither frozen nor, at time
`now`, out of the trusting period. -/
def verifyAgainst (config : Config) (client : ClientState) (state : ConsensusState)
    (proof : Proof) (key : Bytes) (claim : Claim) (now : Int) : Except Rejection Unit :=
  match client.frozenHeight with
  | some height => .error (.frozen height)
  | none =>
    if state.isExpired now client.trustingPeriod then
      .error (.expired state.timestamp now client.trustingPeriod)
    else verifyProof state.stateRoot.bytes proof key claim (some config.limits.maxProofDepth)

end Finality
