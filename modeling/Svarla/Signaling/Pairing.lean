import Mathlib.Data.Option.Basic

/-!
# Pairing a modem gateway

The asynchronous part of `src/providers/modem-gateway-ws-handler.ts`, over
`src/providers/modem-gateway-persistence.ts`. Every `await` is for the provider's configuration in the
database, which is read as a whole and written as a whole, so a flow is a sequence of stages that each
read or write the configuration (`AuthStage.writes`) and then go on with what they were given
(`AuthStage.resume`).

Of the configuration only the fields are kept that pairing uses. A field that is null, missing or
empty counts as absent everywhere.
-/

namespace Svarla.Signaling

/-- The fields of a provider's `config` that pairing uses. -/
structure PairingConfig where
  publicKey : Option String
  pairingSecret : Option String
  pairingSecretCreatedAt : Option Int
  deriving DecidableEq, Repr

/-- What the handler uses of its platform: `String.prototype.toLowerCase`, `Buffer.from` of base64, and
the verification of an Ed25519 signature, false where the key or the signature is malformed. -/
structure Platform where
  toLowerCase : String → String
  decodeBase64 : String → List UInt8
  verify : (nonce key signature : List UInt8) → Bool

/-- A string that is not falsy. -/
def truthy (s : Option String) : Option String := s.filter (· ≠ "")

/-- `PAIRING_SECRET_TTL_MS`. -/
def pairingSecretTTL : Int := 24 * 60 * 60 * 1000

/-- The fields of an `auth_pair` message. -/
structure PairRequest where
  publicKey : String
  pairingSecret : String
  deriving DecidableEq, Repr

/-- A flow of the handler, at the `await` it is in. -/
inductive AuthStage
  /-- `getPublicKey` in `initiateAuth`. -/
  | initiate
  /-- `getPublicKey` in `handleAuthPair`. -/
  | existingKey (req : PairRequest)
  /-- `getPairingSecret`. -/
  | storedSecret (req : PairRequest)
  /-- `getPairingSecretCreatedAt`. -/
  | createdAt (req : PairRequest) (stored : String)
  /-- `setPublicKey`: the read, and the write. -/
  | loadForKey (req : PairRequest) (stored : String)
  | saveKey (req : PairRequest) (stored : String) (config : PairingConfig)
  /-- `clearPairingSecret`: the read, and the write. -/
  | loadForClear (req : PairRequest) (stored : String)
  | saveCleared (req : PairRequest) (stored : String) (config : PairingConfig)
  /-- `getPublicKey` in `handleAuthResponse`. -/
  | response (signature : String)
  /-- `deletePublicKey` in `resetPairing`: the read, and the write. -/
  | loadForDelete (secret : String)
  | saveDeleted (secret : String) (config : PairingConfig)
  /-- `setPairingSecret`: the read, and the write. -/
  | loadForSecret (secret : String) (time : Int)
  | saveSecret (config : PairingConfig)
  deriving DecidableEq, Repr

/-- The configuration the stage writes; the others read it. -/
def AuthStage.writes : AuthStage → Option PairingConfig
  | .saveKey _ _ config | .saveCleared _ _ config | .saveDeleted _ config | .saveSecret config =>
    some config
  | _ => none

/-- How a flow goes on. -/
inductive Resumed
  | goOn (stage : AuthStage)
  /-- `issueChallenge`. -/
  | challenge
  /-- `auth_error`, and the connection is closed. -/
  | reject (reason : String)
  /-- The key is stored and the secret cleared. -/
  | paired (req : PairRequest) (stored : String)
  /-- The signature is verified with the key. -/
  | verify (publicKey signature : String)
  | done
  deriving DecidableEq, Repr

/-- What follows the `await`, with the configuration that was read. -/
def AuthStage.resume (P : Platform) (now : Int) (config : PairingConfig) : AuthStage → Resumed
  | .initiate => if (truthy config.publicKey).isSome then .challenge else .done
  | .existingKey req =>
    if (truthy config.publicKey).isSome then .reject "already_paired" else .goOn (.storedSecret req)
  | .storedSecret req =>
    match truthy config.pairingSecret with
    | none => .reject "secret_already_used"
    | some stored =>
      if P.toLowerCase stored ≠ P.toLowerCase req.pairingSecret then .reject "invalid_secret"
      else .goOn (.createdAt req stored)
  | .createdAt req stored =>
    if ∃ t ∈ config.pairingSecretCreatedAt, pairingSecretTTL < now - t then .reject "secret_expired"
    else if (P.decodeBase64 req.publicKey).length ≠ 32 then .reject "invalid_public_key"
    else .goOn (.loadForKey req stored)
  | .loadForKey req stored =>
    .goOn (.saveKey req stored { config with publicKey := some req.publicKey })
  | .saveKey req stored _ => .goOn (.loadForClear req stored)
  | .loadForClear req stored =>
    .goOn (.saveCleared req stored
      { config with pairingSecret := none, pairingSecretCreatedAt := none })
  | .saveCleared req stored _ => .paired req stored
  | .response signature =>
    match truthy config.publicKey with
    | none => .reject "not_paired"
    | some publicKey => .verify publicKey signature
  | .loadForDelete secret => .goOn (.saveDeleted secret { config with publicKey := none })
  | .saveDeleted secret _ => .goOn (.loadForSecret secret now)
  | .loadForSecret secret time =>
    .goOn (.saveSecret
      { config with pairingSecret := some secret, pairingSecretCreatedAt := some time })
  | .saveSecret _ => .done

end Svarla.Signaling
