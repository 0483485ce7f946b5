import Cantilune.Comms.Ingress

/-!
# Peers authenticated by HMAC

The binding material of a peer is a nonce, an issue time and a signature of both under the peer's descriptor.
-/

namespace Cantilune.Comms

def hexDigit (n : Nat) : Char := Nat.digitChar n

def hexValue (c : Char) : Option Nat :=
  if '0' ≤ c ∧ c ≤ '9' then some (c.toNat - '0'.toNat)
  else if 'a' ≤ c ∧ c ≤ 'f' then some (c.toNat - 'a'.toNat + 10)
  else if 'A' ≤ c ∧ c ≤ 'F' then some (c.toNat - 'A'.toNat + 10)
  else none

/-- Two digits a byte, the letters small. -/
def hexOfBytes (bytes : List UInt8) : String :=
  String.ofList (bytes.flatMap fun b => [hexDigit (b.toNat / 16), hexDigit (b.toNat % 16)])

/-- The bytes of the digits, two by two, up to the first that are none; a last single digit is dropped. -/
def bytesOfDigits : List Char → List UInt8
  | c :: d :: rest =>
      match hexValue c, hexValue d with
      | some high, some low => UInt8.ofNat (16 * high + low) :: bytesOfDigits rest
      | _, _ => []
  | _ => []

/-- `Buffer.from(text, "hex")`. -/
def bytesOfHex (text : String) : List UInt8 := bytesOfDigits text.toList

/-! ## The verifier -/

structure PeerDescriptor where
  descriptorRef : String
  digest : String
  runtimeInstanceId : String
  actors : List ActorRef
  deriving DecidableEq

structure VerifiedPeerContext extends AuthenticatedPeerContext where
  descriptorRef : String
  descriptorDigest : String
  authenticationMethod : String
  channelBindingDigest : String
  evidenceRef : String
  authenticatedAt : Timestamp
  expiresAt : Timestamp
  deriving DecidableEq

/-- The options of the verifier, the host's clock and dates, and its HMAC of a secret and a text. A date that is no
date has no milliseconds. -/
structure HmacIdentityHost where
  resolveVerificationKey : String → Except CommsViolation String
  clockNow : Timestamp
  ttlMs : Option Int
  dateNow : Int
  dateParse : String → Option Int
  toISOString : Int → Timestamp
  hmac : String → String → List UInt8

def HmacIdentityHost.digestHex (host : HmacIdentityHost) (secret material : String) : String :=
  hexOfBytes (host.hmac secret material)

def signedText (descriptorRef nonce issuedAt : String) : String :=
  descriptorRef ++ ":" ++ nonce ++ ":" ++ issuedAt

def splitBars (text : String) : List String := (text.toList.splitOn '|').map String.ofList

def createHmacBindingMaterial (host : HmacIdentityHost) (secret descriptorRef nonce issuedAt : String) : String :=
  nonce ++ "|" ++ issuedAt ++ "|" ++ host.digestHex secret (signedText descriptorRef nonce issuedAt)

def identityUnverified (message : String) : CommsViolation :=
  commsViolation .identityUnverified .authenticate message

/-- `none` is an exception: the clock's own time is no date. -/
def verifyPeer (host : HmacIdentityHost) (descriptor : PeerDescriptor)
    (credentialRef channelBindingMaterial : String) : Option (Except CommsViolation VerifiedPeerContext) :=
  match host.resolveVerificationKey credentialRef with
  | .error violation => some (.error violation)
  | .ok key =>
      match splitBars channelBindingMaterial with
      | [nonce, issuedAt, signature] =>
          match descriptor.actors with
          | [] => some (.error (identityUnverified "descriptor has no actors"))
          | principal :: _ =>
              let ttl := host.ttlMs.getD 300000
              match host.dateParse issuedAt with
              | none => some (.error (commsViolation .wireExpired .authenticate "credential expired or clock skew"))
              | some issuedMs =>
                  let age := host.dateNow - issuedMs
                  if age > ttl ∨ age < -60000 then
                    some (.error (commsViolation .wireExpired .authenticate "credential expired or clock skew"))
                  else
                    let expected := host.digestHex key (signedText descriptor.descriptorRef nonce issuedAt)
                    if bytesOfHex signature ≠ bytesOfHex expected then
                      some (.error (identityUnverified "signature mismatch"))
                    else
                      (host.dateParse host.clockNow).map fun authenticatedMs =>
                        .ok
                          { runtimeInstanceId := descriptor.runtimeInstanceId
                            principal
                            descriptorRef := descriptor.descriptorRef
                            descriptorDigest := descriptor.digest
                            authenticationMethod := "hmac-sha256"
                            channelBindingDigest := expected
                            evidenceRef := credentialRef
                            authenticatedAt := host.clockNow
                            expiresAt := host.toISOString (authenticatedMs + ttl) }
      | _ => some (.error (identityUnverified "invalid binding material"))

end Cantilune.Comms
