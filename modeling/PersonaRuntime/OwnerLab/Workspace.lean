import Mathlib.Data.Vector.Basic
import PersonaRuntime.Policy.Publication

-- `getrandom::fill`: the bytes that the operating system returns for a buffer of some length, if any.
abbrev RandomSource := (n : Nat) → Option (List.Vector UInt8 n)

-- The digest of the `sha2` crate.
abbrev Digest := String → List.Vector UInt8 32

def hexDigit (n : Nat) : Char :=
  if n < 10 then Char.ofNat ('0'.toNat + n) else Char.ofNat ('a'.toNat + (n - 10))

-- `write!(&mut hex, "{byte:02x}")` for every byte.
def hex (bytes : List UInt8) : String :=
  String.ofList <| bytes.flatMap fun byte => [hexDigit (byte.toNat / 16), hexDigit (byte.toNat % 16)]

-- `u8::is_ascii_hexdigit`
def isAsciiHexdigit (c : Char) : Bool :=
  ('0' ≤ c && c ≤ '9') || ('a' ≤ c && c ≤ 'f') || ('A' ≤ c && c ≤ 'F')

def generateToken (random : RandomSource) (bytes : Nat) : Except String String :=
  match random bytes with
  | some bytes => .ok (hex bytes.toList)
  | none       => .error "secure random generator unavailable"

def hashSecret (sha256 : Digest) (token : String) : String :=
  hex (sha256 token).toList

def validSha256 (value : String) : Bool :=
  value.utf8ByteSize = 64 && value.toList.all isAsciiHexdigit

def tokenMatches (sha256 : Digest) (storedHash candidate : String) : Bool :=
  validSha256 storedHash && candidate.utf8ByteSize = 64 &&
    -- Both hashes are ASCII, so that their characters are their bytes.
    (storedHash.toList.zip (hashSecret sha256 candidate).toList).all fun (expected, received) =>
      expected = received

structure OwnerWorkspaceRecord where
  ownerId            : String
  ownerTokenSha256   : String
  publication        : Option CanonicalPublicationSnapshot
  visitorTokenSha256 : Option String
deriving DecidableEq

-- `map_err(|_| message)`
def Except.orMessage {ε α : Type} (message : String) (x : Except ε α) : Except String α :=
  x.mapError fun _ => message

-- `option.ok_or(message)`
def Option.okOr {α : Type} (message : String) : Option α → Except String α
  | some a => .ok a
  | none   => .error message

-- What a call leaves of a publication that it succeeds on.
def CanonicalPublication.Update.on (x : CanonicalPublication.Update Unit) (p : CanonicalPublication) :
    Except PublicationError CanonicalPublication :=
  match x.run p with
  | .ok _ p'   => .ok p'
  | .error e _ => .error e

namespace OwnerWorkspaceRecord

variable (sha256 : Digest)

def provision (random : RandomSource) : Except String (OwnerWorkspaceRecord × String) := do
  let ownerId ← generateToken random 16
  let token ← generateToken random 32
  return ({
    ownerId
    ownerTokenSha256   := hashSecret sha256 token
    publication        := none
    visitorTokenSha256 := none }, token)

def authenticateOwner (w : OwnerWorkspaceRecord) (token : String) : Bool :=
  tokenMatches sha256 w.ownerTokenSha256 token

-- Restores the publication of the record.
def restore (state : CanonicalPublicationSnapshot) : Except String CanonicalPublication :=
  (CanonicalPublication.fromDurableSnapshot state).orMessage "invalid canonical publication"

def publish (w : OwnerWorkspaceRecord) (ownerToken personaId : String) (personaVersion : Nat)
    (readinessAuthorized : Bool) (random : RandomSource) :
    Except String (OwnerWorkspaceRecord × String) := do
  if !w.authenticateOwner sha256 ownerToken then
    throw "owner authorization denied"
  let publication ← match w.publication with
    | some state => restore state
    | none       => do
      let publicationId ← generateToken random 16
      (CanonicalPublication.new w.ownerId personaId publicationId personaVersion).orMessage
        "invalid canonical publication"
  if w.publication.any (·.personaId ≠ personaId) then
    throw "publication Persona mismatch"
  let publication ← ((CanonicalPublication.publish w.ownerId personaVersion readinessAuthorized).on
    publication).orMessage "publication denied"
  let visitorToken ← generateToken random 32
  return ({ w with
    visitorTokenSha256 := hashSecret sha256 visitorToken
    publication        := publication.durableSnapshot }, visitorToken)

def changePublication (w : OwnerWorkspaceRecord) (ownerToken : String)
    (operation : String → CanonicalPublication.Update Unit) : Except String OwnerWorkspaceRecord := do
  if !w.authenticateOwner sha256 ownerToken then
    throw "owner authorization denied"
  let state ← w.publication.okOr "publication missing"
  let publication ← restore state
  let publication ← ((operation w.ownerId).on publication).orMessage "publication mutation denied"
  return { w with publication := publication.durableSnapshot, visitorTokenSha256 := none }

def pause (w : OwnerWorkspaceRecord) (ownerToken : String) : Except String OwnerWorkspaceRecord :=
  w.changePublication sha256 ownerToken CanonicalPublication.pause

def unpublish (w : OwnerWorkspaceRecord) (ownerToken : String) : Except String OwnerWorkspaceRecord :=
  w.changePublication sha256 ownerToken CanonicalPublication.unpublish

def onPersonaCorrection (w : OwnerWorkspaceRecord) (newPersonaVersion : Nat) :
    Except String OwnerWorkspaceRecord :=
  match w.publication with
  | none          => .ok w
  | some snapshot => do
    let publication ← restore snapshot
    let publication ← ((CanonicalPublication.correctPersona w.ownerId newPersonaVersion).on
      publication).orMessage "publication correction failed"
    return { w with publication := publication.durableSnapshot, visitorTokenSha256 := none }

def visitorPermit (w : OwnerWorkspaceRecord) (token : String) : Except String VisitorPermit := do
  let stored ← w.visitorTokenSha256.okOr "visitor access unavailable"
  if !tokenMatches sha256 stored token then
    throw "visitor authorization denied"
  let state ← w.publication.okOr "publication missing"
  let publication ← restore state
  (publication.visitorLease true).orMessage "visitor access denied"

def authorizeVisitor (w : OwnerWorkspaceRecord) (token : String) (permit : VisitorPermit)
    (currentPersona : String) (currentPersonaVersion nowMillis : Nat) : Except String Unit := do
  let stored ← w.visitorTokenSha256.okOr "visitor access unavailable"
  if !tokenMatches sha256 stored token then
    throw "visitor authorization denied"
  let state ← w.publication.okOr "publication missing"
  let publication ← restore state
  (publication.authorizeVisitor true w.ownerId currentPersona currentPersonaVersion permit
    nowMillis).orMessage "visitor access denied"

def validatePublication (w : OwnerWorkspaceRecord) (personaId : String) (personaVersion : Nat)
    (publication : CanonicalPublicationSnapshot) : Except String Unit := do
  if publication.ownerId ≠ w.ownerId ∨ publication.personaId ≠ personaId ∨
      publication.personaVersion > personaVersion then
    throw "publication does not match canonical Persona"
  let _ ← (CanonicalPublication.fromDurableSnapshot publication).orMessage "invalid publication snapshot"
  if publication.status = .published ∧ publication.personaVersion ≠ personaVersion then
    throw "stale publication must be revoked"
  if publication.status = .published ∧ w.visitorTokenSha256.isNone then
    throw "published visitor authority missing"

def validate (w : OwnerWorkspaceRecord) (personaId : String) (personaVersion : Nat) :
    Except String Unit := do
  if w.ownerId.utf8ByteSize ≠ 32 ∨ !validSha256 w.ownerTokenSha256 then
    throw "invalid owner identity"
  if let some publication := w.publication then
    w.validatePublication personaId personaVersion publication
  if let some hash := w.visitorTokenSha256 then
    if !validSha256 hash ∨ w.publication.all (·.status ≠ .published) then
      throw "invalid visitor authority state"

end OwnerWorkspaceRecord
