import PersonaRuntime.Machine.Basic
import PersonaRuntime.Machine.Durable
import PersonaRuntime.OwnerLab.Workspace

def storeSchema : String :=
  "vpr-windows-chunked-secret-1"

def chunkCharLimit : Nat :=
  512

def maxChunks : Nat :=
  256

inductive Slot
  | a
  | b
deriving DecidableEq, Repr

def Slot.label : Slot → String
  | a => "a"
  | b => "b"

structure RootManifest where
  schemaVersion : String
  activeSlot    : String
deriving DecidableEq, Repr

structure SlotManifest where
  schemaVersion : String
  state         : String
  chunkCount    : Nat
  sha256        : String
deriving DecidableEq, Repr

-- The accounts of a store by what their names are made from. No two of the names are the same.
inductive KeyringAccount
  | root
  | manifest (slot : Slot)
  | chunk (slot : Slot) (index : Nat)
  | legacy
deriving DecidableEq, Repr

-- A password by what `serde_json` makes of it.
inductive Password (α : Type)
  | json (value : α)
  | other
deriving DecidableEq, Repr

abbrev KeyringAccount.Value : KeyringAccount → Type
  | root              => Password RootManifest
  | manifest _        => Password SlotManifest
  | chunk .. | legacy => String

inductive KeyringFailure
  -- `Entry::new` fails.
  | entry
  | access
deriving DecidableEq, Repr

abbrev Keyring := Disk KeyringAccount.Value

abbrev KeyringProgram := StoreProgram KeyringAccount.Value KeyringFailure String

-- An access that fails has a message of its own.
def KeyringFailure.message (failed : String) : KeyringFailure → String
  | entry  => "Windows secure store initialization failed"
  | access => failed

def KeyringProgram.answer {α : Type} (failed : String) : Except KeyringFailure α → KeyringProgram α
  | .ok a    => .done a
  | .error f => .fail (f.message failed)

def readOptional (account : KeyringAccount) : KeyringProgram (Option account.Value) :=
  .get account (KeyringProgram.answer "Windows secure store read failed")

def writePassword (account : KeyringAccount) (value : account.Value) : KeyringProgram Unit :=
  .set account value (KeyringProgram.answer "Windows secure store write failed")

-- An account that does not exist is deleted as well.
def deleteOptional (account : KeyringAccount) : KeyringProgram Unit :=
  .delete account (KeyringProgram.answer "Windows secure store delete failed")

def validateSlot : String → Except String Slot
  | "a" => .ok .a
  | "b" => .ok .b
  | _   => .error "Windows secure store slot is invalid"

def validateManifest (m : SlotManifest) : Except String Unit :=
  if m.schemaVersion ≠ storeSchema ∨ ¬(m.state = "staging" ∨ m.state = "ready") ∨ m.chunkCount = 0 ∨
      m.chunkCount > maxChunks ∨ !validSha256 m.sha256 then
    .error "Windows secure store slot manifest is invalid"
  else
    .ok ()

def validateReadyManifest (m : SlotManifest) : Except String Unit := do
  validateManifest m
  if m.state ≠ "ready" then
    throw "Windows secure store active slot is not committed"

-- What the loop of `split_chunks` has at hand.
structure Splitting where
  chunks : List String
  chunk  : String
  chars  : Nat

def Splitting.push (s : Splitting) (value : Char) : Splitting :=
  if s.chars = chunkCharLimit then
    { chunks := s.chunks ++ [s.chunk], chunk := String.singleton value, chars := 1 }
  else
    { s with chunk := s.chunk.push value, chars := s.chars + 1 }

def splitChunks (raw : String) : Except String (List String) :=
  if raw.isEmpty then
    .error "Windows secure store cannot persist an empty secret"
  else
    let s := raw.toList.foldl Splitting.push ⟨[], "", 0⟩
    let chunks := if s.chunk.isEmpty then s.chunks else s.chunks ++ [s.chunk]
    if chunks.isEmpty ∨ chunks.length > maxChunks then
      .error "Windows secure store value exceeds the bounded chunk capacity"
    else
      .ok chunks

namespace ChunkedCredentialStore

-- `legacy_account` is a constant of the store. Only whether there is one matters.
variable (sha256 : Digest) (legacyAccount : Bool)

def readRoot : KeyringProgram (Option RootManifest) := do
  match ← readOptional .root with
  | none              => return none
  | some .other       => .fail "Windows secure store root manifest is invalid"
  | some (.json root) =>
    if root.schemaVersion ≠ storeSchema then
      .fail "Windows secure store schema is unsupported"
    else
      let _ ← validateSlot root.activeSlot
      return some root

def readSlotManifest (slot : Slot) : KeyringProgram (Option SlotManifest) := do
  match ← readOptional (.manifest slot) with
  | none                  => return none
  | some .other           => .fail "Windows secure store slot manifest is invalid"
  | some (.json manifest) =>
    validateManifest manifest
    return some manifest

def writeSlotManifest (slot : Slot) (manifest : SlotManifest) : KeyringProgram Unit :=
  writePassword (.manifest slot) (.json manifest)

def clearSlot (slot : Slot) : KeyringProgram Unit := do
  match ← readSlotManifest slot with
  | none          => return ()
  | some manifest =>
    (List.range manifest.chunkCount).forM fun index => deleteOptional (.chunk slot index)
    deleteOptional (.manifest slot)

def loadLegacy : KeyringProgram (Option String) :=
  if legacyAccount then readOptional .legacy else return none

-- The loop of `load` over the chunks that are left.
def loadChunks (slot : Slot) (raw : String) : List Nat → KeyringProgram String
  | []               => return raw
  | index :: indices => do
    match ← readOptional (.chunk slot index) with
    | none       => .fail "Windows secure store chunk is missing"
    | some chunk => loadChunks slot (raw ++ chunk) indices

def load : KeyringProgram (Option String) := do
  match ← readRoot with
  | none      => loadLegacy legacyAccount
  | some root =>
    let slot ← validateSlot root.activeSlot
    match ← readSlotManifest slot with
    | none          => .fail "Windows secure store manifest is incomplete"
    | some manifest =>
      validateReadyManifest manifest
      let raw ← loadChunks slot "" (List.range manifest.chunkCount)
      if hashSecret sha256 raw ≠ manifest.sha256 then
        .fail "Windows secure store integrity check failed"
      else
        return some raw

-- The slot that is active, which has to be ready.
def activeSlot : KeyringProgram (Option Slot) := do
  match ← readRoot with
  | none      => return none
  | some root =>
    let slot ← validateSlot root.activeSlot
    match ← readSlotManifest slot with
    | none          => .fail "Windows secure store active manifest is missing"
    | some manifest =>
      validateReadyManifest manifest
      return some slot

def targetSlot : Option Slot → Slot
  | some .a => .b
  | _       => .a

-- The writes of a save that make a value of a slot.
def writeSlot (slot : Slot) (chunks : List String) (digest : String) : KeyringProgram Unit := do
  writeSlotManifest slot ⟨storeSchema, "staging", chunks.length, digest⟩
  chunks.zipIdx.forM fun (chunk, index) => writePassword (.chunk slot index) chunk
  writeSlotManifest slot ⟨storeSchema, "ready", chunks.length, digest⟩

def save (raw : String) : KeyringProgram Unit := do
  let chunks ← splitChunks raw
  let active ← activeSlot
  let target := targetSlot active
  clearSlot target
  writeSlot target chunks (hashSecret sha256 raw)
  writePassword .root (.json ⟨storeSchema, target.label⟩)
  if let some old := active then
    (clearSlot old).ignore
  if legacyAccount then
    (deleteOptional .legacy).ignore

-- The root goes last.
def delete : KeyringProgram Unit := do
  clearSlot .a
  clearSlot .b
  deleteOptional .root
  if legacyAccount then
    deleteOptional .legacy

-- What a save has come to.
structure Saved where
  raw     : String
  written : List KeyringAccount
  outcome : StoreOutcome String Unit
deriving DecidableEq

structure SaveEvent where
  raw     : String
  answers : List (StoreAnswer KeyringFailure)

-- Saves of values that have a size which the store can hold, one after another. Each of them gets the
-- answers of the keyring, and is interrupted after the last one.
def machine : Machine ((k : KeyringAccount) → Option k.Value) SaveEvent Saved where
  init s := ∀ k, k ≠ .legacy → s k = none
  step s e :=
    if 1 ≤ e.raw.length ∧ e.raw.length ≤ maxChunks * chunkCharLimit then
      let (d, outcome) := (save sha256 legacyAccount e.raw).exec e.answers ⟨s, []⟩
      some (d.store, [⟨e.raw, d.written, outcome⟩])
    else
      none

inductive StoreCall
  | save (raw : String)
  | delete
deriving DecidableEq

-- What a call has come to.
structure StoreCalled where
  call    : StoreCall
  written : List KeyringAccount
  outcome : StoreOutcome String Unit
deriving DecidableEq

def StoreCall.program : StoreCall → KeyringProgram Unit
  | save raw => ChunkedCredentialStore.save sha256 legacyAccount raw
  | delete   => ChunkedCredentialStore.delete legacyAccount

-- Calls of an empty store, one after another. Each of them gets the answers of the keyring, and is
-- interrupted after the last one.
def calls : Machine ((k : KeyringAccount) → Option k.Value) (StoreCall × List (StoreAnswer KeyringFailure))
    StoreCalled where
  init s := ∀ k, s k = none
  step s e :=
    let (d, outcome) := (e.1.program sha256 legacyAccount).exec e.2 ⟨s, []⟩
    some (d.store, [⟨e.1, d.written, outcome⟩])

end ChunkedCredentialStore
