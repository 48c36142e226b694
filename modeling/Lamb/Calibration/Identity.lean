import Lamb.Calibration.Commit
import Lamb.Lib.Fields
import Lamb.Lib.Text

/-!
The identity of a configured input and the check that a calibration still stands
for it. An identity is the digest of its backend, its selector, its name and its
source, each behind its own length, so two inputs that differ in one of them are
hashed from different bytes. `sha256` is a parameter.
-/

namespace Lamb.Calibration

open Lamb.Lib

inductive InputBackend
  | pipeWire
  | jack
  deriving DecidableEq, Repr

inductive ConfiguredDeviceSelector
  | pipeWireTarget (value : String)
  | pipeWireAuto
  | jackSourceClient (value : String)
  deriving DecidableEq, Repr

inductive LiveDeviceKeyKind
  | hardwareSerial
  | objectPath
  | nodeName
  | jackSourceClient
  deriving DecidableEq, Repr

def canonicalIdentityField (value label : String) : Result String :=
  if Text.trim value = "" then .error (.validation (label ++ " must be non-empty"))
  else .ok (Text.trim value)

def validateJackSource (client source : String) : Result Unit :=
  match source.toList.splitOn ':' with
  | sourceClient :: port :: rest =>
      ensure (sourceClient ≠ [] ∧ port ≠ [] ∧ rest = [] ∧ String.ofList sourceClient = client)
        (.validation "JACK source must match its non-empty source client")
  | _ => .error (.validation "JACK source must be a complete client:port")

/-! ### Live inputs -/

structure ResolvedLiveInputIdentity where
  backend : InputBackend
  keyKind : LiveDeviceKeyKind
  keyValue : String
  resolvedSource : String
  deriving DecidableEq, Repr

/-- The key kinds a backend has. -/
def LiveDeviceKeyKind.matches (backend : InputBackend) : LiveDeviceKeyKind → Bool
  | .jackSourceClient => backend = .jack
  | _ => backend = .pipeWire

def ResolvedLiveInputIdentity.new (backend : InputBackend) (keyKind : LiveDeviceKeyKind)
    (keyValue resolvedSource : String) : Result ResolvedLiveInputIdentity := do
  let keyValue ← canonicalIdentityField keyValue "live device key"
  let resolvedSource ← canonicalIdentityField resolvedSource "resolved source"
  ensure (keyKind.matches backend)
    (.validation "live device key kind does not match backend")
  match backend with
  | .jack => validateJackSource keyValue resolvedSource
  | .pipeWire => pure ()
  pure ⟨backend, keyKind, keyValue, resolvedSource⟩

def ResolvedLiveInputIdentity.validateCanonical (live : ResolvedLiveInputIdentity) :
    Result Unit := do
  let canonical ← ResolvedLiveInputIdentity.new live.backend live.keyKind live.keyValue
    live.resolvedSource
  ensure (live = canonical) (.validation "resolved live input identity is not canonical")

/-! ### Configured inputs -/

structure ConfiguredInputIdentity where
  backend : InputBackend
  selector : ConfiguredDeviceSelector
  name : String
  source : String
  inputId : String
  deriving DecidableEq, Repr

/-- `str::as_bytes`. -/
def asBytes (text : String) : List UInt8 :=
  text.toByteArray.data.toList

/-- What has been fed to the hasher is kept as it is: `update` appends to it. -/
def hashIdentityField (hasher value : List UInt8) : Result (List UInt8) :=
  if value.length < 2 ^ 64 then .ok (hasher ++ (bigEndian 8 value.length ++ value))
  else .error (.validation "identity field too long")

def InputBackend.bytes : InputBackend → List UInt8
  | .pipeWire => asBytes "pipewire"
  | .jack => asBytes "jack"

def ConfiguredDeviceSelector.canonical :
    ConfiguredDeviceSelector → Result ConfiguredDeviceSelector
  | .pipeWireTarget value => .pipeWireTarget <$> canonicalIdentityField value "PipeWire target"
  | .pipeWireAuto => .ok .pipeWireAuto
  | .jackSourceClient value =>
      .jackSourceClient <$> canonicalIdentityField value "JACK source client"

def ConfiguredDeviceSelector.matches (backend : InputBackend) : ConfiguredDeviceSelector → Bool
  | .pipeWireTarget _ => backend = .pipeWire
  | .pipeWireAuto => backend = .pipeWire
  | .jackSourceClient _ => backend = .jack

def ConfiguredDeviceSelector.hash (hasher : List UInt8) :
    ConfiguredDeviceSelector → Result (List UInt8)
  | .pipeWireTarget value => do
      let hasher ← hashIdentityField hasher (asBytes "pipewire-target")
      hashIdentityField hasher (asBytes value)
  | .pipeWireAuto => hashIdentityField hasher (asBytes "pipewire-auto")
  | .jackSourceClient value => do
      let hasher ← hashIdentityField hasher (asBytes "jack-source-client")
      hashIdentityField hasher (asBytes value)

/-- A JACK client has to be that of its source. -/
def ConfiguredDeviceSelector.validateSource (source : String) :
    ConfiguredDeviceSelector → Result Unit
  | .jackSourceClient client => validateJackSource client source
  | _ => .ok ()

/-- The bytes `ConfiguredInputIdentity::new` feeds to the hasher. -/
def identityPreimage (backend : InputBackend) (selector : ConfiguredDeviceSelector)
    (name source : String) : Result (List UInt8) := do
  let hasher := asBytes "lamb/configured-input-identity/v2\x00"
  let hasher ← hashIdentityField hasher backend.bytes
  let hasher ← selector.hash hasher
  let hasher ← hashIdentityField hasher (asBytes name)
  hashIdentityField hasher (asBytes source)

section Identity

variable (sha256 : List UInt8 → List UInt8)

def ConfiguredInputIdentity.new (backend : InputBackend) (selector : ConfiguredDeviceSelector)
    (name source : String) : Result ConfiguredInputIdentity := do
  let name ← canonicalIdentityField name "configured channel name"
  let source ← canonicalIdentityField source "configured source"
  let selector ← selector.canonical
  ensure (selector.matches backend)
    (.validation "configured device selector does not match backend")
  selector.validateSource source
  let hasher ← identityPreimage backend selector name source
  pure ⟨backend, selector, name, source, lowerHex (sha256 hasher)⟩

/-- Lower case hexadecimal digits, as many as a digest has. -/
def exactLowercaseSha256 (inputId : String) : Bool :=
  (asBytes inputId).length == 64 &&
    (asBytes inputId).all fun byte =>
      (0x30 ≤ byte && byte ≤ 0x39) || (0x61 ≤ byte && byte ≤ 0x66)

def ConfiguredInputIdentity.validateCanonical (input : ConfiguredInputIdentity) :
    Result Unit := do
  let canonical ← ConfiguredInputIdentity.new sha256 input.backend input.selector input.name
    input.source
  ensure (exactLowercaseSha256 input.inputId = true ∧ input = canonical)
    (.validation "configured input identity is not canonical")

end Identity

/-! ### The validity of a calibration -/

inductive StaleReason
  | missingCalibrationId
  | missingState
  | missingMetadata
  | corruptMetadata
  | missingSample
  | corruptSample
  | generationMismatch
  | detectorMismatch
  | sampleRateMismatch
  | inputMismatch
  | missingLiveIdentity
  | liveIdentityMismatch
  | expired
  | futureTimestamp
  | incoherentTimestamp
  | thresholdMismatch
  deriving DecidableEq, Repr

inductive CalibrationValidity
  | valid
  | stale (reason : StaleReason)
  deriving DecidableEq, Repr

/-- The fields of `CalibrationMetadata` that `validate` reads; `φ` are its
`f32` values. -/
structure CalibrationMetadata (φ : Type) where
  version : ℕ
  calibrationId : String
  configuredInput : Option ConfiguredInputIdentity
  resolvedLiveInput : Option ResolvedLiveInputIdentity
  inputId : String
  detectorVersion : String
  thresholdDbfs : φ
  observedPeak : φ
  frames : ℕ
  sampleRate : ℕ
  createdAtUnixSeconds : ℕ

/-- What `validate` reads of the store, and the comparisons of its floating point
values: `γ` is an open generation, `φ` an `f32` and `δ` an `f64`. -/
structure CalibrationStore (γ φ δ : Type) where
  maximumFrames : ℕ
  openGeneration : String → String → Result γ
  readMetadataAt : γ → Result (CalibrationMetadata φ)
  validateWavAt : γ → ℕ → ℕ → Result φ
  sameThreshold : φ → δ → Bool
  exceeds : φ → φ → Bool

def staleSeconds : ℕ := 30 * 24 * 60 * 60

def windowedRmsPeakDetectorVersion : String := "windowed-rms-peak-v1"

def safeId (id : String) : Bool :=
  id ≠ "" && (asBytes id).length ≤ 128 &&
    (asBytes id).all fun byte =>
      (0x30 ≤ byte && byte ≤ 0x39) || (0x41 ≤ byte && byte ≤ 0x5a) ||
        (0x61 ≤ byte && byte ≤ 0x7a) || byte == 0x2d || byte == 0x5f

section Validate

variable {γ φ δ : Type} (sha256 : List UInt8 → List UInt8) (store : CalibrationStore γ φ δ)

/-- The checks of `validate` on a generation that has been opened. -/
def validateGeneration (threshold : ActivityThresholdConfig δ) (input : ConfiguredInputIdentity)
    (live : Option ResolvedLiveInputIdentity) (sampleRate now : ℕ) (id : String)
    (generation : γ) : CalibrationValidity :=
  match store.readMetadataAt generation with
  | .error (.io .notFound) => .stale .missingMetadata
  | .error _ => .stale .corruptMetadata
  | .ok metadata =>
      if store.maximumFrames < metadata.frames then .stale .corruptMetadata
      else if metadata.calibrationId ≠ id then .stale .generationMismatch
      else if metadata.version = 1 then .stale .missingLiveIdentity
      else if metadata.inputId ≠ input.inputId ∨ metadata.configuredInput ≠ some input then
        .stale .inputMismatch
      else if metadata.resolvedLiveInput = none ∨ live = none then .stale .missingLiveIdentity
      else if metadata.resolvedLiveInput ≠ live then .stale .liveIdentityMismatch
      else if metadata.detectorVersion ≠ windowedRmsPeakDetectorVersion then
        .stale .detectorMismatch
      else if metadata.sampleRate ≠ sampleRate then .stale .sampleRateMismatch
      else if now < metadata.createdAtUnixSeconds then .stale .futureTimestamp
      else if metadata.createdAtUnixSeconds ≠ threshold.updatedAtUnixSeconds then
        .stale .incoherentTimestamp
      else if store.sameThreshold metadata.thresholdDbfs threshold.thresholdDbfs = false then
        .stale .thresholdMismatch
      else if staleSeconds < now - metadata.createdAtUnixSeconds then .stale .expired
      else
        match store.validateWavAt generation metadata.sampleRate metadata.frames with
        | .error (.io .notFound) => .stale .missingSample
        | .error _ => .stale .corruptSample
        | .ok sampleAbsPeak =>
            if store.exceeds metadata.observedPeak sampleAbsPeak then .stale .corruptMetadata
            else .valid

/-- `CalibrationStore::validate`. -/
def validate (threshold : ActivityThresholdConfig δ) (input : ConfiguredInputIdentity)
    (live : Option ResolvedLiveInputIdentity) (sampleRate now : ℕ) :
    Result CalibrationValidity := do
  input.validateCanonical sha256
  if threshold.inputId ≠ input.inputId then pure (.stale .inputMismatch)
  else if threshold.thresholdSource = .manual then pure .valid
  else
    live.elim (.ok ()) ResolvedLiveInputIdentity.validateCanonical
    match threshold.calibrationId.filter (· ≠ "") with
    | none => pure (.stale .missingCalibrationId)
    | some id =>
        if safeId id = false then pure (.stale .generationMismatch)
        else
          match store.openGeneration input.inputId id with
          | .error _ => pure (.stale .missingState)
          | .ok generation =>
              pure (validateGeneration store threshold input live sampleRate now id generation)

end Validate

/-! ### The bytes that are hashed -/

theorem asBytes_injective : Function.Injective asBytes := by
  intro text other h
  apply String.toByteArray_inj.mp
  exact ByteArray.ext (Array.toList_inj.mp h)

theorem hashIdentityField_eq_ok {hasher value hashed : List UInt8}
    (h : hashIdentityField hasher value = .ok hashed) :
    value.length < 2 ^ 64 ∧ hashed = hasher ++ field value := by
  unfold hashIdentityField at h
  split at h
  next hlength => exact ⟨hlength, (Except.ok.inj h).symm⟩
  · cases h

def ConfiguredDeviceSelector.fields : ConfiguredDeviceSelector → List (List UInt8)
  | .pipeWireTarget value => [asBytes "pipewire-target", asBytes value]
  | .pipeWireAuto => [asBytes "pipewire-auto"]
  | .jackSourceClient value => [asBytes "jack-source-client", asBytes value]

/-- The fields an identity is hashed from. -/
def identityFields (backend : InputBackend) (selector : ConfiguredDeviceSelector)
    (name source : String) : List (List UInt8) :=
  backend.bytes :: (selector.fields ++ [asBytes name, asBytes source])

theorem ConfiguredDeviceSelector.hash_eq_ok {selector : ConfiguredDeviceSelector}
    {hasher hashed : List UInt8} (h : selector.hash hasher = .ok hashed) :
    (∀ value ∈ selector.fields, value.length < 2 ^ 64) ∧
      hashed = hasher ++ selector.fields.flatMap field := by
  cases selector with
  | pipeWireTarget value =>
      obtain ⟨middle, hmiddle, hlast⟩ := bind_eq_ok.mp h
      obtain ⟨htag, rfl⟩ := hashIdentityField_eq_ok hmiddle
      obtain ⟨hvalue, rfl⟩ := hashIdentityField_eq_ok hlast
      refine ⟨?_, by simp [fields]⟩
      rw [fields, List.forall_mem_cons, List.forall_mem_singleton]
      exact ⟨htag, hvalue⟩
  | pipeWireAuto =>
      obtain ⟨htag, rfl⟩ := hashIdentityField_eq_ok h
      refine ⟨?_, by simp [fields]⟩
      rw [fields, List.forall_mem_singleton]
      exact htag
  | jackSourceClient value =>
      obtain ⟨middle, hmiddle, hlast⟩ := bind_eq_ok.mp h
      obtain ⟨htag, rfl⟩ := hashIdentityField_eq_ok hmiddle
      obtain ⟨hvalue, rfl⟩ := hashIdentityField_eq_ok hlast
      refine ⟨?_, by simp [fields]⟩
      rw [fields, List.forall_mem_cons, List.forall_mem_singleton]
      exact ⟨htag, hvalue⟩

theorem identityPreimage_eq_ok {backend : InputBackend} {selector : ConfiguredDeviceSelector}
    {name source : String} {preimage : List UInt8}
    (h : identityPreimage backend selector name source = .ok preimage) :
    (∀ value ∈ identityFields backend selector name source, value.length < 2 ^ 64) ∧
      preimage = asBytes "lamb/configured-input-identity/v2\x00" ++
        (identityFields backend selector name source).flatMap field := by
  obtain ⟨first, hfirst, h⟩ := bind_eq_ok.mp h
  obtain ⟨second, hsecond, h⟩ := bind_eq_ok.mp h
  obtain ⟨third, hthird, h⟩ := bind_eq_ok.mp h
  obtain ⟨hbackend, rfl⟩ := hashIdentityField_eq_ok hfirst
  obtain ⟨hselector, rfl⟩ := ConfiguredDeviceSelector.hash_eq_ok hsecond
  obtain ⟨hname, rfl⟩ := hashIdentityField_eq_ok hthird
  obtain ⟨hsource, rfl⟩ := hashIdentityField_eq_ok h
  refine ⟨?_, by simp [identityFields]⟩
  intro value hvalue
  simp only [identityFields, List.mem_cons, List.mem_append, List.not_mem_nil, or_false] at hvalue
  rcases hvalue with rfl | hvalue | rfl | rfl
  · exact hbackend
  · exact hselector value hvalue
  · exact hname
  · exact hsource

theorem InputBackend.bytes_injective : Function.Injective InputBackend.bytes := by
  intro backend backend' h
  cases backend <;> cases backend'
  · rfl
  · exact absurd (asBytes_injective h) (by decide)
  · exact absurd (asBytes_injective h) (by decide)
  · rfl

/-- The tag and the number of fields tell the selectors apart. -/
theorem ConfiguredDeviceSelector.fields_append_inj {selector selector' : ConfiguredDeviceSelector}
    {rest rest' : List (List UInt8)} (hrest : rest.length = rest'.length)
    (h : selector.fields ++ rest = selector'.fields ++ rest') :
    selector = selector' ∧ rest = rest' := by
  obtain ⟨hfields, hrest⟩ := List.append_inj' h hrest
  refine ⟨?_, hrest⟩
  cases selector with
  | pipeWireTarget value =>
      cases selector' with
      | pipeWireTarget value' =>
          simp only [fields, List.cons.injEq, and_true, true_and] at hfields
          rw [asBytes_injective hfields]
      | pipeWireAuto => simp [fields] at hfields
      | jackSourceClient value' =>
          simp only [fields, List.cons.injEq, and_true] at hfields
          exact absurd (asBytes_injective hfields.1) (by decide)
  | pipeWireAuto =>
      cases selector' with
      | pipeWireTarget value' => simp [fields] at hfields
      | pipeWireAuto => rfl
      | jackSourceClient value' => simp [fields] at hfields
  | jackSourceClient value =>
      cases selector' with
      | pipeWireTarget value' =>
          simp only [fields, List.cons.injEq, and_true] at hfields
          exact absurd (asBytes_injective hfields.1) (by decide)
      | pipeWireAuto => simp [fields] at hfields
      | jackSourceClient value' =>
          simp only [fields, List.cons.injEq, and_true, true_and] at hfields
          rw [asBytes_injective hfields]

/-- No byte string is hashed for two identities. -/
theorem identityPreimage_inj {backend backend' : InputBackend}
    {selector selector' : ConfiguredDeviceSelector} {name name' source source' : String}
    {preimage : List UInt8}
    (h : identityPreimage backend selector name source = .ok preimage)
    (h' : identityPreimage backend' selector' name' source' = .ok preimage) :
    backend = backend' ∧ selector = selector' ∧ name = name' ∧ source = source' := by
  obtain ⟨hlengths, hpreimage⟩ := identityPreimage_eq_ok h
  obtain ⟨hlengths', hpreimage'⟩ := identityPreimage_eq_ok h'
  have hfields := flatMap_field_inj hlengths hlengths'
    (List.append_cancel_left (hpreimage.symm.trans hpreimage'))
  obtain ⟨hbackend, hrest⟩ := List.cons.inj hfields
  obtain ⟨hselector, hlast⟩ := ConfiguredDeviceSelector.fields_append_inj (by rfl) hrest
  simp only [List.cons.injEq, and_true] at hlast
  exact ⟨InputBackend.bytes_injective hbackend, hselector, asBytes_injective hlast.1,
    asBytes_injective hlast.2⟩

/-! ### Canonical identities -/

section Canonical

variable {sha256 : List UInt8 → List UInt8}

theorem ConfiguredInputIdentity.new_eq_ok {backend : InputBackend}
    {selector : ConfiguredDeviceSelector} {name source : String} {input : ConfiguredInputIdentity}
    (h : ConfiguredInputIdentity.new sha256 backend selector name source = .ok input) :
    ∃ preimage,
      identityPreimage input.backend input.selector input.name input.source = .ok preimage ∧
      input.inputId = lowerHex (sha256 preimage) := by
  obtain ⟨name, -, h⟩ := bind_eq_ok.mp h
  obtain ⟨source, -, h⟩ := bind_eq_ok.mp h
  obtain ⟨selector, -, h⟩ := bind_eq_ok.mp h
  obtain ⟨-, -, h⟩ := bind_eq_ok.mp h
  obtain ⟨-, -, h⟩ := bind_eq_ok.mp h
  obtain ⟨preimage, hpreimage, h⟩ := bind_eq_ok.mp h
  cases h
  exact ⟨preimage, hpreimage, rfl⟩

theorem ConfiguredInputIdentity.exists_preimage {input : ConfiguredInputIdentity}
    (h : input.validateCanonical sha256 = .ok ()) :
    ∃ preimage,
      identityPreimage input.backend input.selector input.name input.source = .ok preimage ∧
      input.inputId = lowerHex (sha256 preimage) := by
  obtain ⟨canonical, hnew, h⟩ := bind_eq_ok.mp h
  obtain ⟨-, rfl⟩ := ensure_eq_ok.mp h
  exact ConfiguredInputIdentity.new_eq_ok hnew

variable {γ φ δ : Type} {store : CalibrationStore γ φ δ} {threshold : ActivityThresholdConfig δ}
  {input : ConfiguredInputIdentity} {live : Option ResolvedLiveInputIdentity} {sampleRate now : ℕ}

/-- A valid threshold has the digest of its input, and a calibrated one a generation
that was recorded for the input. -/
theorem validate_eq_valid (h : validate sha256 store threshold input live sampleRate now =
    .ok .valid) :
    threshold.inputId = input.inputId ∧
      (threshold.thresholdSource = .calibrated → ∃ id generation metadata,
        threshold.calibrationId = some id ∧
        store.openGeneration input.inputId id = .ok generation ∧
        store.readMetadataAt generation = .ok metadata ∧
        metadata.configuredInput = some input) := by
  obtain ⟨-, -, h⟩ := bind_eq_ok.mp h
  split at h
  · cases h
  next hinput =>
    refine ⟨not_not.mp hinput, fun hsource => ?_⟩
    rw [if_neg (by rw [hsource]; decide)] at h
    obtain ⟨-, -, h⟩ := bind_eq_ok.mp h
    split at h
    · cases h
    next id hid =>
      split at h
      · cases h
      · split at h
        · cases h
        next generation hgeneration =>
          have h := Except.ok.inj h
          unfold validateGeneration at h
          split at h
          · cases h
          · cases h
          next metadata hmetadata =>
            refine ⟨id, generation, metadata, ?_, hgeneration, hmetadata, ?_⟩
            · exact (Option.filter_eq_some_iff.mp hid).1
            · by_contra hother
              rw [if_pos (Or.inr hother)] at h
              repeat' split at h
              all_goals cases h

end Canonical

/-- Inputs that differ are hashed from different bytes. Unless these two collide, a
threshold that carries the digest of the one, or whose generation was recorded for
the one, is not valid for the other. -/
theorem input_identity_injective {γ φ δ : Type} (sha256 : List UInt8 → List UInt8)
    (one other : ConfiguredInputIdentity) (hone : one.validateCanonical sha256 = .ok ())
    (hother : other.validateCanonical sha256 = .ok ())
    (hdiffer : one.backend ≠ other.backend ∨ one.selector ≠ other.selector ∨
      one.name ≠ other.name ∨ one.source ≠ other.source) :
    ∃ bytes bytes',
      identityPreimage one.backend one.selector one.name one.source = .ok bytes ∧
      identityPreimage other.backend other.selector other.name other.source = .ok bytes' ∧
      bytes ≠ bytes' ∧
      ((sha256 bytes = sha256 bytes' → bytes = bytes') →
        ∀ (store : CalibrationStore γ φ δ) (threshold : ActivityThresholdConfig δ)
          (live : Option ResolvedLiveInputIdentity) (sampleRate now : ℕ),
          (threshold.inputId = one.inputId ∨
            threshold.thresholdSource = .calibrated ∧
              ∀ id generation metadata, threshold.calibrationId = some id →
                store.openGeneration other.inputId id = .ok generation →
                store.readMetadataAt generation = .ok metadata →
                metadata.configuredInput = some one) →
          validate sha256 store threshold other live sampleRate now ≠ .ok .valid) := by
  obtain ⟨bytes, hbytes, hid⟩ := ConfiguredInputIdentity.exists_preimage hone
  obtain ⟨bytes', hbytes', hid'⟩ := ConfiguredInputIdentity.exists_preimage hother
  have hne : bytes ≠ bytes' := by
    rintro rfl
    obtain ⟨hbackend, hselector, hname, hsource⟩ := identityPreimage_inj hbytes hbytes'
    rcases hdiffer with h | h | h | h
    · exact h hbackend
    · exact h hselector
    · exact h hname
    · exact h hsource
  refine ⟨bytes, bytes', hbytes, hbytes', hne, fun hcollision => ?_⟩
  intro store threshold live sampleRate now hmade hvalid
  obtain ⟨hinput, hgeneration⟩ := validate_eq_valid hvalid
  rcases hmade with hmade | ⟨hsource, hmade⟩
  · apply hne
    apply hcollision
    apply lowerHex_injective
    rw [← hid, ← hid', ← hmade, hinput]
  · obtain ⟨id, generation, metadata, hcalibration, hopen, hread, hconfigured⟩ :=
      hgeneration hsource
    have hsame := (hmade id generation metadata hcalibration hopen hread).symm.trans hconfigured
    cases hsame
    rcases hdiffer with h | h | h | h
    · exact h rfl
    · exact h rfl
    · exact h rfl
    · exact h rfl

/-- SHA-256 on the bytes of two inputs. -/
def sha256OfTwo (bytes : List UInt8) : List UInt8 :=
  if .ok bytes = identityPreimage .pipeWire .pipeWireAuto "mic" "in" then
    [0x9f, 0x63, 0x32, 0x9d, 0xea, 0x02, 0xcf, 0x45, 0x77, 0x13, 0x3a, 0x42,
      0x0a, 0x97, 0x5d, 0xfb, 0x63, 0xb4, 0xed, 0x6d, 0x45, 0x44, 0x95, 0x87,
      0xaf, 0x21, 0x32, 0xde, 0xa3, 0x8c, 0x21, 0xfb]
  else
    [0x63, 0xad, 0x30, 0xde, 0x57, 0x3a, 0x52, 0x34, 0xf2, 0x5c, 0xfb, 0xea,
      0x30, 0x4a, 0x95, 0x9c, 0xe4, 0x06, 0x12, 0x69, 0x84, 0x27, 0x59, 0x41,
      0xb0, 0x62, 0x55, 0xe6, 0x46, 0x29, 0x1e, 0xa6]

def automaticInput : ConfiguredInputIdentity where
  backend := .pipeWire
  selector := .pipeWireAuto
  name := "mic"
  source := "in"
  inputId := "9f63329dea02cf4577133a420a975dfb63b4ed6d45449587af2132dea38c21fb"

def targetedInput : ConfiguredInputIdentity where
  backend := .pipeWire
  selector := .pipeWireTarget "usb"
  name := "mic"
  source := "in"
  inputId := "63ad30de573a5234f25cfbea304a959ce406126984275941b06255e646291ea6"

theorem input_identity_injective_automatic :
    automaticInput.validateCanonical sha256OfTwo = .ok () ∧
      ∀ (store : CalibrationStore Unit ℤ ℤ) (threshold : ActivityThresholdConfig ℤ),
        threshold.inputId = automaticInput.inputId →
        validate sha256OfTwo store threshold targetedInput none 48000 0 ≠ .ok .valid := by
  have hautomatic : automaticInput.validateCanonical sha256OfTwo = .ok () := by decide +kernel
  have htargeted : targetedInput.validateCanonical sha256OfTwo = .ok () := by decide +kernel
  refine ⟨hautomatic, fun store threshold hthreshold => ?_⟩
  obtain ⟨bytes, bytes', hbytes, hbytes', -, hnever⟩ := input_identity_injective sha256OfTwo
    automaticInput targetedInput hautomatic htargeted (.inr (.inl (by decide)))
  refine hnever ?_ store threshold none 48000 0 (.inl hthreshold)
  intro hsame
  have hdigests : sha256OfTwo bytes ≠ sha256OfTwo bytes' := by
    have hmaps : (identityPreimage .pipeWire .pipeWireAuto "mic" "in").map sha256OfTwo ≠
        (identityPreimage .pipeWire (.pipeWireTarget "usb") "mic" "in").map sha256OfTwo := by
      decide +kernel
    intro hequal
    apply hmaps
    have hone : identityPreimage .pipeWire .pipeWireAuto "mic" "in" = .ok bytes := hbytes
    have hother : identityPreimage .pipeWire (.pipeWireTarget "usb") "mic" "in" = .ok bytes' :=
      hbytes'
    rw [hone, hother]
    exact congrArg Except.ok hequal
  exact absurd hsame hdigests

end Lamb.Calibration
