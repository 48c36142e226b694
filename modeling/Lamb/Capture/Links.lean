import Mathlib.Data.List.MinMax
import Mathlib.Data.List.Sort
import Mathlib.Data.List.Destutter
import Mathlib.Data.Prod.Lex
import Mathlib.Data.String.Basic
import Lamb.Lib.Loop
import Lamb.Lib.Text

/-!
The links between the configured source ports and the inputs of the capture
stream. The registry lists ports in the order they appeared; the links, whether
the stream is ready for them and the ports the configuration names do not depend
on that order. Only the text of a failure does: it names the first port found to
be malformed. Errors are the texts of `LambError::Capture`.
-/

namespace Lamb.Capture

open Lamb.Lib

structure AvailableNode where
  id : ℕ
  name : Option String
  description : Option String
  deriving DecidableEq, Repr

structure AvailablePort where
  id : ℕ
  objectType : String
  nodeId : Option ℕ
  direction : Option String
  portId : Option ℕ
  name : Option String
  formatDsp : Option String
  audioFormat : Option String
  deriving DecidableEq, Repr

structure ResolvedSourcePort where
  globalId : ℕ
  nodeId : ℕ
  portId : ℕ
  name : String
  deriving DecidableEq, Repr

structure PlannedLink where
  outputNodeId : ℕ
  outputPortId : ℕ
  inputNodeId : ℕ
  inputPortId : ℕ
  deriving DecidableEq, Repr

def portInterface : String := "PipeWire:Interface:Port"

def isAudioPort (port : AvailablePort) : Bool :=
  (port.formatDsp.any fun format =>
      (Text.splitWhitespace (Text.trim format)).getLast?.any fun word =>
        Text.eqIgnoreAsciiCase word "audio") ||
    port.audioFormat.any fun format => Text.trim format ≠ ""

/-- The inputs of the stream among the ports of the registry. -/
def isInputOf (streamNodeId : ℕ) (port : AvailablePort) : Bool :=
  port.nodeId == some streamNodeId && port.direction == some "in"

/-! ### The links -/

def checkDestination (port : AvailablePort) : Except String Unit :=
  if port.objectType ≠ portInterface then
    .error ("destination port " ++ toString port.id ++ " has object type '" ++ port.objectType ++
      "'; expected 'PipeWire:Interface:Port'")
  else if port.direction ≠ some "in" then
    .error ("destination port " ++ toString port.id ++ " has direction '" ++
      port.direction.getD "<missing>" ++ "'; expected 'in'")
  else if isAudioPort port = false then
    .error ("destination port " ++ toString port.id ++ " is not audio")
  else if port.portId = none then
    .error ("destination port " ++ toString port.id ++ " is missing port.id")
  else .ok ()

/-- The key the destinations are sorted by; each has been checked to have one. -/
def AvailablePort.key (port : AvailablePort) : ℕ :=
  port.portId.getD 0

def checkDuplicates : List AvailablePort → Except String Unit
  | first :: second :: rest =>
      if first.portId = second.portId then
        .error ("duplicate destination port.id " ++ toString first.key)
      else checkDuplicates (second :: rest)
  | _ => .ok ()

def planExplicitLinks (sources : List ResolvedSourcePort) (streamNodeId : ℕ)
    (ports : List AvailablePort) : Except String (List PlannedLink) := do
  let destinations := ports.filter (isInputOf streamNodeId)
  destinations.forM checkDestination
  let destinations := destinations.insertionSort fun first second => first.key ≤ second.key
  checkDuplicates destinations
  if destinations.length ≠ sources.length then
    .error ("destination port count " ++ toString destinations.length ++
      " does not match source count " ++ toString sources.length)
  else
    pure (sources.zipWith (fun source destination =>
      ⟨source.nodeId, source.globalId, streamNodeId, destination.id⟩) destinations)

/-! ### The readiness of the stream -/

inductive DestinationReadiness
  | pending
  | ready
  | failed (message : String)
  deriving DecidableEq, Repr

/-- The loop of `destination_readiness` over the inputs; `ids` is its set. -/
def collectIds (ids : List ℕ) : List AvailablePort → Except String (List ℕ)
  | [] => .ok ids
  | port :: inputs =>
      match port.portId with
      | none => .error "PipeWire stream input port is missing port.id"
      | some localId =>
          if port.objectType ≠ portInterface ∨ isAudioPort port = false then
            .error "PipeWire stream has malformed or duplicate input ports"
          else if localId ∈ ids then
            .error "PipeWire stream has malformed or duplicate input ports"
          else collectIds (ids ++ [localId]) inputs

def destinationReadiness (ports : List AvailablePort) (streamNodeId expected : ℕ) :
    DestinationReadiness :=
  match collectIds [] (ports.filter (isInputOf streamNodeId)) with
  | .error message => .failed message
  | .ok ids =>
      if ids.length < expected then .pending
      else if expected < ids.length then
        .failed ("destination input port count " ++ toString ids.length ++
          " exceeds source count " ++ toString expected)
      else .ready

/-! ### The source ports -/

inductive TargetResolutionError
  | portMissing (message : String)
  | invalidSelector (message : String)
  deriving DecidableEq, Repr

def nodeDisplayName (nodes : List AvailableNode) (nodeId : ℕ) : String :=
  ((nodes.find? fun node => node.id == nodeId).bind fun node =>
    node.name.or node.description).getD ("node-" ++ toString nodeId)

/-- The source ports that are configured have to differ. -/
def checkConfigured (seen : List String) : List String → Except TargetResolutionError Unit
  | [] => .ok ()
  | source :: rest =>
      if source ∈ seen then
        .error (.invalidSelector ("capture source '" ++ source ++
          "' is configured more than once"))
      else checkConfigured (seen ++ [source]) rest

/-- A port the configuration could have meant. -/
def isOffered (selected : AvailableNode) (port : AvailablePort) : Bool :=
  port.objectType == portInterface && port.nodeId == some selected.id &&
    port.direction == some "out" && port.portId.isSome && isAudioPort port

/-- The names of the audio outputs of the target, for the error text. -/
def availableOutputs (selected : AvailableNode) (ports : List AvailablePort) : String :=
  let available := (((ports.filter (isOffered selected)).filterMap AvailablePort.name).insertionSort
    (· ≤ ·)).destutter (· ≠ ·)
  if available = [] then "none" else ", ".intercalate available

/-- The checks on the one port of the target that has the configured name. -/
def checkSource (source : String) (port : AvailablePort) :
    Except TargetResolutionError ResolvedSourcePort :=
  if port.objectType ≠ portInterface then
    .error (.invalidSelector ("source port '" ++ source ++ "' has object type '" ++
      port.objectType ++ "'; expected 'PipeWire:Interface:Port'"))
  else
    match port.nodeId with
    | none =>
        .error (.invalidSelector ("source port '" ++ source ++ "' is missing node.id"))
    | some nodeId =>
        if port.direction ≠ some "out" then
          .error (.invalidSelector ("source port '" ++ source ++ "' has direction '" ++
            port.direction.getD "<missing>" ++ "'; expected 'out'"))
        else if isAudioPort port = false then
          .error (.invalidSelector ("source port '" ++ source ++ "' is not audio (format.dsp='" ++
            port.formatDsp.getD "<missing>" ++ "')"))
        else
          match port.portId with
          | none =>
              .error (.invalidSelector ("source port '" ++ source ++ "' is missing port.id"))
          | some portId => .ok ⟨port.id, nodeId, portId, source⟩

def resolveSourcePort (selected : AvailableNode) (nodes : List AvailableNode)
    (ports : List AvailablePort) (source : String) :
    Except TargetResolutionError ResolvedSourcePort :=
  let targetName := nodeDisplayName nodes selected.id
  let namedMatches := ports.filter fun port => port.name == some source
  match namedMatches.filter fun port => port.nodeId == some selected.id with
  | _ :: _ :: _ =>
      .error (.invalidSelector ("source port '" ++ source ++ "' is ambiguous on target '" ++
        targetName ++ "'"))
  | [port] => checkSource source port
  | [] =>
      if namedMatches.any fun port => port.nodeId.isNone then
        .error (.invalidSelector ("source port '" ++ source ++ "' is missing node.id"))
      else
        match (namedMatches.filterMap AvailablePort.nodeId).argmin
            fun nodeId => toLex (nodeDisplayName nodes nodeId, nodeId) with
        | some otherNodeId =>
            .error (.portMissing ("source port '" ++ source ++ "' belongs to node '" ++
              nodeDisplayName nodes otherNodeId ++ "', expected '" ++ targetName ++ "'"))
        | none =>
            .error (.portMissing ("source port '" ++ source ++ "' was not found on target '" ++
              targetName ++ "'; available target audio outputs: " ++
              availableOutputs selected ports))

def resolveSourcePortsTyped (capturePorts : List String) (selected : AvailableNode)
    (nodes : List AvailableNode) (ports : List AvailablePort) :
    Except TargetResolutionError (List ResolvedSourcePort) := do
  checkConfigured [] capturePorts
  capturePorts.mapM (resolveSourcePort selected nodes ports)

/-! ### When the links are planned -/

section Plan

variable {sources : List ResolvedSourcePort} {streamNodeId : ℕ} {ports inputs : List AvailablePort}

/-- A port of the stream that can be linked to. -/
structure AvailablePort.WellFormed (port : AvailablePort) : Prop where
  interface : port.objectType = portInterface
  audio : isAudioPort port = true
  numbered : port.portId.isSome = true

/-- Inputs that can be linked to and told apart by their numbers. -/
structure Linkable (inputs : List AvailablePort) : Prop where
  wellFormed : ∀ port ∈ inputs, port.WellFormed
  distinct : (inputs.map AvailablePort.portId).Nodup

theorem Linkable.perm {inputs' : List AvailablePort} (h : Linkable inputs)
    (hperm : inputs.Perm inputs') : Linkable inputs' where
  wellFormed := fun port hport => h.wellFormed port (hperm.mem_iff.mpr hport)
  distinct := (hperm.map _).nodup_iff.mp h.distinct

theorem AvailablePort.WellFormed.portId_eq {port : AvailablePort} (h : port.WellFormed) :
    port.portId = some port.key := by
  obtain ⟨id, hid⟩ := Option.isSome_iff_exists.mp h.numbered
  simp [AvailablePort.key, hid]

theorem checkDestination_eq_ok {port : AvailablePort} (hinput : isInputOf streamNodeId port = true) :
    checkDestination port = .ok () ↔ port.WellFormed := by
  have hdirection : port.direction = some "in" := by
    simp only [isInputOf, Bool.and_eq_true, beq_iff_eq] at hinput
    exact hinput.2
  unfold checkDestination
  constructor
  · intro h
    repeat' split at h
    all_goals cases h
    next htype _ haudio hport =>
      exact ⟨not_not.mp htype, by simpa using haudio, by simpa [Option.isSome_iff_ne_none] using hport⟩
  · intro h
    have hport : port.portId ≠ none := by
      rw [h.portId_eq]
      simp
    rw [if_neg (not_not.mpr h.interface), if_neg (not_not.mpr hdirection),
      if_neg (by simp [h.audio]), if_neg hport]

/-- Among sorted ports only neighbours can have the same number. -/
theorem checkDuplicates_eq_ok (hsorted : inputs.Pairwise fun first second => first.key ≤ second.key)
    (hwell : ∀ port ∈ inputs, port.WellFormed) :
    checkDuplicates inputs = .ok () ↔ (inputs.map AvailablePort.portId).Nodup := by
  induction inputs with
  | nil => simp [checkDuplicates]
  | cons first inputs ih =>
      obtain ⟨hle, hsorted⟩ := List.pairwise_cons.mp hsorted
      obtain ⟨hfirst, hwell⟩ := List.forall_mem_cons.mp hwell
      cases inputs with
      | nil => simp [checkDuplicates]
      | cons second rest =>
          have hnext := ih hsorted hwell
          obtain ⟨hsecond, -⟩ := List.pairwise_cons.mp hsorted
          rw [checkDuplicates, List.map_cons, List.nodup_cons]
          by_cases heq : first.portId = second.portId
          · simp [heq]
          · rw [if_neg heq, hnext]
            refine ⟨fun h => ⟨?_, h⟩, And.right⟩
            intro hmem
            obtain ⟨port, hport, hid⟩ := List.mem_map.mp hmem
            rcases List.mem_cons.mp hport with rfl | hlater
            · exact heq hid.symm
            · have hkeys := hsecond port hlater
              have hkeys' := hle second (by simp)
              have hkey : port.key = first.key := congrArg (Option.getD · 0) hid
              apply heq
              rw [hfirst.portId_eq, (hwell second (by simp)).portId_eq]
              exact congrArg some (by omega)

/-- The inputs in the order of their numbers. -/
def sortedInputs (streamNodeId : ℕ) (ports : List AvailablePort) : List AvailablePort :=
  (ports.filter (isInputOf streamNodeId)).insertionSort fun first second => first.key ≤ second.key

theorem sortedInputs_perm (streamNodeId : ℕ) (ports : List AvailablePort) :
    (sortedInputs streamNodeId ports).Perm (ports.filter (isInputOf streamNodeId)) :=
  List.perm_insertionSort _ _

theorem sortedInputs_pairwise (streamNodeId : ℕ) (ports : List AvailablePort) :
    (sortedInputs streamNodeId ports).Pairwise fun first second => first.key ≤ second.key := by
  have : Std.Total fun first second : AvailablePort => first.key ≤ second.key :=
    ⟨fun first second => le_total first.key second.key⟩
  have : IsTrans AvailablePort fun first second => first.key ≤ second.key :=
    ⟨fun _ _ _ => le_trans⟩
  exact List.pairwise_insertionSort _ _

/-- The links that are planned: the sources in their order against the inputs in
the order of their numbers. -/
def plannedLinks (sources : List ResolvedSourcePort) (streamNodeId : ℕ)
    (inputs : List AvailablePort) : List PlannedLink :=
  sources.zipWith (fun source destination =>
    ⟨source.nodeId, source.globalId, streamNodeId, destination.id⟩) inputs

theorem planExplicitLinks_eq_ok {links : List PlannedLink} :
    planExplicitLinks sources streamNodeId ports = .ok links ↔
      Linkable (ports.filter (isInputOf streamNodeId)) ∧
        (ports.filter (isInputOf streamNodeId)).length = sources.length ∧
        links = plannedLinks sources streamNodeId (sortedInputs streamNodeId ports) := by
  have hperm := sortedInputs_perm streamNodeId ports
  have hchecks : (ports.filter (isInputOf streamNodeId)).forM checkDestination = .ok () ↔
      ∀ port ∈ ports.filter (isInputOf streamNodeId), port.WellFormed := by
    rw [forM_eq_ok]
    exact forall₂_congr fun port hport =>
      checkDestination_eq_ok (List.of_mem_filter hport)
  have hduplicates (hwell : ∀ port ∈ ports.filter (isInputOf streamNodeId), port.WellFormed) :
      checkDuplicates (sortedInputs streamNodeId ports) = .ok () ↔
        ((ports.filter (isInputOf streamNodeId)).map AvailablePort.portId).Nodup := by
    rw [checkDuplicates_eq_ok (sortedInputs_pairwise streamNodeId ports)
      fun port hport => hwell port (hperm.mem_iff.mp hport)]
    exact (hperm.map _).nodup_iff
  unfold planExplicitLinks
  rw [except_bind_eq_ok]
  constructor
  · rintro ⟨_, hwell, h⟩
    obtain ⟨_, hdistinct, h⟩ := except_bind_eq_ok.mp h
    have hwell := hchecks.mp hwell
    split at h
    · cases h
    next hlength =>
      refine ⟨⟨hwell, (hduplicates hwell).mp hdistinct⟩, ?_, (Except.ok.inj h).symm⟩
      rw [← hperm.length_eq]
      exact not_not.mp hlength
  · rintro ⟨hlinkable, hlength, rfl⟩
    refine ⟨(), hchecks.mpr hlinkable.wellFormed, except_bind_eq_ok.mpr
      ⟨(), (hduplicates hlinkable.wellFormed).mpr hlinkable.distinct, ?_⟩⟩
    rw [if_neg]
    · rfl
    · rw [not_not, ← hlength]
      exact hperm.length_eq

/-! ### When the stream is ready -/

theorem collectIds_eq_ok {ids ids' : List ℕ} (hids : ids.Nodup) :
    collectIds ids inputs = .ok ids' ↔
      (∀ port ∈ inputs, port.WellFormed) ∧
        (ids ++ inputs.map AvailablePort.key).Nodup ∧
        ids' = ids ++ inputs.map AvailablePort.key := by
  induction inputs generalizing ids with
  | nil => simp [collectIds, hids, eq_comm]
  | cons port inputs ih =>
      unfold collectIds
      cases hport : port.portId with
      | none =>
          simp only [reduceCtorEq, false_iff, not_and]
          intro hwell
          have hport' := (hwell port (by simp)).portId_eq
          rw [hport] at hport'
          cases hport'
      | some localId =>
          have hkey : port.key = localId := by simp [AvailablePort.key, hport]
          dsimp only
          split
          next hmalformed =>
            simp only [reduceCtorEq, false_iff, not_and]
            intro hwell
            have hfirst := hwell port (by simp)
            rcases hmalformed with h | h
            · exact absurd hfirst.interface h
            · rw [hfirst.audio] at h
              cases h
          next hformed =>
            have hfirst : port.WellFormed :=
              ⟨by_contra fun h => hformed (.inl h), by
                by_contra h
                exact hformed (.inr (by simpa using h)), by simp [hport]⟩
            rw [List.map_cons, hkey, List.forall_mem_cons]
            split
            next hseen =>
              simp only [reduceCtorEq, false_iff, not_and]
              intro _ hnodup
              exact fun _ => (List.nodup_append.mp hnodup).2.2 localId hseen localId (by simp) rfl
            next hnew =>
              have hids' : (ids ++ [localId]).Nodup := by
                rw [List.nodup_append]
                refine ⟨hids, List.nodup_singleton _, ?_⟩
                intro a ha b hb
                rw [List.mem_singleton.mp hb]
                rintro rfl
                exact hnew ha
              rw [ih hids', List.append_assoc, List.singleton_append]
              exact ⟨fun h => ⟨⟨hfirst, h.1⟩, h.2⟩, fun h => ⟨h.1.2, h.2⟩⟩

theorem Linkable.iff_keys :
    Linkable inputs ↔ (∀ port ∈ inputs, port.WellFormed) ∧
      (inputs.map AvailablePort.key).Nodup := by
  have hkeys (hwell : ∀ port ∈ inputs, port.WellFormed) :
      inputs.map AvailablePort.portId = (inputs.map AvailablePort.key).map some := by
    rw [List.map_map]
    exact List.map_congr_left fun port hport => (hwell port hport).portId_eq
  constructor
  · intro h
    refine ⟨h.wellFormed, ?_⟩
    have hdistinct := h.distinct
    rw [hkeys h.wellFormed] at hdistinct
    exact hdistinct.of_map _
  · rintro ⟨hwell, hdistinct⟩
    refine ⟨hwell, ?_⟩
    rw [hkeys hwell]
    exact hdistinct.map (Option.some_injective _)

theorem collectIds_ok (h : Linkable inputs) :
    collectIds [] inputs = .ok (inputs.map AvailablePort.key) := by
  obtain ⟨hwell, hdistinct⟩ := Linkable.iff_keys.mp h
  exact (collectIds_eq_ok .nil).mpr ⟨hwell, by simpa using hdistinct, by simp⟩

theorem collectIds_error (h : ¬ Linkable inputs) :
    ∃ message, collectIds [] inputs = .error message := by
  cases hcollect : collectIds [] inputs with
  | error message => exact ⟨message, rfl⟩
  | ok ids =>
      obtain ⟨hwell, hdistinct, -⟩ := (collectIds_eq_ok .nil).mp hcollect
      exact absurd (Linkable.iff_keys.mpr ⟨hwell, by simpa using hdistinct⟩) h

theorem destinationReadiness_eq_ready {expected : ℕ} :
    destinationReadiness ports streamNodeId expected = .ready ↔
      Linkable (ports.filter (isInputOf streamNodeId)) ∧
        (ports.filter (isInputOf streamNodeId)).length = expected := by
  unfold destinationReadiness
  by_cases h : Linkable (ports.filter (isInputOf streamNodeId))
  · rw [collectIds_ok h]
    simp only [List.length_map, h, true_and]
    split
    · simp only [reduceCtorEq, false_iff]
      omega
    · split
      · simp only [reduceCtorEq, false_iff]
        omega
      · simp only [true_iff]
        omega
  · obtain ⟨message, hmessage⟩ := collectIds_error h
    rw [hmessage]
    simp [h]

theorem destinationReadiness_eq_pending {expected : ℕ} :
    destinationReadiness ports streamNodeId expected = .pending ↔
      Linkable (ports.filter (isInputOf streamNodeId)) ∧
        (ports.filter (isInputOf streamNodeId)).length < expected := by
  unfold destinationReadiness
  by_cases h : Linkable (ports.filter (isInputOf streamNodeId))
  · rw [collectIds_ok h]
    simp only [List.length_map, h, true_and]
    split
    · simp only [true_iff]
      assumption
    · split
      · simp only [reduceCtorEq, false_iff]
        omega
      · simp only [reduceCtorEq, false_iff]
        omega
  · obtain ⟨message, hmessage⟩ := collectIds_error h
    rw [hmessage]
    simp [h]

/-! ### Another order of the registry -/

variable {ports' : List AvailablePort}

theorem Linkable.perm_iff {inputs' : List AvailablePort} (hperm : inputs.Perm inputs') :
    Linkable inputs ↔ Linkable inputs' :=
  ⟨fun h => h.perm hperm, fun h => h.perm hperm.symm⟩

/-- Ports with different numbers have one order. -/
theorem sortedInputs_congr (hperm : ports.Perm ports')
    (h : Linkable (ports.filter (isInputOf streamNodeId))) :
    sortedInputs streamNodeId ports = sortedInputs streamNodeId ports' := by
  have hinputs := hperm.filter (isInputOf streamNodeId)
  refine List.Perm.eq_of_pairwise ?_ (sortedInputs_pairwise streamNodeId ports)
    (sortedInputs_pairwise streamNodeId ports')
    ((sortedInputs_perm _ _).trans (hinputs.trans (sortedInputs_perm _ _).symm))
  intro first second hfirst hsecond hle hge
  have hfirst := (sortedInputs_perm streamNodeId ports).mem_iff.mp hfirst
  have hsecond := hinputs.mem_iff.mpr
    ((sortedInputs_perm streamNodeId ports').mem_iff.mp hsecond)
  refine List.inj_on_of_nodup_map (Linkable.iff_keys.mp h).2 hfirst hsecond ?_
  exact Nat.le_antisymm hle hge

theorem planExplicitLinks_congr (hperm : ports.Perm ports') (links : List PlannedLink) :
    planExplicitLinks sources streamNodeId ports = .ok links ↔
      planExplicitLinks sources streamNodeId ports' = .ok links := by
  have hinputs := hperm.filter (isInputOf streamNodeId)
  rw [planExplicitLinks_eq_ok, planExplicitLinks_eq_ok, Linkable.perm_iff hinputs,
    hinputs.length_eq]
  refine and_congr_right fun h => and_congr_right fun _ => ?_
  rw [sortedInputs_congr hperm ((Linkable.perm_iff hinputs).mpr h)]

end Plan

/-! ### The source ports in another order -/

section Resolve

variable {selected : AvailableNode} {nodes : List AvailableNode} {ports ports' : List AvailablePort}
  {source : String}

theorem argmin_congr {α β : Type} [LinearOrder β] {f : α → β} (hf : Function.Injective f)
    {l l' : List α} (hperm : l.Perm l') : l.argmin f = l'.argmin f := by
  cases h : l.argmin f with
  | none =>
      rw [List.argmin_eq_none] at h
      subst h
      rw [List.nil_perm.mp hperm]
      rfl
  | some a =>
      cases h' : l'.argmin f with
      | none =>
          rw [List.argmin_eq_none] at h'
          subst h'
          rw [List.perm_nil.mp hperm] at h
          cases h
      | some b =>
          have hle := List.le_of_mem_argmin (hperm.mem_iff.mpr (List.argmin_mem h')) h
          have hge := List.le_of_mem_argmin (hperm.mem_iff.mp (List.argmin_mem h)) h'
          rw [hf (le_antisymm hle hge)]

theorem availableOutputs_congr (hperm : ports.Perm ports') :
    availableOutputs selected ports = availableOutputs selected ports' := by
  have hnames := (hperm.filter (isOffered selected)).filterMap AvailablePort.name
  have hsorted : ((ports.filter (isOffered selected)).filterMap AvailablePort.name).insertionSort
      (· ≤ ·) = ((ports'.filter (isOffered selected)).filterMap AvailablePort.name).insertionSort
        (· ≤ ·) := by
    refine List.Perm.eq_of_pairwise (fun _ _ _ _ => le_antisymm) (List.pairwise_insertionSort _ _)
      (List.pairwise_insertionSort _ _) ?_
    exact (List.perm_insertionSort _ _).trans (hnames.trans (List.perm_insertionSort _ _).symm)
  unfold availableOutputs
  rw [hsorted]

theorem resolveSourcePort_congr (hperm : ports.Perm ports') :
    resolveSourcePort selected nodes ports source =
      resolveSourcePort selected nodes ports' source := by
  have hnamed := hperm.filter fun port => port.name == some source
  have hmatches := hnamed.filter fun port => port.nodeId == some selected.id
  have hany : ((ports.filter fun port => port.name == some source).any
      fun port => port.nodeId.isNone) = ((ports'.filter fun port => port.name == some source).any
        fun port => port.nodeId.isNone) := hnamed.any_eq
  have hother := argmin_congr
    (f := fun nodeId => toLex (nodeDisplayName nodes nodeId, nodeId))
    (fun _ _ h => congrArg (fun key => (ofLex key).2) h) (hnamed.filterMap AvailablePort.nodeId)
  unfold resolveSourcePort
  dsimp only
  rw [hany, hother, availableOutputs_congr hperm]
  generalize (List.filter (fun port => port.name == some source) ports).filter
    (fun port => port.nodeId == some selected.id) = found at hmatches
  generalize (List.filter (fun port => port.name == some source) ports').filter
    (fun port => port.nodeId == some selected.id) = found' at hmatches
  -- Of several ports only their number counts, and one port has no other order.
  match found, found', hmatches with
  | [], found', h => rw [List.nil_perm.mp h]
  | [port], found', h => rw [List.singleton_perm.mp h]
  | _ :: _ :: _, _ :: _ :: _, _ => rfl
  | _ :: _ :: _, [_], h => simpa using h.length_eq
  | _ :: _ :: _, [], h => simpa using h.length_eq

theorem resolveSourcePortsTyped_congr (hperm : ports.Perm ports') (capturePorts : List String) :
    resolveSourcePortsTyped capturePorts selected nodes ports =
      resolveSourcePortsTyped capturePorts selected nodes ports' := by
  have hsource : resolveSourcePort selected nodes ports =
      resolveSourcePort selected nodes ports' :=
    funext fun _ => resolveSourcePort_congr hperm
  unfold resolveSourcePortsTyped
  rw [hsource]

/-- The port of the target that a configured source stands for. -/
structure ResolvedFrom (selected : AvailableNode) (ports : List AvailablePort) (source : String)
    (resolved : ResolvedSourcePort) : Prop where
  name : resolved.name = source
  node : resolved.nodeId = selected.id
  port : ∃ port, (ports.filter fun port => port.name == some source).filter
      (fun port => port.nodeId == some selected.id) = [port] ∧
    port.id = resolved.globalId ∧ port.portId = some resolved.portId ∧
    port.objectType = portInterface ∧ port.direction = some "out" ∧ isAudioPort port = true

theorem resolveSourcePort_eq_ok {resolved : ResolvedSourcePort}
    (h : resolveSourcePort selected nodes ports source = .ok resolved) :
    ResolvedFrom selected ports source resolved := by
  unfold resolveSourcePort at h
  dsimp only at h
  split at h
  · cases h
  next port hport =>
    have hmem : port ∈ (ports.filter fun port => port.name == some source).filter
        (fun port => port.nodeId == some selected.id) := by
      rw [hport]
      exact List.mem_singleton_self _
    have hnode : port.nodeId = some selected.id := by
      simpa using List.of_mem_filter hmem
    unfold checkSource at h
    rw [hnode] at h
    dsimp only at h
    split at h
    · cases h
    next htype =>
      split at h
      · cases h
      next hdirection =>
        split at h
        · cases h
        next haudio =>
          split at h
          · cases h
          next portId hid =>
            cases h
            exact ⟨rfl, rfl, port, hport, rfl, hid, not_not.mp htype, not_not.mp hdirection,
              by simpa using haudio⟩
  · split at h
    · cases h
    · split at h
      · cases h
      · cases h

end Resolve

theorem checkConfigured_eq_ok {seen capturePorts : List String} (hseen : seen.Nodup)
    (h : checkConfigured seen capturePorts = .ok ()) : (seen ++ capturePorts).Nodup := by
  induction capturePorts generalizing seen with
  | nil => simpa using hseen
  | cons source rest ih =>
      unfold checkConfigured at h
      split at h
      · cases h
      next hnew =>
        have hseen' : (seen ++ [source]).Nodup := by
          rw [List.nodup_append]
          refine ⟨hseen, List.nodup_singleton _, ?_⟩
          intro a ha b hb
          rw [List.mem_singleton.mp hb]
          rintro rfl
          exact hnew ha
        have hrest := ih hseen' h
        rwa [List.append_assoc, List.singleton_append] at hrest

theorem resolveSourcePortsTyped_eq_ok {capturePorts : List String} {selected : AvailableNode}
    {nodes : List AvailableNode} {ports : List AvailablePort} {sources : List ResolvedSourcePort}
    (h : resolveSourcePortsTyped capturePorts selected nodes ports = .ok sources) :
    capturePorts.Nodup ∧ List.Forall₂ (ResolvedFrom selected ports) capturePorts sources := by
  obtain ⟨_, hconfigured, h⟩ := except_bind_eq_ok.mp h
  refine ⟨checkConfigured_eq_ok .nil hconfigured, ?_⟩
  exact (mapM_eq_ok.mp h).imp fun _ _ => resolveSourcePort_eq_ok

/-- The order of the inputs is strict, as their numbers differ. -/
theorem sortedInputs_strict {streamNodeId : ℕ} {ports : List AvailablePort}
    (h : Linkable (ports.filter (isInputOf streamNodeId))) :
    (sortedInputs streamNodeId ports).Pairwise fun first second => ∃ id id',
      first.portId = some id ∧ second.portId = some id' ∧ id < id' := by
  have hperm := sortedInputs_perm streamNodeId ports
  obtain ⟨hwell, hdistinct⟩ := Linkable.iff_keys.mp (h.perm hperm.symm)
  have hne := List.pairwise_map.mp hdistinct
  refine ((sortedInputs_pairwise streamNodeId ports).and hne).imp_of_mem ?_
  rintro first second hfirst hsecond ⟨hle, hne⟩
  exact ⟨_, _, (hwell first hfirst).portId_eq, (hwell second hsecond).portId_eq,
    Nat.lt_of_le_of_ne hle hne⟩

/-- A readiness without the text of its failure. -/
def DestinationReadiness.withoutText : DestinationReadiness → DestinationReadiness
  | .failed _ => .failed ""
  | readiness => readiness

theorem destinationReadiness_congr {ports ports' : List AvailablePort} (hperm : ports.Perm ports')
    (streamNodeId expected : ℕ) :
    (destinationReadiness ports streamNodeId expected).withoutText =
      (destinationReadiness ports' streamNodeId expected).withoutText := by
  have hinputs := hperm.filter (isInputOf streamNodeId)
  have hready := @destinationReadiness_eq_ready streamNodeId ports expected
  have hready' := @destinationReadiness_eq_ready streamNodeId ports' expected
  have hpending := @destinationReadiness_eq_pending streamNodeId ports expected
  have hpending' := @destinationReadiness_eq_pending streamNodeId ports' expected
  rw [Linkable.perm_iff hinputs, hinputs.length_eq] at hready hpending
  rw [← hready'] at hready
  rw [← hpending'] at hpending
  generalize destinationReadiness ports streamNodeId expected = readiness at hready hpending
  generalize destinationReadiness ports' streamNodeId expected = readiness' at hready hpending
  cases readiness with
  | ready => rw [hready.mp rfl]
  | pending => rw [hpending.mp rfl]
  | failed message =>
      cases readiness' with
      | ready => cases hready.mpr rfl
      | pending => cases hpending.mpr rfl
      | failed message' => rfl

/-- The stream is ready exactly when the links can be planned. They join the sources,
in the order of the configuration, to the inputs in the order of their numbers, each
input once. Apart from the text of a failure nothing depends on the order in which the
registry lists the ports. -/
theorem explicit_links (streamNodeId : ℕ) (ports : List AvailablePort) :
    (∀ sources : List ResolvedSourcePort,
      destinationReadiness ports streamNodeId sources.length = .ready ↔
        ∃ links, planExplicitLinks sources streamNodeId ports = .ok links) ∧
    (∀ sources links, planExplicitLinks sources streamNodeId ports = .ok links →
      ∃ inputs : List AvailablePort,
        inputs.Perm (ports.filter (isInputOf streamNodeId)) ∧
        (inputs.Pairwise fun first second => ∃ id id',
          first.portId = some id ∧ second.portId = some id' ∧ id < id') ∧
        inputs.length = sources.length ∧
        links = sources.zipWith (fun source input =>
          ⟨source.nodeId, source.globalId, streamNodeId, input.id⟩) inputs) ∧
    (∀ capturePorts selected nodes sources,
      resolveSourcePortsTyped capturePorts selected nodes ports = .ok sources →
        capturePorts.Nodup ∧ List.Forall₂ (ResolvedFrom selected ports) capturePorts sources) ∧
    ∀ ports', ports.Perm ports' →
      (∀ sources, (planExplicitLinks sources streamNodeId ports').toOption =
        (planExplicitLinks sources streamNodeId ports).toOption) ∧
      (∀ expected, (destinationReadiness ports' streamNodeId expected).withoutText =
        (destinationReadiness ports streamNodeId expected).withoutText) ∧
      ∀ capturePorts selected nodes,
        resolveSourcePortsTyped capturePorts selected nodes ports' =
          resolveSourcePortsTyped capturePorts selected nodes ports := by
  refine ⟨?_, ?_, ?_, ?_⟩
  · intro sources
    rw [destinationReadiness_eq_ready]
    constructor
    · rintro ⟨hlinkable, hlength⟩
      exact ⟨_, planExplicitLinks_eq_ok.mpr ⟨hlinkable, hlength, rfl⟩⟩
    · rintro ⟨links, hlinks⟩
      obtain ⟨hlinkable, hlength, -⟩ := planExplicitLinks_eq_ok.mp hlinks
      exact ⟨hlinkable, hlength⟩
  · intro sources links hlinks
    obtain ⟨hlinkable, hlength, rfl⟩ := planExplicitLinks_eq_ok.mp hlinks
    have hperm := sortedInputs_perm streamNodeId ports
    refine ⟨sortedInputs streamNodeId ports, hperm, ?_, hperm.length_eq.trans hlength, rfl⟩
    exact sortedInputs_strict hlinkable
  · intro capturePorts selected nodes sources hsources
    exact resolveSourcePortsTyped_eq_ok hsources
  · intro ports' hperm
    refine ⟨fun sources => ?_, fun expected => ?_, fun capturePorts selected nodes => ?_⟩
    · exact toOption_congr fun links => (planExplicitLinks_congr hperm links).symm
    · exact (destinationReadiness_congr hperm streamNodeId expected).symm
    · exact (resolveSourcePortsTyped_congr hperm capturePorts).symm

/-- An audio input without a number. -/
def unnumberedInput : AvailablePort where
  id := 10
  objectType := portInterface
  nodeId := some 7
  direction := some "in"
  portId := none
  name := none
  formatDsp := some "32 bit float mono audio"
  audioFormat := none

/-- An input that carries no audio. -/
def midiInput : AvailablePort where
  id := 11
  objectType := portInterface
  nodeId := some 7
  direction := some "in"
  portId := some 0
  name := none
  formatDsp := some "8 bit raw midi"
  audioFormat := none

/-- The failure that is reported is that of the port listed first. -/
theorem explicit_links_failure_order :
    [unnumberedInput, midiInput].Perm [midiInput, unnumberedInput] ∧
      destinationReadiness [unnumberedInput, midiInput] 7 2 ≠
        destinationReadiness [midiInput, unnumberedInput] 7 2 ∧
      planExplicitLinks [⟨1, 2, 0, "a"⟩, ⟨2, 2, 1, "b"⟩] 7 [unnumberedInput, midiInput] ≠
        planExplicitLinks [⟨1, 2, 0, "a"⟩, ⟨2, 2, 1, "b"⟩] 7 [midiInput, unnumberedInput] := by
  refine ⟨List.Perm.swap _ _ _, ?_, ?_⟩
  · decide +kernel
  · decide +kernel

end Lamb.Capture
