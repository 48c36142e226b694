import Lamb.Daemon.Retry

/-!
The health of a PipeWire capture: the first fault its thread has met, and the sink
that is to hear of it. A fault is reported once the capture has been armed, and to
each sink it is bound to once. The mutex of the health is held for one of these calls
at a time; the sink is notified after it was released.
-/

namespace Lamb.Daemon

/-- A sink of the retry scheduler, bound to a generation and a capture. Two sinks have
the same binding if both are the same. -/
structure RuntimeFaultSink where
  generation : ℕ
  attemptId : ℕ
  deriving DecidableEq, Repr

structure PipeWireHealth where
  fault : Option RuntimeCaptureFault
  faultSink : Option RuntimeFaultSink
  notifiedSink : Option RuntimeFaultSink
  armed : Bool
  normalStop : Bool
  deriving DecidableEq, Repr

/-- What a call leaves to be delivered to a sink. -/
abbrev Notification := RuntimeFaultSink × RuntimeCaptureFault

namespace PipeWireHealth

def unarmedWithFaultSink (faultSink : RuntimeFaultSink) : PipeWireHealth where
  fault := none
  faultSink := some faultSink
  notifiedSink := none
  armed := false
  normalStop := false

def pendingNotification (health : PipeWireHealth) : Option Notification × PipeWireHealth :=
  if health.normalStop ∨ health.armed = false then (none, health)
  else
    match health.faultSink with
    | none => (none, health)
    | some sink =>
        if health.notifiedSink = some sink then (none, health)
        else
          match health.fault with
          | none => (none, health)
          | some fault => (some (sink, fault), { health with notifiedSink := some sink })

/-- `record_fatal`, up to the call of the sink. -/
def recordFatal (health : PipeWireHealth) (fault : RuntimeCaptureFault) :
    Option Notification × PipeWireHealth :=
  if health.normalStop ∨ health.fault.isSome then (none, health)
  else { health with fault := some fault }.pendingNotification

def arm (health : PipeWireHealth) : Option Notification × PipeWireHealth :=
  if health.normalStop then (none, health)
  else { health with armed := true }.pendingNotification

def rebindAndArm (health : PipeWireHealth) (faultSink : RuntimeFaultSink) :
    Option Notification × PipeWireHealth :=
  if health.normalStop then (none, health)
  else { health with faultSink := some faultSink, armed := true }.pendingNotification

def attemptId (health : PipeWireHealth) : Option ℕ :=
  health.faultSink.map RuntimeFaultSink.attemptId

def markNormalStop (health : PipeWireHealth) : PipeWireHealth :=
  { health with normalStop := true, armed := false, faultSink := none }

/-! ### What the calls leave -/

/-- The health speaks for the capture of this sink: it is armed and bound to it, and a
fault it knows of has been reported. -/
structure Bound (health : PipeWireHealth) (sink : RuntimeFaultSink) : Prop where
  faultSink : health.faultSink = some sink
  armed : health.armed = true
  going : health.normalStop = false
  reported : health.fault.isSome → health.notifiedSink = some sink

variable {health : PipeWireHealth} {sink : RuntimeFaultSink} {fault : RuntimeCaptureFault}

theorem pendingNotification_cases (health : PipeWireHealth) :
    health.pendingNotification = (none, health) ∨
    ∃ sink fault, health.faultSink = some sink ∧ health.armed = true ∧
      health.normalStop = false ∧ health.fault = some fault ∧
      health.pendingNotification =
        (some (sink, fault), { health with notifiedSink := some sink }) := by
  unfold pendingNotification
  split_ifs with hstill
  · exact .inl rfl
  · rw [not_or, Bool.not_eq_true, Bool.not_eq_false] at hstill
    cases hsink : health.faultSink with
    | none => exact .inl rfl
    | some sink =>
        simp only
        split_ifs with hnotified
        · exact .inl rfl
        · cases hfault : health.fault with
          | none => exact .inl rfl
          | some fault => exact .inr ⟨sink, fault, rfl, hstill.2, hstill.1, rfl, rfl⟩

/-- An armed health that goes on reports a fault to its sink unless it has done so. -/
theorem bound_pendingNotification (hsink : health.faultSink = some sink)
    (harmed : health.armed = true) (hgoing : health.normalStop = false) :
    health.pendingNotification.2.Bound sink := by
  unfold pendingNotification
  rw [if_neg (by simp [harmed, hgoing]), hsink]
  simp only
  split_ifs with hnotified
  · exact ⟨hsink, harmed, hgoing, fun _ => hnotified⟩
  · cases hfault : health.fault with
    | none => exact ⟨hsink, harmed, hgoing, by simp [hfault]⟩
    | some fault => exact ⟨rfl, harmed, hgoing, fun _ => rfl⟩

/-- A health that is bound to a sink stays so when its capture meets a fault. -/
theorem Bound.recordFatal (h : health.Bound sink) (fault : RuntimeCaptureFault) :
    (health.recordFatal fault).2.Bound sink := by
  unfold PipeWireHealth.recordFatal
  split_ifs
  · exact h
  · exact bound_pendingNotification h.faultSink h.armed h.going

end PipeWireHealth

end Lamb.Daemon
