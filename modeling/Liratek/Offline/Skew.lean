import Liratek.Offline.Channels

/-! Clock correction of an uploaded event, in milliseconds. The skew is measured on the upload that
carried the event. -/

namespace Liratek.Offline.Skew
open Tables

def copyClampMs : Int := 5 * 60000

structure SkewInput where
  occurredAt : Int
  uploadSkewMs : Int
  /-- the skew of the last check-in on standby -/
  onlineSkewMs : Option Int
  receivedAt : Int
  copyBuiltAt : Option Int
  previousOccurredAt : Option Int
  toleranceMs : Int

inductive Clamp where
  | receipt | copy
  deriving DecidableEq, Repr

structure SkewResult where
  correctedAt : Int
  corrected : Bool
  clamped : Option Clamp
  clockChanged : Bool
  backwards : Bool
  /-- the text of the note, when there is something to explain -/
  note : Option String
  deriving DecidableEq, Repr

/-- `Math.round(Math.abs(ms) / 60000)` -/
def minutes (ms : Int) : Int :=
  (2 * ms.natAbs + 60000) / 120000

def clampTo (receivedAt : Int) (copyBuiltAt : Option Int) (t : Int) : Int × Option Clamp :=
  let received := if t > receivedAt then (receivedAt, some Clamp.receipt) else (t, none)
  match copyBuiltAt with
  | none => received
  | some built =>
    if received.1 < built - copyClampMs then (built - copyClampMs, some .copy) else received

def correctEventTime (input : SkewInput) : SkewResult :=
  let corrected : Bool := input.uploadSkewMs.natAbs > input.toleranceMs
  let shifted := if corrected then input.occurredAt + input.uploadSkewMs else input.occurredAt
  let clamped := clampTo input.receivedAt input.copyBuiltAt shifted
  let clockChanged := corrected &&
    input.onlineSkewMs.any fun online => (input.uploadSkewMs - online).natAbs > input.toleranceMs
  let backwards := input.previousOccurredAt.any fun previous => input.occurredAt < previous
  let parts :=
    (if corrected then ["The PC clock was " ++ toString (minutes input.uploadSkewMs) ++ " min " ++
      (if input.uploadSkewMs > 0 then "slow" else "fast") ++ " — time corrected"] else []) ++
    (if clockChanged then
      ["the PC's clock changed during the outage, so the time measured when it sent its work was used"] else []) ++
    (if clamped.2 = some .receipt then ["time limited to when the server received it"] else []) ++
    (if clamped.2 = some .copy then ["time limited to 5 minutes before the copy the PC worked on"] else []) ++
    (if backwards then ["this item's time is earlier than the PC's previous item"] else [])
  { correctedAt := clamped.1, corrected := corrected, clamped := clamped.2, clockChanged := clockChanged
    backwards := backwards, note := if parts.isEmpty then none else some ("; ".intercalate parts) }

end Liratek.Offline.Skew
