/-
# Operations on detectors

A detector is found by its name. An update lays the local definition over the stored document.
-/

import SignalBoard.Detector.Basic
import SignalBoard.Reconcile.Lookup

namespace SignalBoard.Detector

/-- Creates a detector unless its name is taken. -/
def create (detector : Detector) (options : CreateOptions) : Plan Json := do
  let payload ← Plan.checked detector.payload
  guardCreate .detector detector.name options
  Plan.post Kind.detector.endpoint [] payload

/-- Brings the stored detector in line with the local one, or creates it. -/
def update (detector : Detector) (overrides : Overrides) : Plan Json := do
  let payload ← Plan.checked detector.payload
  match ← findUnique .detector detector.name with
  | none =>
      let payload ← overrides.apply payload
      Plan.post Kind.detector.endpoint [] payload
  | some remote =>
      let id ← requireId remote
      let document ← overrides.apply (remote.overlay payload)
      Plan.put (Kind.detector.path id) document

/-- The stored detector. -/
def read (detector : Detector) : Plan Json := requireUnique .detector detector.name

/-- Deletes the stored detector. -/
def delete (detector : Detector) : Plan Unit := do
  let remote ← requireUnique .detector detector.name
  Plan.delete (Kind.detector.path (← requireId remote))

end SignalBoard.Detector
