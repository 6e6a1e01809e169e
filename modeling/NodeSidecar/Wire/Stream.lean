import NodeSidecar.Wire.Frame
/-!
# Wire — frames in a stream

Octets arrive in a stream, and frames are cut off its front one by one. The
header of a frame is looked at as soon as it is there; a header that cannot be
decoded breaks the stream for good.
-/

namespace NodeSidecar.Wire

open Text (Octets)

/-- What is at the front of a stream. -/
inductive Front where
  /-- A frame, and what comes behind it. -/
  | frame (f : Frame) (rest : Octets)
  /-- The beginning of a frame, or nothing. -/
  | unfinished
  /-- No frame. -/
  | broken (flaw : Flaw)
  deriving DecidableEq, Repr

/-- Looks at the front of a stream. -/
def front (octets : Octets) : Front :=
  if !Read.hasAtLeast headerLength octets then .unfinished
  else
    match Header.decode (octets.take headerLength) with
    | .error flaw => .broken flaw
    | .ok header =>
      let behind := octets.drop headerLength
      if Read.hasAtLeast header.length behind then
        .frame ⟨header, behind.take header.length⟩ (behind.drop header.length)
      else .unfinished

/-- What comes behind a frame is shorter than the stream. -/
theorem length_of_front_eq_frame {octets rest : Octets} {f : Frame}
    (h : front octets = .frame f rest) : rest.length < octets.length := by
  unfold front at h
  split at h
  · simp at h
  · rename_i hlong
    have hlong : headerLength ≤ octets.length := by
      simpa [Read.hasAtLeast_iff] using hlong
    split at h
    · simp at h
    · simp only at h
      split at h
      · simp only [Front.frame.injEq] at h
        rw [← h.2]
        simp only [headerLength] at hlong ⊢
        simp only [List.length_drop]
        omega
      · simp at h

/-- The whole frames at the front of a stream, before the first one that is
broken or unfinished. -/
def frames (octets : Octets) : List Frame :=
  match h : front octets with
  | .frame f rest =>
    have := length_of_front_eq_frame h
    f :: frames rest
  | _ => []
termination_by octets.length

end NodeSidecar.Wire
