import ModularSynth.Patch.Pass

/-!
# Streaming frames

A read fills a byte buffer with frames of four bytes, one pass for each. It makes at most
`readCap` frames, so it may fill only the front of the buffer.
-/

namespace ModularSynth

/-- Bytes in one stereo frame. -/
def frameBytes : Nat := 4

/-- What a read leaves behind: how many bytes it wrote or why it failed, the whole buffer, and
the patch. -/
structure ReadResult (D ε : Type) where
  outcome : Except ε Nat
  buffer : List UInt8
  patch : Patch D

/-- Why a buffer could not be filled. -/
inductive ReadFailure where
  | patch (error : PatchError)
  | endOfStream
  deriving DecidableEq, Repr

/-- The kinds of failure that a reader tells apart. -/
inductive ReadFailureKind where
  | invalidInput | other | unexpectedEnd
  deriving DecidableEq, Repr

namespace ReadFailure

/-- A misaligned buffer is the reader's fault, any other error of the patch is not. -/
def kind : ReadFailure → ReadFailureKind
  | patch (.misalignedBuffer _) => .invalidInput
  | patch _ => .other
  | endOfStream => .unexpectedEnd

def message : ReadFailure → String
  | patch error => error.message
  | endOfStream => "failed to fill whole buffer"

/-- The error of the patch behind the failure. -/
def patchError? : ReadFailure → Option PatchError
  | patch error => some error
  | endOfStream => none

end ReadFailure

namespace Patch

variable {D : Type}

/-- Makes frames one after the other up to the first failing pass. -/
def frames [Device D] (p : Patch D) : Nat → List Sample × Except PatchError Unit × Patch D
  | 0 => ([], .ok (), p)
  | count + 1 =>
    match p.pass with
    | (.error failure, after) => ([], .error failure, after)
    | (.ok (), after) =>
      let (frames, outcome, last) := after.frames count
      (after.currentFrame :: frames, outcome, last)

/-- The buffer with bytes written over its front. -/
def overwrite (written buffer : List UInt8) : List UInt8 :=
  written ++ buffer.drop written.length

/-- Fills the front of a buffer with frames. Its length has to be a multiple of four. When a pass
fails the frames before it stay written. -/
def readFrames [Device D] (p : Patch D) (buffer : List UInt8) : ReadResult D PatchError :=
  if buffer.length % frameBytes ≠ 0 then
    ⟨.error (.misalignedBuffer buffer.length), buffer, p⟩
  else
    let count := min (buffer.length / frameBytes) p.readCap
    let (frames, outcome, after) := p.frames count
    ⟨outcome.map fun _ => count * frameBytes, overwrite (frames.flatMap (·.bytes)) buffer, after⟩

/-- One read as a byte stream sees it. -/
def read [Device D] (p : Patch D) (buffer : List UInt8) : ReadResult D ReadFailure :=
  let result := p.readFrames buffer
  { result with outcome := result.outcome.mapError .patch }

theorem length_overwrite (written buffer : List UInt8) (h : written.length ≤ buffer.length) :
    (overwrite written buffer).length = buffer.length := by
  simp only [overwrite, List.length_append, List.length_drop]
  omega

/-- Reads until the buffer is full, each read taking up where the one before ended. -/
def readExact [Device D] (p : Patch D) (buffer : List UInt8) : ReadResult D ReadFailure :=
  if buffer.isEmpty then ⟨.ok 0, buffer, p⟩
  else
    let result := p.read buffer
    match result.outcome with
    | .error failure => ⟨.error failure, result.buffer, result.patch⟩
    | .ok written =>
      if _h : 0 < written ∧ (result.buffer.drop written).length < buffer.length then
        let rest := result.patch.readExact (result.buffer.drop written)
        { rest with
          outcome := rest.outcome.map (written + ·)
          buffer := result.buffer.take written ++ rest.buffer }
      else ⟨.error .endOfStream, result.buffer, result.patch⟩
termination_by buffer.length
decreasing_by exact _h.2

end Patch

end ModularSynth
