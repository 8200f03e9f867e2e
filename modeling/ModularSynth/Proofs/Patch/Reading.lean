import Mathlib.Algebra.GroupWithZero.Nat
import ModularSynth.Proofs.Patch.Kinds

/-!
# Reads as passes

A read makes one pass for every four bytes, but no more than the cap allows, and writes the frame
after each pass over its group of bytes. When a pass fails, the groups before it stay written
(`Patch.Filled`). What a pass makes does not depend on the cap, and frames that are made in two goes
are those that are made in one (`frames_add`). So reads that succeed write out the one recording
that the patch makes from where it is, wherever it is cut and whatever caps are set in between
(`chunks_of_streams`).
-/

namespace ModularSynth

/-! ### Groups of bytes -/

/-- The group of bytes with this number. -/
def frameAt (buffer : List UInt8) (index : Nat) : List UInt8 :=
  (buffer.drop (index * frameBytes)).take frameBytes

/-- The group holds a frame in little-endian order: left low, left high, right low, right high. -/
def Encodes (group : List UInt8) (frame : Sample) : Prop :=
  ∃ leftLow leftHigh rightLow rightHigh : UInt8,
    group = [leftLow, leftHigh, rightLow, rightHigh] ∧
      leftLow.toNat + 256 * leftHigh.toNat = frame.left.toUInt16.toNat ∧
      rightLow.toNat + 256 * rightHigh.toNat = frame.right.toUInt16.toNat

namespace Sample

theorem amplitudeBytes_eq_iff {amplitude : Int16} {low high : UInt8} :
    amplitudeBytes amplitude = [low, high] ↔
      low.toNat + 256 * high.toNat = amplitude.toUInt16.toNat := by
  have small := amplitude.toUInt16.toNat_lt
  have small_low := low.toNat_lt
  have small_high := high.toNat_lt
  unfold amplitudeBytes
  simp only [List.cons.injEq, and_true, ← UInt8.toNat_inj, UInt16.toNat_toUInt8,
    UInt16.toNat_shiftRight, Nat.shiftRight_eq_div_pow]
  change _ % 2 ^ 8 = _ ∧ _ / 2 ^ 8 % 2 ^ 8 = _ ↔ _
  omega

/-- The bytes of a frame are the ones that encode it. -/
theorem encodes_iff {group : List UInt8} {frame : Sample} :
    Encodes group frame ↔ group = frame.bytes := by
  constructor
  · intro encoded
    obtain ⟨leftLow, leftHigh, rightLow, rightHigh, rfl, left, right⟩ := encoded
    unfold bytes
    rw [amplitudeBytes_eq_iff.mpr left, amplitudeBytes_eq_iff.mpr right]
    rfl
  · rintro rfl
    exact ⟨_, _, _, _, rfl, amplitudeBytes_eq_iff.mp rfl, amplitudeBytes_eq_iff.mp rfl⟩

theorem length_flatMap_bytes (frames : List Sample) :
    (frames.flatMap (·.bytes)).length = frames.length * frameBytes := by
  induction frames with
  | nil => rfl
  | cons frame frames ih =>
    rw [List.flatMap_cons, List.length_append, ih, length_bytes, List.length_cons, Nat.succ_mul,
      Nat.add_comm]
    rfl

/-- Frames that are written one after the other are found in their groups. -/
theorem frameAt_flatMap_bytes {frames : List Sample} {index : Nat} {frame : Sample}
    (found : frames[index]? = some frame) (rest : List UInt8) :
    frameAt (frames.flatMap (·.bytes) ++ rest) index = frame.bytes := by
  induction frames generalizing index with
  | nil => cases found
  | cons head frames ih =>
    rw [List.flatMap_cons, List.append_assoc]
    cases index with
    | zero =>
      rw [List.getElem?_cons_zero, Option.some.injEq] at found
      subst found
      rfl
    | succ index =>
      have later := ih (by simpa using found)
      unfold frameAt at later ⊢
      have past : head.bytes.length ≤ (index + 1) * frameBytes := by
        rw [Nat.succ_mul]
        exact Nat.le_add_left _ _
      have short : (index + 1) * frameBytes - head.bytes.length = index * frameBytes := by
        rw [Nat.succ_mul]
        exact Nat.add_sub_cancel _ _
      rw [List.drop_append, List.drop_of_length_le past, List.nil_append, short, later]

end Sample

/-! ### Reads in a row -/

/-- The operation reads whole frames or sets how many a read makes. -/
def Operation.Streams {D : Type} : Operation D → Prop
  | .readFrames buffer => buffer.length % frameBytes = 0
  | .setReadCap _ => True
  | _ => False

/-- How many bytes a read says it wrote. -/
def Answer.count : Answer → Nat
  | .read (.ok count) _ => count
  | _ => 0

/-- The bytes it wrote: that many from the front of its buffer. -/
def Answer.written : Answer → List UInt8
  | .read (.ok count) buffer => buffer.take count
  | _ => []

namespace Patch

variable {D : Type}

/-- How many frames a read makes: as many as the buffer has room for, up to the cap. -/
def framesIn (p : Patch D) (buffer : List UInt8) : Nat :=
  min (buffer.length / frameBytes) p.readCap

theorem framesIn_mul_le (p : Patch D) (buffer : List UInt8) :
    p.framesIn buffer * frameBytes ≤ buffer.length :=
  (Nat.mul_le_mul_right _ (Nat.min_le_left _ _)).trans (Nat.div_mul_le_self _ _)

variable [Device D]

/-- The first groups of a buffer hold the frames that as many passes make; the bytes past them are
what they were. -/
structure Filled (p : Patch D) (count : Nat) (before now : List UInt8) : Prop where
  length_eq : now.length = before.length
  groups : ∀ index < count, Encodes (frameAt now index) (p.passes (index + 1)).2.currentFrame
  rest : now.drop (count * frameBytes) = before.drop (count * frameBytes)

section Passes

variable {p : Patch D}

/-! ### Passes in a row, once more -/

theorem passes_succ_eq_ok_iff {count : Nat} : (p.passes (count + 1)).1 = .ok () ↔
    p.pass.1 = .ok () ∧ (p.pass.2.passes count).1 = .ok () := by
  cases outcome : p.pass.1 with
  | error failure => simp [passes_of_error outcome]
  | ok done =>
    rw [passes_of_ok outcome]
    rcases (p.pass.2.passes count).1 with failure | finished
    · simp [Except.mapError]
    · simp [Except.mapError]

theorem snd_passes_succ (passed : p.pass.1 = .ok ()) (count : Nat) :
    (p.passes (count + 1)).2 = (p.pass.2.passes count).2 := by
  rw [passes_of_ok passed]

theorem passes_add {first : Nat} (finished : (p.passes first).1 = .ok ()) (second : Nat) :
    ((p.passes (first + second)).1 = .ok () ↔ ((p.passes first).2.passes second).1 = .ok ()) ∧
      (p.passes (first + second)).2 = ((p.passes first).2.passes second).2 := by
  induction first generalizing p with
  | zero =>
    rw [Nat.zero_add]
    exact ⟨Iff.rfl, rfl⟩
  | succ first ih =>
    obtain ⟨passed, later⟩ := passes_succ_eq_ok_iff.mp finished
    obtain ⟨succeeds, reaches⟩ := ih later
    rw [Nat.add_right_comm, passes_succ_eq_ok_iff, snd_passes_succ passed, snd_passes_succ passed,
      reaches]
    exact ⟨(and_iff_right passed).trans succeeds, rfl⟩

/-- So many passes succeed, or there is a first one that fails. -/
theorem passes_ok_or_fails (p : Patch D) (count : Nat) : (p.passes count).1 = .ok () ∨
    ∃ done < count, ∃ failure, (p.passes done).1 = .ok () ∧
      (p.passes done).2.pass.1 = .error failure := by
  induction count generalizing p with
  | zero => exact Or.inl rfl
  | succ count ih =>
    cases outcome : p.pass.1 with
    | error failure => exact Or.inr ⟨0, Nat.succ_pos count, failure, rfl, outcome⟩
    | ok finished =>
      rcases ih p.pass.2 with fine | ⟨done, below, failure, fine, failed⟩
      · exact Or.inl (passes_succ_eq_ok_iff.mpr ⟨outcome, fine⟩)
      · refine Or.inr ⟨done + 1, Nat.succ_lt_succ below, failure, ?_, ?_⟩
        · exact passes_succ_eq_ok_iff.mpr ⟨outcome, fine⟩
        · rw [snd_passes_succ outcome]
          exact failed

/-- Nothing but a device makes a pass fail. -/
theorem exists_of_pass_error {error : PatchError} (failed : p.pass.1 = .error error) :
    ∃ id failure, error = .deviceFailed id failure := by
  unfold pass at failed
  rw [fst_stepAll] at failed
  cases outcome : (p.propagate.devices.updateUntil p.propagate.stepping).2 with
  | none =>
    rw [outcome] at failed
    cases failed
  | some reported =>
    rw [outcome] at failed
    cases failed
    obtain ⟨id, placed, stepped⟩ := Slots.exists_of_updateUntilFrom _ _ _ outcome
    obtain ⟨failure, -, rfl⟩ := Option.map_eq_some_iff.mp stepped
    exact ⟨id, failure, rfl⟩

/-! ### Frames -/

theorem frames_of_passes_ok {count : Nat} (finished : (p.passes count).1 = .ok ()) :
    (p.frames count).1.length = count ∧ (p.frames count).2 = (.ok (), (p.passes count).2) := by
  induction count generalizing p with
  | zero => exact ⟨rfl, rfl⟩
  | succ count ih =>
    obtain ⟨passed, later⟩ := passes_succ_eq_ok_iff.mp finished
    obtain ⟨length, last⟩ := ih later
    rw [frames_of_ok passed, snd_passes_succ passed]
    exact ⟨congrArg (· + 1) length, last⟩

/-- Each frame is the one that the patch has after its pass. -/
theorem getElem?_frames {count : Nat} (finished : (p.passes count).1 = .ok ()) {index : Nat}
    (below : index < count) :
    (p.frames count).1[index]? = some (p.passes (index + 1)).2.currentFrame := by
  induction count generalizing p index with
  | zero => exact absurd below (Nat.not_lt_zero index)
  | succ count ih =>
    obtain ⟨passed, later⟩ := passes_succ_eq_ok_iff.mp finished
    rw [frames_of_ok passed, snd_passes_succ passed]
    cases index with
    | zero => rfl
    | succ index => exact ih later (Nat.lt_of_succ_lt_succ below)

theorem frames_add {first : Nat} (finished : (p.passes first).1 = .ok ()) (second : Nat) :
    p.frames (first + second) =
      ((p.frames first).1 ++ ((p.passes first).2.frames second).1,
        ((p.passes first).2.frames second).2) := by
  induction first generalizing p with
  | zero =>
    rw [Nat.zero_add]
    rfl
  | succ first ih =>
    obtain ⟨passed, later⟩ := passes_succ_eq_ok_iff.mp finished
    rw [Nat.add_right_comm, frames_of_ok passed, frames_of_ok passed, ih later,
      snd_passes_succ passed]
    rfl

/-- The first failing pass ends the frames. -/
theorem frames_of_failure {done count : Nat} (finished : (p.passes done).1 = .ok ())
    {failure : PatchError} (failed : (p.passes done).2.pass.1 = .error failure)
    (below : done < count) :
    p.frames count = ((p.frames done).1, .error failure, (p.passes done).2.pass.2) := by
  obtain ⟨more, rfl⟩ := Nat.exists_eq_add_of_lt below
  rw [Nat.add_assoc, frames_add finished, frames_of_error failed, List.append_nil]

/-! ### One read -/

theorem readFrames_of_misaligned {buffer : List UInt8}
    (misaligned : buffer.length % frameBytes ≠ 0) :
    p.readFrames buffer = ⟨.error (.misalignedBuffer buffer.length), buffer, p⟩ := by
  unfold readFrames
  rw [if_pos misaligned]

theorem readFrames_of_aligned {buffer : List UInt8} (aligned : buffer.length % frameBytes = 0) :
    p.readFrames buffer =
      ⟨(p.frames (p.framesIn buffer)).2.1.map fun _ => p.framesIn buffer * frameBytes,
        overwrite ((p.frames (p.framesIn buffer)).1.flatMap (·.bytes)) buffer,
        (p.frames (p.framesIn buffer)).2.2⟩ := by
  unfold readFrames
  rw [if_neg (not_not.mpr aligned)]
  rfl

/-- The frames of passes that succeed, written over the front of a buffer. -/
theorem filled_overwrite {count : Nat} (finished : (p.passes count).1 = .ok ())
    {buffer : List UInt8} (room : count * frameBytes ≤ buffer.length) :
    p.Filled count buffer (overwrite ((p.frames count).1.flatMap (·.bytes)) buffer) := by
  have length : ((p.frames count).1.flatMap (·.bytes)).length = count * frameBytes := by
    rw [Sample.length_flatMap_bytes, (frames_of_passes_ok finished).1]
  refine
    { length_eq := length_overwrite _ _ (length.trans_le room)
      groups := ?_
      rest := ?_ }
  · intro index below
    rw [Sample.encodes_iff]
    exact Sample.frameAt_flatMap_bytes (getElem?_frames finished below) _
  · unfold overwrite
    rw [List.drop_left' length, length]

end Passes

/-! ### Whatever the cap -/

section Cap

variable (p : Patch D) (cap : Nat)

theorem pass_withCap : ({ p with readCap := cap } : Patch D).pass =
    (p.pass.1, { p.pass.2 with readCap := cap }) := by
  have devices : ({ p with readCap := cap } : Patch D).propagate.devices.updateUntil
      ({ p with readCap := cap } : Patch D).propagate.stepping =
      p.propagate.devices.updateUntil p.propagate.stepping := rfl
  apply Prod.ext
  · unfold pass
    rw [fst_stepAll, fst_stepAll, devices]
  · unfold pass
    rw [snd_stepAll, snd_stepAll, devices]
    rfl

theorem passes_withCap (count : Nat) : ({ p with readCap := cap } : Patch D).passes count =
    ((p.passes count).1, { (p.passes count).2 with readCap := cap }) := by
  have once := pass_withCap p cap
  induction count generalizing p with
  | zero => rfl
  | succ count ih =>
    cases outcome : p.pass.1 with
    | error failure =>
      rw [passes_of_error outcome, passes_of_error (by rw [once, outcome]), once]
    | ok done =>
      have later := ih p.pass.2 (pass_withCap p.pass.2 cap)
      rw [passes_of_ok outcome, passes_of_ok (by rw [once, outcome]), once, later]

theorem frames_withCap (count : Nat) : ({ p with readCap := cap } : Patch D).frames count =
    ((p.frames count).1, (p.frames count).2.1, { (p.frames count).2.2 with readCap := cap }) := by
  have once := pass_withCap p cap
  induction count generalizing p with
  | zero => rfl
  | succ count ih =>
    cases outcome : p.pass.1 with
    | error failure =>
      rw [frames_of_error outcome, frames_of_error (by rw [once, outcome]), once]
    | ok done =>
      have later := ih p.pass.2 (pass_withCap p.pass.2 cap)
      rw [frames_of_ok outcome, frames_of_ok (by rw [once, outcome]), once, later]
      rfl

end Cap

/-! ### The cap -/

theorem snd_perform_pass (p : Patch D) : (p.perform .pass).2 = p.pass.2 := by
  simp only [perform]
  split
  next after passed => rw [passed]
  next error after failed => rw [failed]

/-- Only setting the cap changes it. -/
theorem readCap_perform (p : Patch D) {operation : Operation D}
    (other : ∀ frames, operation ≠ .setReadCap frames) :
    (p.perform operation).2.readCap = p.readCap := by
  cases operation with
  | deleteDevice id =>
    apply settle_keeps readCap
    intro after deleted
    obtain ⟨placed, -, rfl⟩ := deleteDevice_eq_ok_iff.mp deleted
    exact readCap_withoutDevice p id placed
  | plug source sourcePort destination destinationPort =>
    apply settleCable_keeps readCap
    intro result plugged
    obtain ⟨output, input, same⟩ := eq_withCable_of_plug plugged
    rw [same]
    rfl
  | connect source destination =>
    apply settleCable_keeps readCap
    intro result connected
    rw [(connect_eq_ok_iff.mp connected).2.2.2.2]
    rfl
  | unplug id =>
    apply settle_keeps readCap
    intro after unplugged
    obtain ⟨-, -, rfl⟩ := unplug_eq_ok_iff.mp unplugged
    exact congrArg (·.readCap) (foldl_removeCable_eq p [id])
  | setOutput id port =>
    apply settle_keeps readCap
    intro after chosen
    obtain ⟨-, -, rfl⟩ := setOutput_eq_ok_iff.mp chosen
    rfl
  | setReadCap frames => exact absurd rfl (other frames)
  | pass => rw [snd_perform_pass, snd_pass]
  | readFrames buffer =>
    change (p.readFrames buffer).patch.readCap = p.readCap
    rw [patch_readFrames]
  | _ => rfl

theorem one_le_readCap_perform {p : Patch D} (positive : 1 ≤ p.readCap)
    (operation : Operation D) : 1 ≤ (p.perform operation).2.readCap := by
  by_cases caps : ∃ frames, operation = .setReadCap frames
  · obtain ⟨frames, rfl⟩ := caps
    exact Nat.le_max_right frames 1
  · rw [readCap_perform p (not_exists.mp caps)]
    exact positive

theorem one_le_readCap_run {p : Patch D} (positive : 1 ≤ p.readCap)
    (operations : List (Operation D)) : 1 ≤ (p.run operations).2.readCap := by
  induction operations generalizing p with
  | nil => exact positive
  | cons operation operations ih => exact ih (one_le_readCap_perform positive operation)

theorem one_le_readCap_of_reachable {p : Patch D} (reachable : p.Reachable) : 1 ≤ p.readCap := by
  obtain ⟨settings, operations, rfl⟩ := reachable
  exact one_le_readCap_run (Nat.le_max_right settings.readCap 1) operations

/-! ### Reads that succeed -/

section Streams

variable {p q r : Patch D}

theorem passes_ok_of_frames_ok {count : Nat} (finished : (p.frames count).2.1 = .ok ()) :
    (p.passes count).1 = .ok () := by
  rcases passes_ok_or_fails p count with fine | ⟨done, below, failure, fine, failed⟩
  · exact fine
  · rw [frames_of_failure fine failed below] at finished
    cases finished

/-- The answers and the patch after reads that succeeded: as many passes were made as frames were
read, and the bytes are those of the frames. -/
structure Streamed (p : Patch D) (count : Nat) (answers : List Answer) (after : Patch D) :
    Prop where
  finished : (p.passes count).1 = .ok ()
  counted : (answers.map Answer.count).sum = count * frameBytes
  written : answers.flatMap Answer.written = (p.frames count).1.flatMap (·.bytes)
  after_eq : after = { (p.passes count).2 with readCap := after.readCap }

/-- What was read in two goes could have been read in one. -/
theorem Streamed.trans {first second : Nat} {answers answers' : List Answer}
    (here : p.Streamed first answers q) (there : q.Streamed second answers' r) :
    p.Streamed (first + second) (answers ++ answers') r := by
  obtain ⟨succeeds, reaches⟩ := passes_add here.finished second
  have passes : q.passes second = (((p.passes first).2.passes second).1,
      { ((p.passes first).2.passes second).2 with readCap := q.readCap }) := by
    rw [here.after_eq]
    exact passes_withCap _ _ second
  have frames : (q.frames second).1 = ((p.passes first).2.frames second).1 := by
    rw [here.after_eq, frames_withCap]
  have finished := there.finished
  have after_eq := there.after_eq
  rw [passes] at finished after_eq
  refine
    { finished := succeeds.mpr finished
      counted := ?_
      written := ?_
      after_eq := ?_ }
  · rw [List.map_append, List.sum_append, here.counted, there.counted, Nat.add_mul]
  · rw [List.flatMap_append, here.written, there.written, frames, frames_add here.finished,
      List.flatMap_append]
  · rw [reaches]
    exact after_eq

theorem streamed_perform {operation : Operation D} (streams : operation.Streams)
    (succeeds : (p.perform operation).1.error? = none) :
    ∃ count, p.Streamed count [(p.perform operation).1] (p.perform operation).2 := by
  cases operation with
  | readFrames buffer =>
    have read := readFrames_of_aligned (p := p) streams
    have performed : p.perform (.readFrames buffer) =
        (.read (p.readFrames buffer).outcome (p.readFrames buffer).buffer,
          (p.readFrames buffer).patch) := rfl
    rw [performed, read] at succeeds ⊢
    generalize p.framesIn buffer = count at succeeds ⊢
    have finished : (p.passes count).1 = .ok () := by
      apply passes_ok_of_frames_ok
      cases outcome : (p.frames count).2.1 with
      | error failure =>
        rw [outcome] at succeeds
        cases succeeds
      | ok done => rfl
    obtain ⟨length, last⟩ := frames_of_passes_ok finished
    refine ⟨count, finished, ?_, ?_, ?_⟩
    · rw [last]
      rfl
    · have bytes := Sample.length_flatMap_bytes (p.frames count).1
      rw [length] at bytes
      rw [last]
      change (overwrite _ buffer).take (count * frameBytes) ++ [] = _
      rw [List.append_nil]
      exact List.take_left' bytes
    · rw [last]
  | setReadCap frames => exact ⟨0, rfl, rfl, rfl, rfl⟩
  | _ => cases streams

/-- Reads that succeed play the one recording that starts here. -/
theorem streamed_run {reads : List (Operation D)}
    (streams : ∀ operation ∈ reads, operation.Streams)
    (succeed : ∀ answer ∈ (p.run reads).1, answer.error? = none) :
    ∃ count, p.Streamed count (p.run reads).1 (p.run reads).2 := by
  induction reads generalizing p with
  | nil => exact ⟨0, rfl, rfl, rfl, rfl⟩
  | cons operation reads ih =>
    obtain ⟨head, rest⟩ := List.forall_mem_cons.mp streams
    obtain ⟨first, later⟩ := List.forall_mem_cons.mp succeed
    obtain ⟨count, here⟩ := streamed_perform head first
    obtain ⟨count', there⟩ := ih rest later
    exact ⟨count + count', here.trans there⟩

end Streams

/-! ### What reads do -/

/-- What a read does, and what reads in a row amount to. -/
structure Reads (p : Patch D) : Prop where
  /-- A buffer that is not made of whole groups is refused; it and the patch stay as they are. -/
  misaligned : ∀ buffer, buffer.length % frameBytes ≠ 0 →
    p.readFrames buffer = ⟨.error (.misalignedBuffer buffer.length), buffer, p⟩
  /-- No other buffer is refused. -/
  misaligned_only : ∀ buffer length,
    (p.readFrames buffer).outcome = .error (.misalignedBuffer length) →
      buffer.length % frameBytes ≠ 0
  /-- If the passes that a read makes succeed, their frames are written, and the patch is the one
  after exactly these passes. -/
  completed : ∀ buffer, buffer.length % frameBytes = 0 →
    (p.passes (p.framesIn buffer)).1 = .ok () →
      (p.readFrames buffer).outcome = .ok (frameBytes * p.framesIn buffer) ∧
        p.Filled (p.framesIn buffer) buffer (p.readFrames buffer).buffer ∧
        (p.readFrames buffer).patch = (p.passes (p.framesIn buffer)).2
  /-- If one of them is the first to fail, the frames before it are written, and the patch is the
  one after the passes before it and the failed one. -/
  aborted : ∀ buffer, buffer.length % frameBytes = 0 → ∀ done < p.framesIn buffer, ∀ failure,
    (p.passes done).1 = .ok () → (p.passes done).2.pass.1 = .error failure →
      (p.readFrames buffer).outcome = .error failure ∧
        p.Filled done buffer (p.readFrames buffer).buffer ∧
        (p.readFrames buffer).patch = (p.passes done).2.pass.2
  one_le_readCap : 1 ≤ p.readCap
  /-- So a read that succeeds makes a frame, unless there is no room for one. -/
  progress : ∀ buffer count, buffer ≠ [] → (p.readFrames buffer).outcome = .ok count →
    frameBytes ≤ count
  /-- Reads that succeed, of any sizes and with any caps set in between, leave the same bytes and
  the same patch, but for the cap, as others that add up to the same length. -/
  chunks : ∀ reads others : List (Operation D),
    (∀ operation ∈ reads, operation.Streams) → (∀ operation ∈ others, operation.Streams) →
    (∀ answer ∈ (p.run reads).1, answer.error? = none) →
    (∀ answer ∈ (p.run others).1, answer.error? = none) →
    ((p.run reads).1.map Answer.count).sum = ((p.run others).1.map Answer.count).sum →
      (p.run reads).1.flatMap Answer.written = (p.run others).1.flatMap Answer.written ∧
        { (p.run reads).2 with readCap := (p.run others).2.readCap } = (p.run others).2

section Reads

variable {p : Patch D}

theorem aligned_of_readFrames_ok {buffer : List UInt8} {count : Nat}
    (succeeds : (p.readFrames buffer).outcome = .ok count) :
    buffer.length % frameBytes = 0 := by
  by_contra misaligned
  rw [readFrames_of_misaligned misaligned] at succeeds
  cases succeeds

theorem readFrames_of_completed {buffer : List UInt8} (aligned : buffer.length % frameBytes = 0)
    (finished : (p.passes (p.framesIn buffer)).1 = .ok ()) :
    (p.readFrames buffer).outcome = .ok (frameBytes * p.framesIn buffer) ∧
      p.Filled (p.framesIn buffer) buffer (p.readFrames buffer).buffer ∧
      (p.readFrames buffer).patch = (p.passes (p.framesIn buffer)).2 := by
  obtain ⟨-, last⟩ := frames_of_passes_ok finished
  rw [readFrames_of_aligned aligned, last]
  refine ⟨?_, filled_overwrite finished (framesIn_mul_le p buffer), rfl⟩
  rw [Nat.mul_comm]
  rfl

theorem readFrames_of_aborted {buffer : List UInt8} (aligned : buffer.length % frameBytes = 0)
    {done : Nat} (below : done < p.framesIn buffer) {failure : PatchError}
    (fine : (p.passes done).1 = .ok ()) (failed : (p.passes done).2.pass.1 = .error failure) :
    (p.readFrames buffer).outcome = .error failure ∧
      p.Filled done buffer (p.readFrames buffer).buffer ∧
      (p.readFrames buffer).patch = (p.passes done).2.pass.2 := by
  have room : done * frameBytes ≤ buffer.length :=
    (Nat.mul_le_mul_right _ below.le).trans (framesIn_mul_le p buffer)
  rw [readFrames_of_aligned aligned, frames_of_failure fine failed below]
  exact ⟨rfl, filled_overwrite fine room, rfl⟩

/-- An aligned read ends with all its passes or with the first of them that fails. -/
theorem readFrames_cases {buffer : List UInt8} (aligned : buffer.length % frameBytes = 0) :
    (p.readFrames buffer).outcome = .ok (frameBytes * p.framesIn buffer) ∨
      ∃ id failure, (p.readFrames buffer).outcome = .error (.deviceFailed id failure) := by
  rcases passes_ok_or_fails p (p.framesIn buffer) with fine | ⟨done, below, failure, fine, failed⟩
  · exact Or.inl (readFrames_of_completed aligned fine).1
  · obtain ⟨id, reason, rfl⟩ := exists_of_pass_error failed
    exact Or.inr ⟨id, reason, (readFrames_of_aborted aligned below fine failed).1⟩

theorem misaligned_of_readFrames {buffer : List UInt8} {length : Nat}
    (refused : (p.readFrames buffer).outcome = .error (.misalignedBuffer length)) :
    buffer.length % frameBytes ≠ 0 := by
  intro aligned
  rcases readFrames_cases (p := p) aligned with succeeds | ⟨id, failure, failed⟩
  · rw [succeeds] at refused
    cases refused
  · rw [failed] at refused
    cases refused

theorem frameBytes_le_of_readFrames_ok (positive : 1 ≤ p.readCap) {buffer : List UInt8}
    {count : Nat} (room : buffer ≠ []) (succeeds : (p.readFrames buffer).outcome = .ok count) :
    frameBytes ≤ count := by
  have aligned := aligned_of_readFrames_ok succeeds
  have makes : 1 ≤ p.framesIn buffer := by
    have length := List.length_pos_iff.mpr room
    unfold framesIn frameBytes at *
    omega
  rcases readFrames_cases (p := p) aligned with all | ⟨id, failure, failed⟩
  · rw [succeeds] at all
    cases all
    exact Nat.le_mul_of_pos_right frameBytes makes
  · rw [succeeds] at failed
    cases failed

theorem chunks_of_streams {reads others : List (Operation D)}
    (streams : ∀ operation ∈ reads, operation.Streams)
    (streams' : ∀ operation ∈ others, operation.Streams)
    (succeed : ∀ answer ∈ (p.run reads).1, answer.error? = none)
    (succeed' : ∀ answer ∈ (p.run others).1, answer.error? = none)
    (total : ((p.run reads).1.map Answer.count).sum = ((p.run others).1.map Answer.count).sum) :
    (p.run reads).1.flatMap Answer.written = (p.run others).1.flatMap Answer.written ∧
      { (p.run reads).2 with readCap := (p.run others).2.readCap } = (p.run others).2 := by
  obtain ⟨count, here⟩ := streamed_run streams succeed
  obtain ⟨count', there⟩ := streamed_run streams' succeed'
  rw [here.counted, there.counted] at total
  obtain rfl : count = count' := Nat.eq_of_mul_eq_mul_right (by decide) total
  rw [here.written, there.written, here.after_eq, there.after_eq]
  exact ⟨rfl, rfl⟩

/-- What reads do to a patch that operations make out of an empty one. -/
theorem reads_of_reachable (reachable : p.Reachable) : p.Reads where
  misaligned := fun _ => readFrames_of_misaligned
  misaligned_only := fun _ _ => misaligned_of_readFrames
  completed := fun _ => readFrames_of_completed
  aborted := fun _ aligned _ below _ => readFrames_of_aborted aligned below
  one_le_readCap := one_le_readCap_of_reachable reachable
  progress := fun _ _ => frameBytes_le_of_readFrames_ok (one_le_readCap_of_reachable reachable)
  chunks := fun _ _ => chunks_of_streams

end Reads

/-- A ramp of two frames and then a failure. -/
def ramp : Scripted where
  panel := ⟨[], [.ofKind "out" .sample]⟩
  script := [[.emit 0 (.sample ⟨258, -2⟩)], [.emit 0 (.sample ⟨772, -3⟩)], [.fail "over"]]

/-- Listens to the ramp. -/
def ramped : List (Operation Scripted) := [.addDevice ramp, .setOutput ⟨0, 1⟩ "out"]

/-- Two passes succeed, the third is the first to fail, and two frames can be read at once or one by
one. -/
theorem ramped_reads :
    (((ofSettings {}).run ramped).2.Reachable ∧
      (((ofSettings {}).run ramped).2.passes 2).1 = .ok () ∧
      (((ofSettings {}).run ramped).2.passes 2).2.pass.1 =
        .error (.deviceFailed ⟨0, 1⟩ (.failed "over")) ∧
      ((((ofSettings {}).run ramped).2.run
        [.readFrames (.replicate 8 0)]).1.map Answer.count).sum = 8 ∧
      ((((ofSettings {}).run ramped).2.run
        [.setReadCap 1, .readFrames (.replicate 8 0), .readFrames (.replicate 4 0)]).1.map
          Answer.count).sum = 8) ∧
    ((ofSettings {}).run ramped).2.Reads := by
  refine ⟨⟨⟨{}, ramped, rfl⟩, ?_, ?_, ?_, ?_⟩, reads_of_reachable ⟨{}, ramped, rfl⟩⟩
  · decide
  · decide
  · decide
  · decide

/-- A read of three frames fails with two of them written. -/
example : (((ofSettings {}).run ramped).2.readFrames (.replicate 12 7)).buffer =
    [2, 1, 254, 255, 4, 3, 253, 255, 7, 7, 7, 7] := by
  decide

end Patch

end ModularSynth
