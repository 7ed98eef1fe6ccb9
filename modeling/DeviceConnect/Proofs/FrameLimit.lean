import DeviceConnect.Proofs.Receiving

/-! How long a frame may be that the buffer reports. The documented limit counts the delimiter, but only
bytes that are none are compared with it; so the limit that is kept is one more. -/
namespace DeviceConnect

open Wire

/-- A stream begins with a frame of this length, which ends with the stream's first zero. -/
def FirstFrame (stream : Bytes) (length : Nat) : Prop :=
  ∃ plain rest, stream = plain ++ 0 :: rest ∧ 0 ∉ plain ∧ plain.length + 1 = length

/-- The first frame of a stream is longer than a limit, finished or not: more bytes come, and none
within the limit ends it. -/
def Overlong (limit : Nat) (stream : Bytes) : Prop :=
  ∃ front b rest, stream = front ++ b :: rest ∧ 0 ∉ front ∧ front.length = limit

/-- A limit on frames, delimiter included, is kept where these chunks are pushed into a cleared buffer
until one of them reports a frame or is refused. -/
structure LimitKept (limit : Nat) (chunks : List Bytes) : Prop where
  within : ∀ n, .ok (some n) ∈ (FrameBuffer.empty.feed chunks).1 → n ≤ limit
  completed : ∀ n, FirstFrame chunks.flatten n → n ≤ limit →
    .ok (some n) ∈ (FrameBuffer.empty.feed chunks).1
  refused : Overlong limit chunks.flatten →
    .error .tooLong ∈ (FrameBuffer.empty.feed chunks).1 ∧
      ∀ n, .ok (some n) ∉ (FrameBuffer.empty.feed chunks).1

/-- The byte that takes a stream past a limit is no delimiter, and none before it is. -/
def Passes (limit : Nat) (stream : Bytes) : Prop :=
  ∃ front b rest, stream = front ++ b :: rest ∧ 0 ∉ front ∧ front.length = limit ∧ b ≠ 0

variable {limit : Nat} {stream : Bytes}

theorem Overlong.firstFrame_or_passes (overlong : Overlong limit stream) :
    FirstFrame stream (limit + 1) ∨ Passes limit stream := by
  obtain ⟨front, b, rest, split, plain, size⟩ := overlong
  by_cases delimiter : b = 0
  · subst delimiter
    exact .inl ⟨front, rest, split, plain, congrArg Nat.succ size⟩
  · exact .inr ⟨front, b, rest, split, plain, size, delimiter⟩

theorem Overlong.passes (overlong : Overlong (limit + 1) stream) : Passes limit stream := by
  obtain ⟨front, b, rest, rfl, plain, size⟩ := overlong
  rcases List.eq_nil_or_concat front with rfl | ⟨front, last, rfl⟩
  · cases size
  · rw [List.concat_eq_append] at plain size ⊢
    obtain ⟨before, here⟩ := not_or.mp (mt List.mem_append.mpr plain)
    rw [List.length_append, List.length_singleton] at size
    refine ⟨front, last, b :: rest, by simp, before, Nat.succ.inj size, ?_⟩
    exact fun zero => here (zero ▸ List.mem_singleton.mpr rfl)

namespace Wire.FrameBuffer

/-- However a stream is cut, a report that decides is that of one push of all of it. -/
theorem mem_feed_iff {report : Except FrameError (Option Nat)} (decided : report ≠ .ok none)
    (buffer : FrameBuffer) (chunks : List Bytes) :
    report ∈ (buffer.feed chunks).1 ↔ (buffer.push chunks.flatten).1 = report := by
  induction chunks generalizing buffer with
  | nil => simpa [feed, push] using decided.symm
  | cons chunk later ih =>
      rw [feed, List.flatten_cons, push_append]
      rcases buffer.push chunk with ⟨e | _ | n, next⟩
      · simp [eq_comm]
      · simpa [decided] using ih next
      · simp [eq_comm]

theorem push_decided {front : Bytes} (undecided : Undecided front) {b : UInt8}
    (decides : Decides front b) (rest : Bytes) :
    (empty.push (front ++ b :: rest)).1 =
      if b = 0 then .ok (some (front.length + 1)) else .error .tooLong := by
  rw [push_append, undecided.push_eq]
  dsimp only
  rw [decides.push_eq]
  split <;> simp

theorem push_of_firstFrame {n : Nat} (first : FirstFrame stream n)
    (fits : n ≤ Protocol.maxFrameBytes + 1) : (empty.push stream).1 = .ok (some n) := by
  obtain ⟨plain, rest, rfl, nonzero, rfl⟩ := first
  exact push_decided ⟨nonzero, Nat.le_of_succ_le_succ fits⟩ (.inl rfl) rest

theorem firstFrame_of_push {n : Nat} (reported : (empty.push stream).1 = .ok (some n)) :
    FirstFrame stream n ∧ n ≤ Protocol.maxFrameBytes + 1 := by
  rcases undecided_or_decided stream with undecided | ⟨front, b, rest, rfl, undecided, decides⟩
  · rw [undecided.push_eq] at reported
    cases reported
  · rw [push_decided undecided decides] at reported
    split at reported
    · next delimiter =>
        cases reported
        exact ⟨⟨front, rest, delimiter ▸ rfl, undecided.plain, rfl⟩, Nat.succ_le_succ undecided.fits⟩
    · cases reported

theorem push_of_passes (passes : Passes Protocol.maxFrameBytes stream) :
    (empty.push stream).1 = .error .tooLong := by
  obtain ⟨front, b, rest, rfl, plain, size, nonzero⟩ := passes
  rw [push_decided ⟨plain, Nat.le_of_eq size⟩ (.inr size), if_neg nonzero]

variable {chunks : List Bytes}

theorem frame_mem_feed_iff {n : Nat} : .ok (some n) ∈ (empty.feed chunks).1 ↔
    FirstFrame chunks.flatten n ∧ n ≤ Protocol.maxFrameBytes + 1 := by
  rw [mem_feed_iff (by simp)]
  constructor
  · exact firstFrame_of_push
  · rintro ⟨first, fits⟩
    exact push_of_firstFrame first fits

theorem refused_of_passes (passes : Passes Protocol.maxFrameBytes chunks.flatten) :
    .error .tooLong ∈ (empty.feed chunks).1 ∧ ∀ n, .ok (some n) ∉ (empty.feed chunks).1 := by
  have refused := push_of_passes passes
  refine ⟨(mem_feed_iff (by simp) empty chunks).mpr refused, fun n reported => ?_⟩
  rw [mem_feed_iff (by simp), refused] at reported
  cases reported

end Wire.FrameBuffer

open Wire.FrameBuffer

/-- A frame one byte longer than the documented limit is reported, and none longer than that; so the
documented limit is kept unless the stream begins with such a frame. -/
theorem limit_kept_iff (chunks : List Bytes) :
    LimitKept (Protocol.maxFrameBytes + 1) chunks ∧
      (LimitKept Protocol.maxFrameBytes chunks ↔
        ¬FirstFrame chunks.flatten (Protocol.maxFrameBytes + 1)) := by
  refine ⟨?_, ?_, ?_⟩
  · exact {
      within := fun n reported => (frame_mem_feed_iff.mp reported).2
      completed := fun n first fits => frame_mem_feed_iff.mpr ⟨first, fits⟩
      refused := fun overlong => refused_of_passes overlong.passes }
  · intro kept first
    have fits := kept.within _ (frame_mem_feed_iff.mpr ⟨first, Nat.le_refl _⟩)
    exact absurd fits (Nat.not_succ_le_self _)
  · intro other
    refine ⟨fun n reported => ?_, fun n first fits => ?_, fun overlong => ?_⟩
    · obtain ⟨first, fits⟩ := frame_mem_feed_iff.mp reported
      refine Nat.le_of_lt_succ (Nat.lt_of_le_of_ne fits ?_)
      rintro rfl
      exact other first
    · exact frame_mem_feed_iff.mpr ⟨first, Nat.le_succ_of_le fits⟩
    · exact refused_of_passes (overlong.firstFrame_or_passes.resolve_left other)

/-- An answer in a frame that is one byte too long is taken as if it were in order. -/
theorem overlong_pong_is_heard :
    let frame : Bytes := 128 :: 1 :: List.replicate 126 0x55 ++ [0]
    FirstFrame frame (Protocol.maxFrameBytes + 1) ∧ Overlong Protocol.maxFrameBytes frame ∧
      FrameBuffer.empty.push frame = (.ok (some 129), ⟨frame⟩) ∧
      FrameBuffer.decode ⟨frame⟩ 129 = .ok .pong ∧ ¬LimitKept Protocol.maxFrameBytes [frame] := by
  intro frame
  have plain : 0 ∉ (128 :: 1 :: List.replicate 126 0x55 : Bytes) := by decide +kernel
  have first : FirstFrame frame (Protocol.maxFrameBytes + 1) := ⟨_, [], rfl, plain, by decide +kernel⟩
  refine ⟨first, ⟨_, 0, [], rfl, plain, by decide +kernel⟩, by decide +kernel, by decide +kernel, ?_⟩
  intro kept
  have reported : .ok (some 129) ∈ (empty.feed [frame]).1 := by decide +kernel
  exact absurd (kept.within 129 reported) (by decide)

end DeviceConnect
