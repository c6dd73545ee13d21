import Hxrpc.Codec
import Hxrpc.Lib.StreamCut

/-!
# The frame grammar of a byte stream

A stream is a sequence of frames: four bytes holding a length `n` in network byte order, then `n`
bytes, with `4 ≤ n ≤ 4194304`.  This is the one grammar that the server's and the client's
hand-written receive loops are compared with.
-/

namespace Hxrpc

open BigEndian StreamCut

/-- Largest frame body in the grammar. -/
def maxFrameBody : Nat := 4 * 1024 * 1024

/-- A length that a frame may declare. -/
def AdmissibleLength (n : Nat) : Prop :=
  4 ≤ n ∧ n ≤ maxFrameBody

instance (n : Nat) : Decidable (AdmissibleLength n) :=
  inferInstanceAs (Decidable (_ ∧ _))

/-- One complete frame of the grammar. -/
structure IsFrame (frame : Bytes) : Prop where
  admissible : AdmissibleLength (decode32 frame)
  length : frame.length = 4 + decode32 frame

instance (frame : Bytes) : Decidable (IsFrame frame) :=
  decidable_of_iff (AdmissibleLength (decode32 frame) ∧ frame.length = 4 + decode32 frame)
    ⟨fun parts => ⟨parts.1, parts.2⟩, fun isFrame => ⟨isFrame.admissible, isFrame.length⟩⟩

/-- The decision on a buffer: wait for the length and the body, refuse other lengths. -/
def cutFrame (buffer : Bytes) : Cut UInt8 :=
  if buffer.length < 4 then .more
  else if ¬ AdmissibleLength (decode32 buffer) then .reject
  else if buffer.length < 4 + decode32 buffer then .more
  else .item (buffer.take (4 + decode32 buffer)) (buffer.drop (4 + decode32 buffer))

theorem cutFrame_item_iff {buffer front rest : Bytes} :
    cutFrame buffer = .item front rest ↔
      AdmissibleLength (decode32 buffer) ∧ 4 + decode32 buffer ≤ buffer.length ∧
        front = buffer.take (4 + decode32 buffer) ∧ rest = buffer.drop (4 + decode32 buffer) := by
  simp only [cutFrame]
  constructor
  · intro decision
    split at decision
    · cases decision
    split at decision
    · cases decision
    split at decision
    · cases decision
    · rename_i admissible fits
      cases decision
      exact ⟨not_not.mp admissible, by omega, rfl, rfl⟩
  · rintro ⟨admissible, fits, rfl, rfl⟩
    rw [if_neg (by omega), if_neg (not_not.mpr admissible), if_neg (by omega)]

theorem cutFrame_reject_iff {buffer : Bytes} :
    cutFrame buffer = .reject ↔ 4 ≤ buffer.length ∧ ¬ AdmissibleLength (decode32 buffer) := by
  simp only [cutFrame]
  constructor
  · intro decision
    split at decision
    · cases decision
    split at decision
    · exact ⟨by omega, ‹_›⟩
    split at decision <;> cases decision
  · rintro ⟨complete, inadmissible⟩
    rw [if_neg (by omega), if_pos inadmissible]

theorem cutFrame_more_iff {buffer : Bytes} :
    cutFrame buffer = .more ↔
      buffer.length < 4 ∨
        AdmissibleLength (decode32 buffer) ∧ buffer.length < 4 + decode32 buffer := by
  simp only [cutFrame]
  by_cases short : buffer.length < 4
  · simp [short]
  by_cases admissible : AdmissibleLength (decode32 buffer)
  · by_cases incomplete : buffer.length < 4 + decode32 buffer <;>
      simp [short, admissible, incomplete]
  · simp [short, admissible]

theorem isFrame_of_cut {buffer front rest : Bytes} (decision : cutFrame buffer = .item front rest) :
    IsFrame front := by
  obtain ⟨admissible, fits, rfl, rfl⟩ := cutFrame_item_iff.mp decision
  have declared : decode32 (buffer.take (4 + decode32 buffer)) = decode32 buffer := by
    have whole := decode32_append (buffer.take (4 + decode32 buffer))
      (buffer.drop (4 + decode32 buffer)) (by rw [List.length_take]; omega)
    rw [List.take_append_drop] at whole
    exact whole.symm
  refine ⟨?_, ?_⟩
  · rw [declared]
    exact admissible
  · rw [declared, List.length_take]
    omega

/-- A complete frame is the one item of itself. -/
theorem cutFrame_of_isFrame {frame : Bytes} (isFrame : IsFrame frame) (rest : Bytes) :
    cutFrame (frame ++ rest) = .item frame rest := by
  have length := isFrame.length
  have declared := decode32_append frame rest (by omega)
  refine cutFrame_item_iff.mpr ⟨declared ▸ isFrame.admissible, ?_, ?_, ?_⟩
  · rw [declared, List.length_append]
    omega
  · rw [declared, ← length, List.take_left]
  · rw [declared, ← length, List.drop_left]

/-- The frame grammar as a cutting rule. -/
def frameCutter : Cutter UInt8 where
  cut := cutFrame
  cut_item := by
    intro buffer front rest decision
    obtain ⟨admissible, fits, rfl, rfl⟩ := cutFrame_item_iff.mp decision
    refine ⟨(List.take_append_drop _ _).symm, ?_⟩
    apply List.ne_nil_of_length_pos
    rw [List.length_take]
    omega
  cut_front := by
    intro buffer front rest decision
    simpa using cutFrame_of_isFrame (isFrame_of_cut decision) []
  item_append := by
    intro buffer front rest more decision
    obtain ⟨admissible, fits, rfl, rfl⟩ := cutFrame_item_iff.mp decision
    have declared := decode32_append buffer more (by omega)
    refine cutFrame_item_iff.mpr ⟨declared ▸ admissible, ?_, ?_, ?_⟩
    · rw [declared, List.length_append]
      omega
    · rw [declared, List.take_append_of_le_length fits]
    · rw [declared, List.drop_append_of_le_length fits]
  reject_append := by
    intro buffer more decision
    obtain ⟨complete, inadmissible⟩ := cutFrame_reject_iff.mp decision
    refine cutFrame_reject_iff.mpr ⟨?_, ?_⟩
    · rw [List.length_append]
      omega
    · rwa [decode32_append buffer more complete]

@[simp] theorem frameCutter_cut (buffer : Bytes) : frameCutter.cut buffer = cutFrame buffer := rfl

/-- Every item that the grammar cuts from a stream is a frame. -/
theorem isFrame_of_mem_items {stream frame : Bytes}
    (member : frame ∈ (frameCutter.split stream).items) : IsFrame frame := by
  obtain ⟨buffer, rest, decision⟩ := frameCutter.exists_cut_of_mem_items stream member
  exact isFrame_of_cut decision

theorem frameCutter_split_nil :
    frameCutter.split [] = { items := [], residue := [], rejected := false } :=
  frameCutter.split_of_more (by simp [cutFrame])

/-- A stream that is one frame splits into that frame. -/
theorem frameCutter_split_frame {frame : Bytes} (isFrame : IsFrame frame) :
    frameCutter.split frame = { items := [frame], residue := [], rejected := false } := by
  have decision := cutFrame_of_isFrame isFrame []
  rw [List.append_nil] at decision
  rw [frameCutter.split_of_item decision, frameCutter_split_nil]

/-- Frames in front of a stream are its first items. -/
theorem frameCutter_split_frames {frames : List Bytes}
    (all_frames : ∀ frame ∈ frames, IsFrame frame) (rest : Bytes) :
    frameCutter.split (frames.flatten ++ rest) =
      { frameCutter.split rest with items := frames ++ (frameCutter.split rest).items } := by
  induction frames with
  | nil => rfl
  | cons frame frames ih =>
      have decision := cutFrame_of_isFrame (all_frames frame List.mem_cons_self)
        (frames.flatten ++ rest)
      rw [List.flatten_cons, List.append_assoc, frameCutter.split_of_item decision,
        ih fun other member => all_frames other (List.mem_cons_of_mem frame member)]
      rfl

/-- Frames are self-delimiting: when their bytes begin the bytes of other frames, they are the first
of these. -/
theorem frames_begin {first second : List Bytes} {rest : Bytes}
    (first_frames : ∀ frame ∈ first, IsFrame frame)
    (second_frames : ∀ frame ∈ second, IsFrame frame)
    (begins : first.flatten ++ rest <+: second.flatten) :
    first <+: second ∧ rest <+: (second.drop first.length).flatten := by
  induction first generalizing second with
  | nil => exact ⟨List.nil_prefix, by simpa using begins⟩
  | cons frame first ih =>
      obtain ⟨left, whole⟩ := begins
      have frame_is := first_frames frame List.mem_cons_self
      cases second with
      | nil =>
          have length := congrArg List.length whole
          have positive := frame_is.length
          simp only [List.flatten_cons, List.flatten_nil, List.length_append,
            List.length_nil] at length
          omega
      | cons other second =>
          have first_cut := cutFrame_of_isFrame frame_is (first.flatten ++ (rest ++ left))
          have second_cut := cutFrame_of_isFrame (second_frames other List.mem_cons_self)
            second.flatten
          have same : frame ++ (first.flatten ++ (rest ++ left)) = other ++ second.flatten := by
            simpa using whole
          rw [same, second_cut] at first_cut
          obtain ⟨rfl, behind_eq⟩ := Cut.item.inj first_cut
          obtain ⟨front, behind⟩ := ih
            (fun frame member => first_frames frame (List.mem_cons_of_mem other member))
            (fun frame member => second_frames frame (List.mem_cons_of_mem other member))
            ⟨left, by simpa using behind_eq.symm⟩
          exact ⟨List.cons_prefix_cons.mpr ⟨rfl, front⟩, behind⟩

/-- An encoded frame is a frame of the grammar exactly when its body is within the limit. -/
theorem isFrame_of_encodeFrame_iff {header payload frame : Bytes}
    (encoded : encodeFrame header payload = .ok frame) :
    IsFrame frame ↔ frame.length - kLengthPrefixSize ≤ maxFrameBody := by
  have length := length_of_encodeFrame encoded
  have declared := decode32_of_encodeFrame encoded
  simp only [kLengthPrefixSize] at length declared ⊢
  constructor
  · rintro ⟨⟨lower, upper⟩, whole⟩
    omega
  · intro within
    have small : (frame.length - 4) % 2 ^ 32 = frame.length - 4 := by
      apply Nat.mod_eq_of_lt
      simp only [maxFrameBody] at within
      omega
    rw [small] at declared
    exact ⟨⟨by omega, by omega⟩, by omega⟩

/-- A frame of the grammar passes the size and the length-prefix checks of `splitFrame`; only the
header length can still be refused. -/
theorem splitFrame_of_isFrame {frame : Bytes} (isFrame : IsFrame frame) {error : RpcError}
    (failed : splitFrame frame = .error error) :
    error = ⟨RpcStatusCode.kInvalidPacket, text "header length exceeds frame size"⟩ := by
  have length := isFrame.length
  have lower := isFrame.admissible.1
  simp only [splitFrame, kLengthPrefixSize] at failed
  rw [if_neg (by omega), if_neg (by omega)] at failed
  split at failed
  · exact (Except.error.inj failed).symm
  · cases failed

end Hxrpc
