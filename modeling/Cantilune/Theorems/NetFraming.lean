import Cantilune.Comms.Delivery

/-!
# Framing over the net

What the parser gives back of encoded frames, however their bytes were cut into chunks.
-/

namespace Cantilune.Comms

open Framing

variable {maxFrameBytes : Nat} {frame : NetFrame} {frames : List NetFrame} {buffer rest : List UInt8}
  {state : NetFrameParseState} {chunks : List (List UInt8)}

/-! ## The header -/

theorem toNat_lengthByte (length shift : Nat) : (lengthByte length shift).toNat = length % 2 ^ 32 / 2 ^ shift % 256 := by
  rw [lengthByte, UInt8.toNat_ofNat', Nat.shiftRight_eq_div_pow, show (0xff : Nat) = 2 ^ 8 - 1 from rfl,
    Nat.and_two_pow_sub_one_eq_mod]
  omega

theorem or_bytes {b0 b1 b2 b3 : Nat} (h1 : b1 < 256) (h2 : b2 < 256) (h3 : b3 < 256) :
    b0 <<< 24 ||| b1 <<< 16 ||| b2 <<< 8 ||| b3 = b0 * 2 ^ 24 + b1 * 2 ^ 16 + b2 * 2 ^ 8 + b3 := by
  have hlow : b2 <<< 8 ||| b3 = b2 * 2 ^ 8 + b3 := by
    rw [← Nat.shiftLeft_add_eq_or_of_lt (by omega), Nat.shiftLeft_eq]
  have hmiddle : b1 <<< 16 ||| (b2 * 2 ^ 8 + b3) = b1 * 2 ^ 16 + (b2 * 2 ^ 8 + b3) := by
    rw [← Nat.shiftLeft_add_eq_or_of_lt (by omega), Nat.shiftLeft_eq]
  have hhigh : b0 <<< 24 ||| (b1 * 2 ^ 16 + (b2 * 2 ^ 8 + b3)) = b0 * 2 ^ 24 + (b1 * 2 ^ 16 + (b2 * 2 ^ 8 + b3)) := by
    rw [← Nat.shiftLeft_add_eq_or_of_lt (by omega), Nat.shiftLeft_eq]
  rw [Nat.or_assoc, Nat.or_assoc, hlow, hmiddle, hhigh]
  omega

theorem readU32Be_lt (bytes : List UInt8) (offset : Nat) : readU32Be bytes offset < 2 ^ 32 :=
  Nat.mod_lt _ (by decide)

theorem readU32Be_encodeNetFrame (frame : NetFrame) (rest : List UInt8) :
    readU32Be (encodeNetFrame frame ++ rest) 1 = frame.payload.length % 2 ^ 32 := by
  have hread : readU32Be (encodeNetFrame frame ++ rest) 1 =
      ((lengthByte frame.payload.length 24).toNat <<< 24 ||| (lengthByte frame.payload.length 16).toNat <<< 16 |||
        (lengthByte frame.payload.length 8).toNat <<< 8 ||| (lengthByte frame.payload.length 0).toNat) % 2 ^ 32 := rfl
  rw [hread, or_bytes (UInt8.toNat_lt _) (UInt8.toNat_lt _) (UInt8.toNat_lt _)]
  simp only [toNat_lengthByte]
  omega

theorem netFrameType?_byte (type : NetFrameType) : netFrameType? type.byte = some type := by
  cases type <;> rfl

theorem length_encodeNetFrame (frame : NetFrame) :
    (encodeNetFrame frame).length = netFrameHeaderBytes + frame.payload.length := by
  simp only [encodeNetFrame, List.length_cons, netFrameHeaderBytes]
  omega

/-! ## One frame -/

theorem takeNetFrame_whole (hlength : frame.payload.length < 2 ^ 32) (hmax : frame.payload.length ≤ maxFrameBytes)
    (rest : List UInt8) : takeNetFrame maxFrameBytes (encodeNetFrame frame ++ rest) = .frame frame rest := by
  have htotal := length_encodeNetFrame frame
  have hread := readU32Be_encodeNetFrame frame rest
  rw [Nat.mod_eq_of_lt hlength] at hread
  have htype : (encodeNetFrame frame ++ rest).getD 0 0 = frame.type.byte := rfl
  rw [takeNetFrame, if_neg (by rw [List.length_append]; omega), htype, netFrameType?_byte]
  dsimp only
  rw [hread, if_neg (by omega), if_neg (by rw [List.length_append]; omega), ← htotal, List.take_left, List.drop_left]
  rfl

theorem takeNetFrame_part (hlength : frame.payload.length < 2 ^ 32) (hmax : frame.payload.length ≤ maxFrameBytes)
    (hpart : buffer <+: encodeNetFrame frame) (hne : buffer ≠ encodeNetFrame frame) :
    takeNetFrame maxFrameBytes buffer = .more := by
  obtain ⟨tail, htail⟩ := hpart
  have htotal := length_encodeNetFrame frame
  have htailLength : 0 < tail.length := by
    rw [List.length_pos_iff]
    rintro rfl
    exact hne (by rw [← htail, List.append_nil])
  rw [← htail, List.length_append] at htotal
  by_cases hshort : buffer.length < netFrameHeaderBytes
  · rw [takeNetFrame, if_pos hshort]
  · -- the header is there, and says what the whole frame would
    have hheader : ∀ i < netFrameHeaderBytes, buffer.getD i 0 = (encodeNetFrame frame).getD i 0 := by
      intro i hi
      rw [← htail, List.getD_eq_getElem?_getD, List.getD_eq_getElem?_getD, List.getElem?_append_left (by omega)]
    have hread : readU32Be buffer 1 = frame.payload.length := by
      have hwhole := readU32Be_encodeNetFrame frame []
      rw [List.append_nil, Nat.mod_eq_of_lt hlength] at hwhole
      rw [← hwhole]
      simp only [readU32Be, hheader 1 (by decide), hheader 2 (by decide), hheader 3 (by decide), hheader 4 (by decide)]
    have htype : buffer.getD 0 0 = frame.type.byte := hheader 0 (by decide)
    rw [takeNetFrame, if_neg hshort, htype, netFrameType?_byte]
    dsimp only
    rw [hread, if_neg (by omega), if_pos (by omega)]

theorem reads_netFrames (hmax : ∀ frame ∈ frames, frame.payload.length ≤ maxFrameBytes)
    (hlength : ∀ frame ∈ frames, frame.payload.length < 2 ^ 32) :
    Reads (takeNetFrame maxFrameBytes) encodeNetFrame frames where
  empty := rfl
  whole frame hmem := takeNetFrame_whole (hlength frame hmem) (hmax frame hmem)
  part frame hmem _ := takeNetFrame_part (hlength frame hmem) (hmax frame hmem)

theorem length_of_takeNetFrame (h : takeNetFrame maxFrameBytes buffer = .frame frame rest) :
    frame.payload.length < 2 ^ 32 := by
  unfold takeNetFrame at h
  split at h
  · cases h
  · split at h
    · cases h
    · dsimp only at h
      split at h
      · cases h
      · split at h
        · cases h
        · cases h
          have hread := readU32Be_lt buffer 1
          rw [List.length_drop, List.length_take]
          omega

/-! ## Any cut -/

theorem pushChunks_eq (chunks : List (List UInt8)) : pushChunks maxFrameBytes state chunks =
    ((pushAll (takeNetFrame maxFrameBytes) state.buffer chunks).1,
      { buffer := (pushAll (takeNetFrame maxFrameBytes) state.buffer chunks).2 }) := by
  induction chunks generalizing state with
  | nil => rfl
  | cons chunk chunks ih =>
      rw [pushChunks, pushAll, pushNetBytes]
      rcases push (takeNetFrame maxFrameBytes) state.buffer chunk with ⟨error | taken, left⟩
      · rfl
      · dsimp only
        rw [ih]

theorem length_of_pushChunks {left : NetFrameParseState}
    (h : pushChunks maxFrameBytes state chunks = (.ok frames, left)) :
    ∀ frame ∈ frames, frame.payload.length < 2 ^ 32 := by
  rw [pushChunks_eq, Prod.mk.injEq] at h
  have hall : pushAll (takeNetFrame maxFrameBytes) state.buffer chunks = (.ok frames, left.buffer) :=
    Prod.ext h.1 (by rw [← h.2])
  exact forall_of_pushAll (fun _ _ _ => length_of_takeNetFrame) hall

/-- Behind every chunk the parser has given back the frames that came in whole and holds the rest of what came in,
a part of the next frame; behind the last one it has given back all frames. -/
structure FramedExactly (maxFrameBytes : Nat) (frames : List NetFrame) (chunks : List (List UInt8)) : Prop where
  along : ∀ before after, chunks = before ++ after → ∃ whole coming last, frames = whole ++ coming ∧
    before.flatten = whole.flatMap encodeNetFrame ++ last ∧ Incomplete encodeNetFrame coming last ∧
      pushChunks maxFrameBytes { buffer := [] } before = (.ok whole, { buffer := last })
  all : pushChunks maxFrameBytes { buffer := [] } chunks = (.ok frames, { buffer := [] })

/-- Frames that the limit allows are given back of every cut of their bytes exactly if their lengths fit the four
bytes of the header. -/
theorem framed_exactly_iff {maxFrameBytes : Nat} {frames : List NetFrame} {chunks : List (List UInt8)}
    (hmax : ∀ frame ∈ frames, frame.payload.length ≤ maxFrameBytes)
    (hcut : chunks.flatten = frames.flatMap encodeNetFrame) :
    FramedExactly maxFrameBytes frames chunks ↔ ∀ frame ∈ frames, frame.payload.length < 2 ^ 32 := by
  constructor
  · intro h
    exact length_of_pushChunks h.all
  · intro hlength
    have hreads := reads_netFrames hmax hlength
    have hstart : Incomplete encodeNetFrame frames [] := by
      cases frames with
      | nil => rfl
      | cons frame frames =>
          exact ⟨List.nil_prefix, fun hnil => hreads.encode_ne_nil frame List.mem_cons_self hnil.symm⟩
    have along : ∀ before after, chunks = before ++ after → ∃ whole coming last, frames = whole ++ coming ∧
        before.flatten = whole.flatMap encodeNetFrame ++ last ∧ Incomplete encodeNetFrame coming last ∧
          pushChunks maxFrameBytes { buffer := [] } before = (.ok whole, { buffer := last }) := by
      rintro before after rfl
      have hstream : [] ++ before.flatten <+: frames.flatMap encodeNetFrame := by
        rw [← hcut, List.flatten_append]
        exact List.prefix_append _ _
      obtain ⟨whole, coming, last, hframes, hreceived, hincomplete, hpush⟩ := hreads.pushAll_eq hstart hstream
      exact ⟨whole, coming, last, hframes, hreceived, hincomplete, by rw [pushChunks_eq, hpush]⟩
    refine ⟨along, ?_⟩
    obtain ⟨whole, coming, last, hframes, hreceived, hincomplete, hpush⟩ := along chunks [] (List.append_nil _).symm
    rw [hcut, hframes] at hreceived
    obtain ⟨rfl, rfl⟩ := hincomplete.of_stream hreceived
    rw [hpush, hframes, List.append_nil]

/-- Two frames in three chunks, one of them empty. -/
theorem two_frames_framed : FramedExactly 3 [⟨.handshake, [7]⟩, ⟨.envelope, []⟩]
    [[2, 0, 0], [], [0, 1, 7, 1, 0, 0, 0, 0]] :=
  (framed_exactly_iff (by decide) (by decide)).2 (by decide)

/-- A payload of 2^32 bytes: its header says that the frame is empty. -/
theorem long_payload_not_framed :
    ¬ ∀ maxFrameBytes frames (chunks : List (List UInt8)), (∀ frame ∈ frames, frame.payload.length ≤ maxFrameBytes) →
      chunks.flatten = frames.flatMap encodeNetFrame → FramedExactly maxFrameBytes frames chunks := by
  intro hall
  obtain ⟨payload, hlength⟩ : ∃ payload : List UInt8, payload.length = 2 ^ 32 :=
    ⟨List.replicate _ 0, List.length_replicate⟩
  have hframed := hall (2 ^ 32) [⟨.envelope, payload⟩] [encodeNetFrame ⟨.envelope, payload⟩]
    (fun frame hmem => by rw [List.mem_singleton.1 hmem, hlength])
    (by rw [List.flatten_singleton, List.flatMap_singleton])
  have hshort := length_of_pushChunks hframed.all _ (List.mem_singleton_self _)
  exact absurd hlength hshort.ne

end Cantilune.Comms
