import Mathlib.Data.List.Basic
import Mathlib.Data.List.Flatten

/-!
# Frames out of a stream

A reader takes frames off the front of a buffer as long as it can, and is fed the stream in chunks. If it takes an
encoded frame whole and waits on every shorter part of one, then it gives back what was encoded, however the stream
was cut.
-/

namespace Framing

variable {Frame Error Byte : Type}

/-- What a reader makes of a buffer. -/
inductive Next (Frame Error Byte : Type) where
  | more
  | frame (frame : Frame) (rest : List Byte)
  | bad (error : Error)

section Reader
variable (next : List Byte → Next Frame Error Byte)

/-- Takes frames until one is missing or bad, at most the given number of times. -/
def drain : Nat → List Byte → Except Error (List Frame) × List Byte
  | 0, buffer => (.ok [], buffer)
  | n + 1, buffer =>
      match next buffer with
      | .more => (.ok [], buffer)
      | .bad error => (.error error, buffer)
      | .frame frame rest =>
          let (frames, left) := drain n rest
          (frames.map (frame :: ·), left)

def push (buffer chunk : List Byte) : Except Error (List Frame) × List Byte :=
  drain next (buffer ++ chunk).length (buffer ++ chunk)

def pushAll : List Byte → List (List Byte) → Except Error (List Frame) × List Byte
  | buffer, [] => (.ok [], buffer)
  | buffer, chunk :: chunks =>
      match push next buffer chunk with
      | (.error error, left) => (.error error, left)
      | (.ok frames, left) =>
          let (more, last) := pushAll left chunks
          (more.map (frames ++ ·), last)

end Reader

/-- Received of the frames to come is a part of the first one only, or nothing where none is to come. -/
def Incomplete (encode : Frame → List Byte) (coming : List Frame) (received : List Byte) : Prop :=
  match coming with
  | [] => received = []
  | frame :: _ => received <+: encode frame ∧ received ≠ encode frame

/-- The reader takes these frames whole, and waits on every shorter part of one. -/
structure Reads (next : List Byte → Next Frame Error Byte) (encode : Frame → List Byte) (frames : List Frame) :
    Prop where
  empty : next [] = .more
  whole : ∀ frame ∈ frames, ∀ rest, next (encode frame ++ rest) = .frame frame rest
  part : ∀ frame ∈ frames, ∀ received, received <+: encode frame → received ≠ encode frame → next received = .more

variable {next : List Byte → Next Frame Error Byte} {encode : Frame → List Byte} {frames rest : List Frame}
  {buffer received : List Byte} {chunks : List (List Byte)}

theorem Reads.mono (h : Reads next encode frames) (hsub : rest ⊆ frames) : Reads next encode rest :=
  ⟨h.empty, fun frame hmem => h.whole frame (hsub hmem), fun frame hmem => h.part frame (hsub hmem)⟩

theorem Reads.encode_ne_nil (h : Reads next encode frames) : ∀ frame ∈ frames, encode frame ≠ [] := by
  intro frame hmem hnil
  have hwhole := h.whole frame hmem []
  rw [hnil, List.append_nil, h.empty] at hwhole
  cases hwhole

theorem Reads.waits (h : Reads next encode frames) (hincomplete : Incomplete encode frames received) :
    next received = .more := by
  cases frames with
  | nil =>
      rw [show received = [] from hincomplete]
      exact h.empty
  | cons frame frames => exact h.part frame List.mem_cons_self received hincomplete.1 hincomplete.2

theorem Reads.drain_eq (h : Reads next encode frames) (hwaits : next received = .more) {n : Nat}
    (hn : (frames.flatMap encode ++ received).length ≤ n) :
    drain next n (frames.flatMap encode ++ received) = (.ok frames, received) := by
  induction frames generalizing n with
  | nil =>
      rw [List.flatMap_nil, List.nil_append]
      cases n with
      | zero => rfl
      | succ n => rw [drain, hwaits]
  | cons frame frames ih =>
      have hlength : 0 < (encode frame).length :=
        List.length_pos_iff.2 (h.encode_ne_nil frame List.mem_cons_self)
      rw [List.flatMap_cons, List.append_assoc] at hn ⊢
      rw [List.length_append] at hn
      obtain ⟨n, rfl⟩ : ∃ k, n = k + 1 := ⟨n - 1, by omega⟩
      rw [drain, h.whole frame List.mem_cons_self]
      dsimp only
      rw [ih (h.mono (List.subset_cons_self _ _)) (by omega)]
      rfl

theorem exists_incomplete (h : received <+: frames.flatMap encode) :
    ∃ whole coming last, frames = whole ++ coming ∧ received = whole.flatMap encode ++ last ∧
      Incomplete encode coming last := by
  induction frames generalizing received with
  | nil => exact ⟨[], [], [], rfl, List.prefix_nil.1 h, rfl⟩
  | cons frame frames ih =>
      rw [List.flatMap_cons] at h
      by_cases hwhole : encode frame <+: received
      · obtain ⟨tail, rfl⟩ := hwhole
        obtain ⟨whole, coming, last, rfl, rfl, hincomplete⟩ := ih ((List.prefix_append_right_inj _).1 h)
        exact ⟨frame :: whole, coming, last, rfl, by rw [List.flatMap_cons, List.append_assoc], hincomplete⟩
      · refine ⟨[], frame :: frames, received, rfl, rfl, ?_, fun heq => hwhole (heq ▸ List.prefix_refl _)⟩
        exact (List.prefix_or_prefix_of_prefix h (List.prefix_append _ _)).resolve_right hwhole

theorem Reads.pushAll_eq (h : Reads next encode frames) (hincomplete : Incomplete encode frames buffer)
    (hstream : buffer ++ chunks.flatten <+: frames.flatMap encode) :
    ∃ whole coming last, frames = whole ++ coming ∧ buffer ++ chunks.flatten = whole.flatMap encode ++ last ∧
      Incomplete encode coming last ∧ pushAll next buffer chunks = (.ok whole, last) := by
  induction chunks generalizing frames buffer with
  | nil => exact ⟨[], frames, buffer, rfl, List.append_nil _, hincomplete, rfl⟩
  | cons chunk chunks ih =>
      rw [List.flatten_cons, ← List.append_assoc] at hstream ⊢
      obtain ⟨taken, coming, last, rfl, hreceived, hlast⟩ :=
        exists_incomplete ((List.prefix_append _ chunks.flatten).trans hstream)
      rw [hreceived, List.append_assoc, List.flatMap_append, List.prefix_append_right_inj] at hstream
      have hcoming := h.mono (List.subset_append_right taken coming)
      have hpush : push next buffer chunk = (.ok taken, last) := by
        rw [push, hreceived]
        exact (h.mono (List.subset_append_left taken coming)).drain_eq (hcoming.waits hlast) (Nat.le_refl _)
      obtain ⟨whole, rest, left, rfl, hrest, hleft, hall⟩ := ih hcoming hlast hstream
      refine ⟨taken ++ whole, rest, left, (List.append_assoc ..).symm, ?_, hleft, ?_⟩
      · rw [hreceived, List.append_assoc, hrest, List.flatMap_append, List.append_assoc]
      · rw [pushAll, hpush]
        dsimp only
        rw [hall]
        rfl

theorem Incomplete.of_stream {whole coming : List Frame} {last : List Byte}
    (hincomplete : Incomplete encode coming last) (hstream : (whole ++ coming).flatMap encode = whole.flatMap encode ++ last) :
    coming = [] ∧ last = [] := by
  rw [List.flatMap_append, List.append_cancel_left_eq] at hstream
  cases coming with
  | nil => exact ⟨rfl, hincomplete⟩
  | cons frame coming =>
      obtain ⟨hincoming, hne⟩ := hincomplete
      rw [← hstream, List.flatMap_cons] at hincoming hne
      have hlength := hincoming.length_le
      rw [List.length_append] at hlength
      rw [List.length_eq_zero_iff.1 (show (coming.flatMap encode).length = 0 by omega), List.append_nil] at hne
      exact absurd rfl hne

theorem forall_of_drain {P : Frame → Prop} (hP : ∀ buffer frame rest, next buffer = .frame frame rest → P frame)
    {n : Nat} {left : List Byte} (h : drain next n buffer = (.ok frames, left)) : ∀ frame ∈ frames, P frame := by
  induction n generalizing buffer frames with
  | zero =>
      cases h
      exact fun _ hmem => absurd hmem List.not_mem_nil
  | succ n ih =>
      rw [drain] at h
      cases hnext : next buffer with
      | more =>
          rw [hnext] at h
          cases h
          exact fun _ hmem => absurd hmem List.not_mem_nil
      | bad error =>
          rw [hnext] at h
          cases h
      | frame frame rest =>
          rw [hnext] at h
          cases hrest : drain next n rest with
          | mk result last =>
              simp only [hrest] at h
              cases result with
              | error e => cases h
              | ok more =>
                  cases h
                  exact List.forall_mem_cons.2 ⟨hP _ _ _ hnext, ih hrest⟩

theorem forall_of_pushAll {P : Frame → Prop} (hP : ∀ buffer frame rest, next buffer = .frame frame rest → P frame)
    {left : List Byte} (h : pushAll next buffer chunks = (.ok frames, left)) : ∀ frame ∈ frames, P frame := by
  induction chunks generalizing buffer frames with
  | nil =>
      cases h
      exact fun _ hmem => absurd hmem List.not_mem_nil
  | cons chunk chunks ih =>
      rw [pushAll] at h
      cases hpush : push next buffer chunk with
      | mk result last =>
          cases result with
          | error e =>
              rw [hpush] at h
              cases h
          | ok taken =>
              rw [hpush] at h
              cases hall : pushAll next last chunks with
              | mk result end' =>
                  simp only [hall] at h
                  cases result with
                  | error e => cases h
                  | ok more =>
                      cases h
                      exact List.forall_mem_append.2 ⟨forall_of_drain hP hpush, ih hall⟩

end Framing
