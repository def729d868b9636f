import BackingServices.DryRun
import BackingServices.Proofs.Text

/-!
# Writers

A writer is handed bytes until it has taken all of them.  It does not matter in how many pieces they
come: if there is room for all of them they are held and passed on (`write_fits`), and else those are
held for which there is room, and the writer stops the run as it does at its limit (`write_full`).
-/

namespace BackingServices

/-- How a writer stops a run when there is no room left. -/
def AtLimit.stop : AtLimit → Stop
  | .refuse reason => .failure (.submission (.notWritten (.refused reason)))
  | .takeNothing => .failure (.submission (.notWritten .tookNothing))
  | .breakDown => .breakdown

/-- What comes of passing on what was taken. -/
def Writer.passOn (w : Writer) : Except Stop Unit :=
  match w.flushFault? with
  | none => .ok ()
  | some reason => .error (.failure (.submission (.notWritten (.refused reason))))

/-- The pieces of a document are the document. -/
theorem HelmChart.flatten_pieces (c : HelmChart) : c.pieces.flatten = Text.encode c.document := by
  rw [document, Text.encode_append, pieces, List.flatten_cons, List.flatten_singleton]

/-- A document is not empty. -/
theorem HelmChart.length_pieces_pos (c : HelmChart) : 0 < c.pieces.flatten.length := by
  have hmark : 0 < (Text.encode documentMark).length := by
    rw [Text.encode_eq]
    decide
  rw [pieces, List.flatten_cons, List.length_append]
  omega

namespace Stream

variable {w : Writer} {s : Stream} {bytes : List UInt8}

/-- The stream that holds more bytes. -/
def grow (s : Stream) (bytes : List UInt8) : Stream := { s with held := s.held ++ bytes }

/-- The stream that holds more bytes behind which there was no room left. -/
def fill (w : Writer) (s : Stream) (bytes : List UInt8) : Stream :=
  { s.grow bytes with broken := s.broken || w.atLimit = .breakDown }

@[simp] theorem grow_nil (s : Stream) : s.grow [] = s := by
  rw [grow, List.append_nil]

@[simp] theorem grow_grow (s : Stream) (front back : List UInt8) :
    (s.grow front).grow back = s.grow (front ++ back) := by
  simp only [grow, List.append_assoc]

@[simp] theorem grow_fill (w : Writer) (s : Stream) (front back : List UInt8) :
    (s.grow front).fill w back = s.fill w (front ++ back) := by
  simp only [fill, grow, List.append_assoc]

/-! ## Room -/

theorem room_le (w : Writer) (s : Stream) (count : Nat) : s.room w count ≤ count := by
  rw [room]
  cases w.limit? with
  | none => exact Nat.le_refl _
  | some limit => exact Nat.min_le_left _ _

/-- Of bytes one behind the other the first take their room, and the others have what is left. -/
theorem room_add (w : Writer) (s : Stream) (bytes : List UInt8) (count : Nat) :
    s.room w (bytes.length + count) = s.room w bytes.length +
      (s.grow (bytes.take (s.room w bytes.length))).room w count := by
  simp only [room, grow, List.length_append, List.length_take]
  cases w.limit? with
  | none => rfl
  | some limit =>
    simp only
    omega

/-- Where there was not room enough nothing is left. -/
theorem room_of_full (h : s.room w bytes.length < bytes.length) (count : Nat) :
    (s.grow (bytes.take (s.room w bytes.length))).room w count = 0 := by
  simp only [room, grow, List.length_append, List.length_take] at h ⊢
  cases hlimit : w.limit? with
  | none =>
    rw [hlimit] at h
    exact absurd h (Nat.lt_irrefl _)
  | some limit =>
    rw [hlimit] at h
    simp only at h ⊢
    omega

theorem room_add_of_fits (h : s.room w bytes.length = bytes.length) (count : Nat) :
    s.room w (bytes.length + count) = bytes.length + (s.grow bytes).room w count := by
  rw [room_add, h, List.take_length]

theorem room_add_of_full (h : s.room w bytes.length < bytes.length) (count : Nat) :
    s.room w (bytes.length + count) = s.room w bytes.length := by
  rw [room_add, room_of_full h, Nat.add_zero]

/-! ## Handing over -/

theorem offer_of_room (h : s.room w bytes.length ≠ 0) :
    s.offer w bytes = (s.grow (bytes.take (s.room w bytes.length)), .ok (s.room w bytes.length)) :=
  if_neg h

/-- A writer without room takes nothing and stops the run. -/
theorem writeAll_of_no_room (hbytes : bytes ≠ []) (h : s.room w bytes.length = 0) :
    s.writeAll w bytes = (s.fill w [], .error w.atLimit.stop) := by
  obtain ⟨byte, bytes, rfl⟩ := List.exists_cons_of_ne_nil hbytes
  rw [writeAll, offer, if_pos h]
  cases hlimit : w.atLimit with
  | refuse reason => simp [fill, hlimit, AtLimit.stop]
  | takeNothing => simp [fill, hlimit, AtLimit.stop]
  | breakDown => simp [fill, grow, hlimit, AtLimit.stop]

/-- If there is room for some of the bytes, these are taken and the others handed over again. -/
theorem writeAll_of_room (h : s.room w bytes.length ≠ 0) :
    s.writeAll w bytes = (s.grow (bytes.take (s.room w bytes.length))).writeAll w
      (bytes.drop (s.room w bytes.length)) := by
  have hoffer := offer_of_room h
  obtain ⟨count, hcount⟩ := Nat.exists_eq_succ_of_ne_zero h
  cases bytes with
  | nil => exact absurd (Nat.le_zero.mp (room_le w s 0)) h
  | cons byte bytes =>
    rw [writeAll, hoffer, hcount]
    rfl

/-- Bytes that there is room for are all taken. -/
theorem writeAll_fits (h : s.room w bytes.length = bytes.length) :
    s.writeAll w bytes = (s.grow bytes, .ok ()) := by
  by_cases hbytes : bytes = []
  · subst hbytes
    rw [writeAll, grow_nil]
  · have hroom : s.room w bytes.length ≠ 0 := by
      rw [h]
      exact mt List.length_eq_zero_iff.mp hbytes
    rw [writeAll_of_room hroom, h, List.take_length, List.drop_length, writeAll]

/-- Of other bytes those are taken that there is room for. -/
theorem writeAll_full (h : s.room w bytes.length < bytes.length) :
    s.writeAll w bytes =
      (s.fill w (bytes.take (s.room w bytes.length)), .error w.atLimit.stop) := by
  by_cases hroom : s.room w bytes.length = 0
  · have hbytes : bytes ≠ [] := by
      rintro rfl
      exact absurd h (Nat.not_lt_zero _)
    rw [writeAll_of_no_room hbytes hroom, hroom, List.take_zero]
  · have hrest : bytes.drop (s.room w bytes.length) ≠ [] := by
      rw [Ne, List.drop_eq_nil_iff]
      omega
    rw [writeAll_of_room hroom, writeAll_of_no_room hrest (room_of_full h _), grow_fill,
      List.append_nil]

/-! ## Pieces -/

/-- Pieces that there is room for are all taken, and passed on. -/
theorem write_fits {pieces : List (List UInt8)}
    (h : s.room w pieces.flatten.length = pieces.flatten.length) :
    s.write w pieces = (s.grow pieces.flatten, w.passOn) := by
  induction pieces generalizing s with
  | nil =>
    rw [List.flatten_nil, grow_nil, write, Writer.passOn]
    cases w.flushFault? <;> rfl
  | cons piece pieces ih =>
    rw [List.flatten_cons, List.length_append] at h
    have hpiece : s.room w piece.length = piece.length := by
      refine Nat.le_antisymm (room_le w s _) (Nat.le_of_not_lt fun hfull => ?_)
      rw [room_add_of_full hfull] at h
      omega
    rw [room_add_of_fits hpiece] at h
    rw [write, writeAll_fits hpiece, List.flatten_cons, ← grow_grow]
    exact ih (Nat.add_left_cancel h)

/-- Of other pieces those bytes are taken that there is room for. -/
theorem write_full {pieces : List (List UInt8)}
    (h : s.room w pieces.flatten.length < pieces.flatten.length) :
    s.write w pieces =
      (s.fill w (pieces.flatten.take (s.room w pieces.flatten.length)), .error w.atLimit.stop) := by
  induction pieces generalizing s with
  | nil => exact absurd h (Nat.not_lt_zero _)
  | cons piece pieces ih =>
    rw [List.flatten_cons, List.length_append] at h ⊢
    rcases Nat.lt_or_eq_of_le (room_le w s piece.length) with hpiece | hpiece
    · rw [room_add_of_full hpiece, List.take_append_of_le_length (Nat.le_of_lt hpiece), write,
        writeAll_full hpiece]
    · rw [room_add_of_fits hpiece] at h ⊢
      rw [write, writeAll_fits hpiece, List.take_length_add_append, ← grow_fill]
      exact ih (Nat.lt_of_add_lt_add_left h)

end Stream

end BackingServices
