import Mathlib.Algebra.GroupWithZero.Nat
import VolumeService.Graph

/-! # Reading an image piece by piece

A device over a byte image answers reads from any offset with what the image has there.

* **One read** (`Graph.read_image`) never fails.  It fills as much of the buffer as the image has
  left from the offset on, which is nothing at the end and past it, and leaves the rest of the
  buffer as it was.
* **Reading on** (`Graph.readOn`) goes through buffers one after the other, each read starting
  where the one before stopped.
* **Pieces.** What the reads bring is one stretch of the image: the two together are the stretch of
  the summed length (`stretch_add`), so by induction any sequence of buffers brings the stretch of
  the length of all of them (`Graph.pieces_readOn`).
* **The end.** A buffer with room comes back without a byte at the end of the image only, so pieces
  from the front with an empty answer among them are the whole image. -/

namespace VolumeService

/-- The bytes of an image from an offset on, up to a number of them. -/
def stretch (bytes : List UInt8) (offset room : Nat) : List UInt8 := (bytes.drop offset).take room

/-- How many bytes a stretch has. -/
theorem length_stretch (bytes : List UInt8) (offset room : Nat) :
    (stretch bytes offset room).length = min room (bytes.length - offset) := by
  rw [stretch, List.length_take, List.length_drop]

/-- Two stretches, the second from where the first ends, are one. -/
theorem stretch_add (bytes : List UInt8) (offset first second : Nat) :
    stretch bytes offset (first + second) = stretch bytes offset first ++
      stretch bytes (offset + (stretch bytes offset first).length) second := by
  have hend : (bytes.drop offset).drop (stretch bytes offset first).length =
      (bytes.drop offset).drop first := by
    rw [length_stretch, ← List.length_drop]
    rcases Nat.le_total first (bytes.drop offset).length with h | h
    · rw [Nat.min_eq_left h]
    · rw [Nat.min_eq_right h, List.drop_length, List.drop_of_length_le h]
  unfold stretch at hend ⊢
  rw [List.take_add, ← List.drop_drop, hend]

/-- A stretch from the front is the beginning of the image. -/
theorem stretch_zero_isPrefix (bytes : List UInt8) (room : Nat) :
    stretch bytes 0 room <+: bytes := by
  rw [stretch, List.drop_zero]
  exact List.take_prefix ..

/-- A buffer whose front is overwritten. -/
def overwrite (buffer filled : List UInt8) : List UInt8 := filled ++ buffer.drop filled.length

theorem take_overwrite (buffer filled : List UInt8) :
    (overwrite buffer filled).take filled.length = filled := List.take_left ..

theorem drop_overwrite (buffer filled : List UInt8) :
    (overwrite buffer filled).drop filled.length = buffer.drop filled.length :=
  List.drop_left ..

theorem length_overwrite {buffer filled : List UInt8} (h : filled.length ≤ buffer.length) :
    (overwrite buffer filled).length = buffer.length := by
  rw [overwrite, List.length_append, List.length_drop, Nat.add_sub_cancel' h]

/-- Two buffers in a row are overwritten one after the other, unless the first has room left and
there is more to come. -/
theorem overwrite_append {first second filled more : List UInt8}
    (hfilled : filled.length ≤ first.length)
    (hmore : filled.length = first.length ∨ more = []) :
    overwrite (first ++ second) (filled ++ more) =
      overwrite first filled ++ overwrite second more := by
  unfold overwrite
  rcases hmore with hfull | rfl
  · rw [List.length_append, hfull, List.drop_length_add_append, List.drop_length, List.append_nil,
      List.append_assoc]
  · rw [List.append_nil, List.drop_append_of_le_length hfilled, List.length_nil, List.drop_zero,
      List.nil_append, List.append_assoc]

namespace Graph

variable {g : Graph} {n : NodeId} {bytes : List UInt8}

/-- A read of an image overwrites the front of the buffer with the stretch that it has room for. -/
theorem read_image (h : g.content? n = some (.image bytes)) (offset : Nat)
    (buffer : List UInt8) :
    g.read n offset buffer = .ok ((stretch bytes offset buffer.length).length,
      overwrite buffer (stretch bytes offset buffer.length)) := by
  rw [read_eq, h]
  rfl

/-- Reads into one buffer after the other, each time from where the read before stopped: the
answers in order, up to the first failure. -/
def readOn (g : Graph) (n : NodeId) (offset : Nat) :
    List (List UInt8) → Except NodeError (List (Nat × List UInt8))
  | [] => .ok []
  | buffer :: rest =>
    match g.read n offset buffer with
    | .error cause => .error cause
    | .ok answer =>
      match g.readOn n (offset + answer.1) rest with
      | .error cause => .error cause
      | .ok more => .ok (answer :: more)

/-- The bytes that reads brought, in order. -/
def pieces (answers : List (Nat × List UInt8)) : List UInt8 :=
  (answers.map fun answer => answer.2.take answer.1).flatten

/-- Reading an image on takes one read and goes on from the end of what it brought. -/
theorem readOn_cons (h : g.content? n = some (.image bytes)) (offset : Nat)
    (buffer : List UInt8) (rest : List (List UInt8)) :
    g.readOn n offset (buffer :: rest) =
      (g.readOn n (offset + (stretch bytes offset buffer.length).length) rest).map
        fun more => ((stretch bytes offset buffer.length).length,
          overwrite buffer (stretch bytes offset buffer.length)) :: more := by
  rw [readOn, read_image h]
  dsimp only
  split
  next hrest =>
    rw [hrest]
    rfl
  next hrest =>
    rw [hrest]
    rfl

/-- Reading an image on never fails, and brings the stretch that all buffers have room for. -/
theorem pieces_readOn (h : g.content? n = some (.image bytes)) (offset : Nat)
    (buffers : List (List UInt8)) :
    ∃ answers, g.readOn n offset buffers = .ok answers ∧
      answers.length = buffers.length ∧
      pieces answers = stretch bytes offset (buffers.map List.length).sum := by
  induction buffers generalizing offset with
  | nil => exact ⟨[], rfl, rfl, List.take_zero.symm⟩
  | cons buffer rest ih =>
    obtain ⟨more, hmore, hlength, hpieces⟩ :=
      ih (offset + (stretch bytes offset buffer.length).length)
    rw [readOn_cons h, hmore]
    refine ⟨_, rfl, congrArg Nat.succ hlength, ?_⟩
    rw [List.map_cons, List.sum_cons, stretch_add, ← hpieces, pieces, pieces, List.map_cons,
      List.flatten_cons, take_overwrite]

/-- An empty answer to a buffer with room comes at the end of the image only: the buffers have
room for all that there is. -/
theorem length_le_of_empty (h : g.content? n = some (.image bytes)) {offset : Nat}
    {buffers : List (List UInt8)} {answers : List (Nat × List UInt8)}
    (hread : g.readOn n offset buffers = .ok answers) (hroom : ∀ buffer ∈ buffers, buffer ≠ [])
    (hempty : ∃ answer ∈ answers, answer.1 = 0) :
    bytes.length ≤ offset + (buffers.map List.length).sum := by
  induction buffers generalizing offset answers with
  | nil =>
    obtain ⟨answer, hanswer, _⟩ := hempty
    obtain rfl := Except.ok.inj hread
    exact absurd hanswer List.not_mem_nil
  | cons buffer rest ih =>
    obtain ⟨more, hmore, _⟩ :=
      pieces_readOn h (offset + (stretch bytes offset buffer.length).length) rest
    rw [readOn_cons h, hmore] at hread
    obtain rfl := Except.ok.inj hread
    have hbuffer := List.length_pos_iff.2 (hroom buffer List.mem_cons_self)
    have hcount := length_stretch bytes offset buffer.length
    rw [List.map_cons, List.sum_cons]
    obtain ⟨answer, hanswer, hzero⟩ := hempty
    rcases List.mem_cons.1 hanswer with rfl | hlater
    · dsimp only at hzero
      omega
    · have := ih hmore (fun b hb => hroom b (List.mem_cons_of_mem _ hb)) ⟨answer, hlater, hzero⟩
      omega

/-- **Reading a device over an image.**  A read from any offset into any buffer succeeds: it fills
the front of the buffer with what the image has there, as much as there is and as the buffer has
room for, and leaves the rest of the buffer alone; a buffer with room comes back without a byte
exactly from the end of the image on.  Reading into two buffers in a row is reading into the one
and then, from where that stopped, into the other.  Reading on from the front through any buffers
succeeds as well; the pieces together are the beginning of the image, and all of it once one of the
buffers, each with room, came back without a byte. -/
theorem read_image_reassembles (h : g.content? n = some (.image bytes)) :
    (∀ offset buffer, ∃ count after, g.read n offset buffer = .ok (count, after) ∧
      count = min buffer.length (bytes.length - offset) ∧
      after.length = buffer.length ∧
      after.take count = (bytes.drop offset).take count ∧
      after.drop count = buffer.drop count ∧
      (buffer ≠ [] → (count = 0 ↔ bytes.length ≤ offset))) ∧
    (∀ offset first second, ∃ count₁ after₁ count₂ after₂,
      g.read n offset first = .ok (count₁, after₁) ∧
      g.read n (offset + count₁) second = .ok (count₂, after₂) ∧
      g.read n offset (first ++ second) = .ok (count₁ + count₂, after₁ ++ after₂)) ∧
    (∀ buffers, ∃ answers, g.readOn n 0 buffers = .ok answers ∧
      answers.length = buffers.length ∧
      pieces answers <+: bytes ∧
      ((∀ buffer ∈ buffers, buffer ≠ []) → (∃ answer ∈ answers, answer.1 = 0) →
        pieces answers = bytes)) := by
  refine ⟨fun offset buffer => ?_, fun offset first second => ?_, fun buffers => ?_⟩
  · have hcount := length_stretch bytes offset buffer.length
    have hfits : (stretch bytes offset buffer.length).length ≤ buffer.length := by omega
    refine ⟨_, _, read_image h offset buffer, hcount, length_overwrite hfits, ?_,
      drop_overwrite _ _, fun hroom => ?_⟩
    · rw [take_overwrite]
      exact List.prefix_iff_eq_take.1 (List.take_prefix ..)
    · have := List.length_pos_iff.2 hroom
      omega
  · refine ⟨_, _, _, _, read_image h offset first, read_image h _ second, ?_⟩
    have hcount := length_stretch bytes offset first.length
    have hmore := length_stretch bytes (offset + (stretch bytes offset first.length).length)
      second.length
    rw [read_image h, List.length_append, stretch_add, List.length_append,
      overwrite_append (by omega)]
    rw [← List.length_eq_zero_iff]
    omega
  · obtain ⟨answers, hread, hlength, hpieces⟩ := pieces_readOn h 0 buffers
    refine ⟨answers, hread, hlength, ?_, fun hroom hempty => ?_⟩
    · rw [hpieces]
      exact stretch_zero_isPrefix ..
    · have hall := length_le_of_empty h hread hroom hempty
      rw [hpieces, stretch, List.drop_zero, List.take_of_length_le (by omega)]

end Graph

/-! ### An example -/

namespace ImageExample

/-- A device over an image of three bytes. -/
def device : Graph := Graph.empty.push (.newImage "disk0" [7, 8, 9])

/-- The device is the first node. -/
def disk : NodeId := Graph.empty.fresh

/-- Two buffers with room for two bytes each and then one with room for one: the second comes back
half full, the third as it was, and the pieces are the image. -/
theorem pieces_of_disk :
    device.readOn disk 0 [[0, 0], [0, 0], [5]] = .ok [(2, [7, 8]), (1, [9, 0]), (0, [5])] ∧
    Graph.pieces [(2, [7, 8]), (1, [9, 0]), (0, [5])] = [7, 8, 9] := by
  have hdisk : device.content? disk = some (.image [7, 8, 9]) := rfl
  obtain ⟨answers, hread, _, _, hwhole⟩ :=
    (Graph.read_image_reassembles hdisk).2.2 [[0, 0], [0, 0], [5]]
  obtain rfl : [(2, [7, 8]), (1, [9, 0]), (0, [5])] = answers := Except.ok.inj hread
  exact ⟨hread, hwhole (by decide) ⟨(0, [5]), by decide, rfl⟩⟩

end ImageExample

end VolumeService
