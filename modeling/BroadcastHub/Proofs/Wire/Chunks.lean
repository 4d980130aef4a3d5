import BroadcastHub.Proofs.Wire.Arrival

/-!
# Octets in chunks

A client's octets arrive in chunks, and each chunk is read to its end before
the next one is looked at.  `feed_eq` says that this comes to the same as
reading everything at once, except that a fault leaves the later chunks
unseen.  So it makes no difference where a stream is cut.
-/

namespace BroadcastHub.Wire.Decoder

/-- What chunks come to that arrive one after the other.  Each is read to its
end, behind what those before have left; the first fault ends everything. -/
def feed (decoder : Decoder) (buffer : Octets) : List Octets → Drained
  | [] => ⟨[], none, decoder, buffer⟩
  | chunk :: chunks =>
      let drained := decoder.drain (buffer ++ chunk)
      match drained.fault with
      | some _ => drained
      | none =>
          let later := drained.decoder.feed drained.rest chunks
          { later with frames := drained.frames ++ later.frames }

/-- A decoder that has come to the end of what is there finds nothing more in
what it has left. -/
theorem drain_rest
    (decoder : Decoder) (buffer : Octets)
    (sound : (decoder.drain buffer).fault = none) :
    (decoder.drain buffer).decoder.drain (decoder.drain buffer).rest =
      ⟨[], none, (decoder.drain buffer).decoder,
        (decoder.drain buffer).rest⟩ := by
  fun_induction drain decoder buffer with
  | case1 decoder buffer after rest step =>
      exact drain_of_nothing (next_of_nothing step)
  | case2 decoder buffer fault after rest step => cases sound
  | case3 decoder buffer frame after rest step drained induction =>
      exact induction sound

/-- Chunks come to the same as all their octets at once.  Only a fault keeps
the later ones from being looked at. -/
theorem feed_eq
    {decoder : Decoder} {buffer : Octets} (chunks : List Octets)
    (idle : decoder.drain buffer = ⟨[], none, decoder, buffer⟩) :
    ∃ unseen, decoder.drain (buffer ++ chunks.flatten) =
        { decoder.feed buffer chunks with
          rest := (decoder.feed buffer chunks).rest ++ unseen } ∧
      ((decoder.feed buffer chunks).fault = none → unseen = []) := by
  induction chunks generalizing decoder buffer with
  | nil =>
      refine ⟨[], ?_, fun _ => rfl⟩
      rw [List.flatten_nil, List.append_nil, idle, feed, List.append_nil]
  | cons chunk chunks induction =>
      rw [List.flatten_cons, ← List.append_assoc, drain_append, Drained.goOn]
      have calm := drain_rest decoder (buffer ++ chunk)
      unfold feed
      cases broken : (decoder.drain (buffer ++ chunk)).fault with
      | some fault =>
          refine ⟨chunks.flatten, ?_, ?_⟩
          · simp only [broken]
          · intro sound
            simp only [broken] at sound
            cases sound
      | none =>
          obtain ⟨unseen, whole, seen⟩ := induction (calm broken)
          refine ⟨unseen, ?_, ?_⟩
          · simp only [broken, whole]
          · simp only [broken]
            exact seen

theorem drain_fresh_nil (limit : Nat) :
    (fresh limit).drain [] = ⟨[], none, fresh limit, []⟩ :=
  drain_of_nothing (next_of_incomplete rfl)

/-- However a stream is cut into chunks, the same frames are found in it and
the same fault, and the same message misses fragments in the end.  Without a
fault also the same octets are left over. -/
theorem feed_of_flatten_eq
    {chunks others : List Octets} (same : chunks.flatten = others.flatten)
    (limit : Nat) :
    ((fresh limit).feed [] chunks).frames =
      ((fresh limit).feed [] others).frames ∧
    ((fresh limit).feed [] chunks).fault =
      ((fresh limit).feed [] others).fault ∧
    ((fresh limit).feed [] chunks).decoder =
      ((fresh limit).feed [] others).decoder ∧
    (((fresh limit).feed [] chunks).fault = none →
      ((fresh limit).feed [] chunks).rest =
        ((fresh limit).feed [] others).rest) := by
  obtain ⟨unseen, whole, seen⟩ := feed_eq chunks (drain_fresh_nil limit)
  obtain ⟨unseenToo, wholeToo, seenToo⟩ :=
    feed_eq others (drain_fresh_nil limit)
  rw [same, wholeToo] at whole
  injection whole with frames fault decoder rest
  refine ⟨frames.symm, fault.symm, decoder.symm, fun sound => ?_⟩
  rw [seen sound, seenToo (fault.trans sound), List.append_nil,
    List.append_nil] at rest
  exact rest.symm

/-- A text in two fragments, cut inside a header, inside a mask and inside a
character, with empty chunks. -/
def cutCharacter : List Octets :=
  [[0x01], [0x81, 0x0A], [], [0x0B, 0, 0, 0xC9], [0x80, 0x81, 0, 0, 0],
    [0, 0xA9], []]

theorem feed_cutCharacter :
    cutCharacter.flatten = [cutCharacter.flatten].flatten ∧
    ((fresh 2).feed [] cutCharacter).frames =
      ((fresh 2).feed [] [cutCharacter.flatten]).frames ∧
    ((fresh 2).feed [] cutCharacter).fault =
      ((fresh 2).feed [] [cutCharacter.flatten]).fault ∧
    ((fresh 2).feed [] cutCharacter).decoder =
      ((fresh 2).feed [] [cutCharacter.flatten]).decoder := by
  have same : cutCharacter.flatten = [cutCharacter.flatten].flatten := by decide
  obtain ⟨frames, fault, decoder, -⟩ := feed_of_flatten_eq same 2
  exact ⟨same, frames, fault, decoder⟩

end BroadcastHub.Wire.Decoder
