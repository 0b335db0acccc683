import Mathlib
import FeatureFlags.Proofs.Push.Chunking

/-!
# The limit on an unfinished line

A push fails when, after the lines its chunk completes, more than 65536 bytes are left
over. What is left over is the line still open (`Framer.openLine`), followed by a carriage
return when the bytes end in one, which waits for the next byte to tell whether a line feed
follows (`Framer.crWaits`): a line that such a carriage return has ended counts as open, and
the carriage return counts towards it. A push that fails starts the framer over, and sends
nothing, not even the events its chunk completed before the open line.

* `Framer.cutLines_snd`: what is left after the complete lines is the open line, then the
  waiting carriage return if there is one;
* `Framer.push_fails_iff_open_line_long`: a push fails exactly when the open line, with a
  waiting carriage return, is longer than 65536 bytes; it then starts the framer over, and
  otherwise sends every event the lines of its chunk complete;
* `Framer.push_pending_bounded`: whatever a push returns, the framer keeps at most 65536
  bytes, no line feed among them and a carriage return only at the end;
* `Framer.push_rejects_complete_line_and_drops_events`: a line of 65536 bytes ended by a
  carriage return at the end of the chunk fails the push, and a chunk that completes an
  event before an open line of 65537 bytes loses that event.
-/

namespace FeatureFlags

namespace Framer

/-! ### The open line -/

/-- Whether the bytes end in a carriage return that waits for the byte after it. -/
def crWaits (s : List UInt8) : Bool := (cutLines s).2.getLast? == some 13

/-- The line still open at the end of some bytes: what follows their last complete line,
    without a carriage return that waits for the byte after it. -/
def openLine (s : List UInt8) : List UInt8 :=
  if crWaits s then (cutLines s).2.dropLast else (cutLines s).2

/-- What cutting into lines leaves unfinished is a line, followed by a carriage return only
    when the bytes end in one; by induction along the cut, whose only case that leaves a
    carriage return is the one at the very end. -/
theorem unfinished_cutLinesFrom (line : List UInt8) (h : InLine line) (s : List UInt8) :
    ∃ l, InLine l ∧ ((cutLinesFrom line s).2 = l ∨ (cutLinesFrom line s).2 = l ++ [13]) := by
  fun_induction cutLinesFrom line s with
  | case1 line => exact ⟨line, h, .inl rfl⟩
  | case2 line rest ih => exact ih fun _ hx => absurd hx List.not_mem_nil
  | case3 line => exact ⟨line, h, .inr rfl⟩
  | case4 line after _ ih => exact ih fun _ hx => absurd hx List.not_mem_nil
  | case5 line c after _ _ ih => exact ih fun _ hx => absurd hx List.not_mem_nil
  | case6 line b rest h10 h13 ih => exact ih (inLine_append_singleton h h10 h13)

/-- What is left after the complete lines is the open line, then the carriage return that
    waits, if there is one. -/
theorem cutLines_snd (s : List UInt8) :
    (cutLines s).2 = openLine s ++ if crWaits s then [13] else [] := by
  unfold openLine
  cases hwait : crWaits s with
  | false => simp
  | true =>
    obtain ⟨ys, hys⟩ := List.getLast?_eq_some_iff.1 (by simpa [crWaits] using hwait)
    simp only [if_true, hys, List.dropLast_concat]

theorem length_cutLines_snd (s : List UInt8) :
    (cutLines s).2.length = (openLine s).length + if crWaits s then 1 else 0 := by
  rw [cutLines_snd]
  cases crWaits s <;> simp

/-- What cutting into lines leaves unfinished holds no line feed, and a carriage return only
    as its last byte. -/
theorem cutLines_snd_shape (s : List UInt8) :
    10 ∉ (cutLines s).2 ∧ 13 ∉ (cutLines s).2.dropLast := by
  obtain ⟨l, hl, hrest | hrest⟩ :=
    unfinished_cutLinesFrom [] (fun _ hx => absurd hx List.not_mem_nil) s
  · rw [cutLines, hrest]
    exact ⟨fun h => (hl 10 h).1 rfl, fun h => (hl 13 (List.dropLast_subset l h)).2 rfl⟩
  · -- The waiting carriage return is the last byte, and the line before it holds none.
    rw [cutLines, hrest, List.dropLast_concat]
    refine ⟨fun h => ?_, fun h => (hl 13 h).2 rfl⟩
    rcases List.mem_append.1 h with h | h
    · exact (hl 10 h).1 rfl
    · simp at h

/-! ### What a push does with a long line -/

/-- A push fails exactly when the line left open, with a carriage return that waits, is
    longer than 65536 bytes. A push that fails starts the framer over; one that does not
    sends every event that the lines its chunk completes send. -/
theorem push_fails_iff_open_line_long (f : Framer) (c : List UInt8) :
    ((∃ e, (f.push c).1 = .error e) ↔
        maxLine < (openLine (f.pending ++ c)).length + if crWaits (f.pending ++ c) then 1 else 0) ∧
      (∀ e, (f.push c).1 = .error e → (f.push c).2 = {}) ∧
      ∀ events, (f.push c).1 = .ok events →
        events = (f.readLines (cutLines (f.pending ++ c)).1).2 := by
  rw [push_eq, ← length_cutLines_snd]
  by_cases hlong : (cutLines (f.pending ++ c)).2.length > maxLine
  · rw [if_pos hlong]
    exact ⟨⟨fun _ => hlong, fun _ => ⟨_, rfl⟩⟩, fun _ _ => rfl, fun _ h => (nomatch h)⟩
  · rw [if_neg hlong]
    refine ⟨⟨fun ⟨_, h⟩ => (nomatch h), fun h => absurd h hlong⟩, fun _ h => (nomatch h), ?_⟩
    intro events h
    cases h
    rfl

/-- After every push, failed or not, the framer keeps at most 65536 bytes of one unfinished
    line: no line feed, and a carriage return only as the last byte, waiting for a line feed.
    A push that fails leaves the framer as new. -/
theorem push_pending_bounded (f : Framer) (c : List UInt8) :
    (f.push c).2.pending.length ≤ maxLine ∧ 10 ∉ (f.push c).2.pending ∧
      13 ∉ (f.push c).2.pending.dropLast ∧
      ∀ e, (f.push c).1 = .error e → (f.push c).2 = {} := by
  rw [push_eq]
  split_ifs with hlong
  · -- A failed push starts over, with nothing pending.
    exact ⟨Nat.zero_le _, List.not_mem_nil, List.not_mem_nil, fun _ _ => rfl⟩
  · -- Otherwise the framer keeps what the cut leaves unfinished, not too long.
    obtain ⟨hlf, hcr⟩ := cutLines_snd_shape (f.pending ++ c)
    exact ⟨Nat.le_of_not_gt hlong, hlf, hcr, fun _ h => nomatch h⟩

/-- Bytes without line endings, however many, are left open. -/
theorem cutLinesFrom_of_inLine (line : List UInt8) {s : List UInt8} (hs : InLine s) :
    cutLinesFrom line s = ([], line ++ s) := by
  rw [← List.append_nil s, cutLinesFrom_append_of_inLine line hs, cutLinesFrom_nil,
    List.append_nil]

theorem inLine_replicate (n : Nat) : InLine (List.replicate n 120) := by
  intro b hb
  rw [List.eq_of_mem_replicate hb]
  decide

/-- A line of 65536 bytes ended by a carriage return at the end of the chunk fails the
    push, though it is complete and not longer than 65536 bytes; and a chunk that completes
    an event and then leaves 65537 bytes open fails it too, so that event is never sent. -/
theorem push_rejects_complete_line_and_drops_events :
    (∃ e, (({} : Framer).push (List.replicate 65536 120 ++ [13])).1 = .error e) ∧
      (openLine (List.replicate 65536 120 ++ [13])).length = 65536 ∧
      (∃ e, (({} : Framer).push (Utf8.encode "data: a\n\n" ++ List.replicate 65537 120)).1 =
        .error e) ∧
      (({} : Framer).readLines
        (cutLines (Utf8.encode "data: a\n\n" ++ List.replicate 65537 120)).1).2 =
        [⟨none, "a", none, none⟩] := by
  have hline := inLine_replicate 65536
  -- The carriage return at the end waits, so the whole chunk is left over.
  have hcr : cutLines (List.replicate 65536 120 ++ [13]) =
      ([], List.replicate 65536 120 ++ [13]) := by
    rw [cutLines, cutLinesFrom_append_of_inLine [] hline, List.nil_append, cutLinesFrom_cr_last]
  -- The chunk completes the lines `data: a` and the blank line, and leaves the rest open.
  have hdata : Utf8.encode "data: a\n\n" = [100, 97, 116, 97, 58, 32, 97] ++ [10, 10] := by
    decide
  have hevent : cutLines (Utf8.encode "data: a\n\n" ++ List.replicate 65537 120) =
      ([[100, 97, 116, 97, 58, 32, 97], []], List.replicate 65537 120) := by
    rw [hdata, cutLines, List.append_assoc,
      cutLinesFrom_append_of_inLine [] (by simp [InLine]), List.nil_append, List.cons_append,
      cutLinesFrom_lf, List.cons_append, List.nil_append, cutLinesFrom_lf,
      cutLinesFrom_of_inLine [] (inLine_replicate 65537)]
    rfl
  have hwait : crWaits (List.replicate 65536 120 ++ [13]) = true := by
    rw [crWaits, hcr, List.getLast?_concat]
    rfl
  have hlong₁ : (cutLines (List.replicate 65536 120 ++ [13])).2.length > maxLine := by
    rw [hcr, List.length_append, List.length_replicate, List.length_singleton]
    decide
  have hlong₂ : (cutLines (Utf8.encode "data: a\n\n" ++ List.replicate 65537 120)).2.length >
      maxLine := by
    rw [hevent, List.length_replicate]
    decide
  refine ⟨?_, ?_, ?_, ?_⟩
  · rw [push_eq, List.nil_append, if_pos hlong₁]
    exact ⟨_, rfl⟩
  · rw [openLine, hwait, if_pos rfl, hcr, List.dropLast_concat, List.length_replicate]
  · rw [push_eq, List.nil_append, if_pos hlong₂]
    exact ⟨_, rfl⟩
  · rw [hevent]
    rfl

end Framer

end FeatureFlags
