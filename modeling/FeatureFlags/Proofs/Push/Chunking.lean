import FeatureFlags.Push.Framing
import FeatureFlags.Proofs.Cache.Holding

/-!
# Framing a push stream does not depend on its chunks

A framer is fed a stream in chunks cut anywhere: inside a line ending, inside a UTF-8
character, between the two bytes of a blank line. It keeps the unfinished line in a buffer
and searches it for line endings after every chunk. What it sends is nonetheless what the
whole stream gives when framed at once (`Framer.frame`): the stream cut into lines in one
pass (`Framer.cutLines`), each line read in turn, and the unfinished rest kept.

The argument follows the stream. Cutting `s ++ c` into lines cuts `s`, then goes on from
what `s` leaves unfinished followed by `c` (`cutLines_append`): a line that `s` completes
never depends on the bytes after it, as a carriage return at the end of `s` waits. The
framer's search for the first line ending agrees with the cut (`cutLinesFrom_eq_splitLine`),
so one push reads the lines that its chunk completes, and by induction the pushes of all
chunks read the lines of the whole stream. Reading a line never looks at the buffer
(`processLine_withPending`), which is why the buffer the framer holds between lines does
not matter.

* `Framer.takeLines_eq`: the fuel of a push is enough to read every complete line;
* `Framer.push_frame`: a push after a prefix of the stream is the framing of the longer
  prefix;
* `Framer.answerAll_push_eq_frame`: pushing the chunks of a stream in turn, when no push
  fails, sends the events of the whole stream and leaves the framer that framing leaves.
-/

namespace FeatureFlags

namespace Framer

/-! ### The stream cut into lines in one pass -/

/-- Cuts bytes into complete lines, without their endings, and the unfinished rest;
    `line` holds the bytes of the current line so far. A line ends at a line feed, at a
    carriage return and line feed, or at a carriage return followed by another byte; a
    carriage return at the very end waits for the byte after it. -/
def cutLinesFrom (line : List UInt8) : List UInt8 → List (List UInt8) × List UInt8
  | [] => ([], line)
  | b :: rest =>
    if b = 10 then (line :: (cutLinesFrom [] rest).1, (cutLinesFrom [] rest).2)
    else if b = 13 then
      match rest with
      | [] => ([], line ++ [13])
      | c :: after =>
        if c = 10 then (line :: (cutLinesFrom [] after).1, (cutLinesFrom [] after).2)
        else (line :: (cutLinesFrom [] (c :: after)).1, (cutLinesFrom [] (c :: after)).2)
    else cutLinesFrom (line ++ [b]) rest
termination_by s => s.length

@[simp] theorem cutLinesFrom_nil (line : List UInt8) : cutLinesFrom line [] = ([], line) := by
  rw [cutLinesFrom]

theorem cutLinesFrom_lf (line rest : List UInt8) :
    cutLinesFrom line (10 :: rest) =
      (line :: (cutLinesFrom [] rest).1, (cutLinesFrom [] rest).2) := by
  conv => lhs; rw [cutLinesFrom.eq_def]
  simp

theorem cutLinesFrom_cr_last (line : List UInt8) : cutLinesFrom line [13] = ([], line ++ [13]) := by
  rw [cutLinesFrom.eq_def]
  simp

theorem cutLinesFrom_crlf (line after : List UInt8) :
    cutLinesFrom line (13 :: 10 :: after) =
      (line :: (cutLinesFrom [] after).1, (cutLinesFrom [] after).2) := by
  rw [cutLinesFrom.eq_def]
  simp

theorem cutLinesFrom_cr {c : UInt8} (hc : c ≠ 10) (line after : List UInt8) :
    cutLinesFrom line (13 :: c :: after) =
      (line :: (cutLinesFrom [] (c :: after)).1, (cutLinesFrom [] (c :: after)).2) := by
  rw [cutLinesFrom]
  simp [hc]

theorem cutLinesFrom_byte {b : UInt8} (h10 : b ≠ 10) (h13 : b ≠ 13) (line rest : List UInt8) :
    cutLinesFrom line (b :: rest) = cutLinesFrom (line ++ [b]) rest := by
  conv => lhs; rw [cutLinesFrom.eq_def]
  simp [h10, h13]

/-- The complete lines of a stream and its unfinished rest. -/
def cutLines (s : List UInt8) : List (List UInt8) × List UInt8 := cutLinesFrom [] s

/-- Reads lines in turn, each decoded as UTF-8 with replacement: the framer after them and
    the events sent. -/
def readLines (f : Framer) : List (List UInt8) → Framer × List PushEvent
  | [] => (f, [])
  | line :: lines =>
    let read := f.processLine (Utf8.decodeLossy line)
    ((read.1.readLines lines).1, read.2.toList ++ (read.1.readLines lines).2)

/-- The framing of a whole stream at once: its complete lines read in turn by a new framer,
    which keeps the unfinished rest. -/
def frame (s : List UInt8) : Framer × List PushEvent :=
  ({ pending := (cutLines s).2 } : Framer).readLines (cutLines s).1

/-- Bytes that can stand inside a line: no line feed and no carriage return. -/
def InLine (line : List UInt8) : Prop := ∀ b ∈ line, b ≠ 10 ∧ b ≠ 13

theorem inLine_append_singleton {line : List UInt8} (h : InLine line) {b : UInt8}
    (h10 : b ≠ 10) (h13 : b ≠ 13) : InLine (line ++ [b]) := by
  intro x hx
  rcases List.mem_append.1 hx with hx | hx
  · exact h x hx
  · rw [List.mem_singleton.1 hx]
    exact ⟨h10, h13⟩

/-- Bytes inside a line can be read into the current line first. -/
theorem cutLinesFrom_append_of_inLine (pre : List UInt8) {line : List UInt8} (h : InLine line)
    (s : List UInt8) : cutLinesFrom pre (line ++ s) = cutLinesFrom (pre ++ line) s := by
  induction line generalizing pre with
  | nil => simp
  | cons b line ih =>
    obtain ⟨h10, h13⟩ := h b List.mem_cons_self
    rw [List.cons_append, cutLinesFrom_byte h10 h13,
      ih (pre ++ [b]) fun x hx => h x (List.mem_cons_of_mem b hx), List.append_assoc,
      List.singleton_append]

/-- Cutting a longer stream cuts the shorter one, then goes on from what it leaves
    unfinished followed by the rest: a line the shorter stream completes does not depend
    on what follows it. -/
theorem cutLinesFrom_append (line : List UInt8) (h : InLine line) (s c : List UInt8) :
    cutLinesFrom line (s ++ c) =
      ((cutLinesFrom line s).1 ++ (cutLines ((cutLinesFrom line s).2 ++ c)).1,
        (cutLines ((cutLinesFrom line s).2 ++ c)).2) := by
  fun_induction cutLinesFrom line s with
  | case1 line =>
    -- Nothing complete: the current line is read again from the start.
    simp [cutLines, cutLinesFrom_append_of_inLine [] h c]
  | case2 line rest ih =>
    rw [List.cons_append, cutLinesFrom_lf, ih fun _ hx => absurd hx List.not_mem_nil]
    rfl
  | case3 line =>
    -- A carriage return at the end waited; it is read again with what follows.
    simp [cutLines, List.append_assoc, cutLinesFrom_append_of_inLine [] h]
  | case4 line after _ ih =>
    rw [List.cons_append, List.cons_append, cutLinesFrom_crlf,
      ih fun _ hx => absurd hx List.not_mem_nil]
    rfl
  | case5 line c' after hc _ ih =>
    rw [List.cons_append, List.cons_append, cutLinesFrom_cr hc, ← List.cons_append,
      ih fun _ hx => absurd hx List.not_mem_nil]
    rfl
  | case6 line b rest h10 h13 ih =>
    rw [List.cons_append, cutLinesFrom_byte h10 h13, ih (inLine_append_singleton h h10 h13)]

theorem cutLines_append (s c : List UInt8) :
    cutLines (s ++ c) =
      ((cutLines s).1 ++ (cutLines ((cutLines s).2 ++ c)).1,
        (cutLines ((cutLines s).2 ++ c)).2) :=
  cutLinesFrom_append [] (fun _ hx => absurd hx List.not_mem_nil) s c

/-! ### The framer's search for a line ending -/

/-- The framer's search for the first line ending cuts as the one pass does: when it finds
    a line, the pass gives that line and then cuts what follows it; when it finds none, no
    line is complete. -/
theorem cutLinesFrom_eq_splitLine (p acc : List UInt8) :
    cutLinesFrom acc.reverse p =
      match splitLine p acc with
      | none => ([], acc.reverse ++ p)
      | some (line, rest) => (line :: (cutLines rest).1, (cutLines rest).2) := by
  fun_induction splitLine p acc with
  | case1 acc => simp
  | case2 rest acc => simp [cutLinesFrom_lf, cutLines]
  | case3 acc => simp [cutLinesFrom_cr_last]
  | case4 after acc => simp [cutLinesFrom_crlf, cutLines]
  | case5 c after acc hc => simp [cutLinesFrom_cr hc, cutLines]
  | case6 b rest acc h10 h13 ih =>
    rw [cutLinesFrom_byte h10 h13, ← List.reverse_cons, ih]
    simp

/-- A line that the search finds takes at least one byte. -/
theorem length_lt_of_splitLine {p acc line rest : List UInt8}
    (h : splitLine p acc = some (line, rest)) : rest.length < p.length := by
  fun_induction splitLine p acc generalizing line rest with
  | case1 => cases h
  | case2 =>
    obtain ⟨-, rfl⟩ := Prod.mk.inj (Option.some.inj h)
    simp
  | case3 => cases h
  | case4 =>
    obtain ⟨-, rfl⟩ := Prod.mk.inj (Option.some.inj h)
    simp only [List.length_cons]
    omega
  | case5 =>
    obtain ⟨-, rfl⟩ := Prod.mk.inj (Option.some.inj h)
    simp
  | case6 _ _ _ _ _ ih => exact Nat.lt_succ_of_lt (ih h)

/-! ### Reading lines never looks at the buffer -/

/-- Reading a line does not look at the buffer of the unfinished line, and keeps it. -/
theorem processLine_withPending (f : Framer) (q : List UInt8) (line : String) :
    ({ f with pending := q } : Framer).processLine line =
      ({ (f.processLine line).1 with pending := q }, (f.processLine line).2) := by
  unfold processLine dispatch
  split
  · split <;> rfl
  · rfl
  · dsimp only
    repeat' split
    all_goals rfl

/-- Reading a line keeps the buffer: `{ f with pending := f.pending }` is `f`. -/
theorem pending_processLine (f : Framer) (line : String) :
    (f.processLine line).1.pending = f.pending :=
  congrArg (·.1.pending) (processLine_withPending f f.pending line)

theorem readLines_withPending (f : Framer) (q : List UInt8) (lines : List (List UInt8)) :
    ({ f with pending := q } : Framer).readLines lines =
      ({ (f.readLines lines).1 with pending := q }, (f.readLines lines).2) := by
  induction lines generalizing f with
  | nil => rfl
  | cons line lines ih =>
    simp only [readLines, processLine_withPending, ih]

theorem pending_readLines (f : Framer) (lines : List (List UInt8)) :
    (f.readLines lines).1.pending = f.pending :=
  congrArg (·.1.pending) (readLines_withPending f f.pending lines)

theorem readLines_append (f : Framer) (lines more : List (List UInt8)) :
    f.readLines (lines ++ more) =
      (((f.readLines lines).1.readLines more).1,
        (f.readLines lines).2 ++ ((f.readLines lines).1.readLines more).2) := by
  induction lines generalizing f with
  | nil => rfl
  | cons line lines ih => simp only [List.cons_append, readLines, ih, List.append_assoc]

/-! ### One push -/

/-- With fuel beyond the length of the buffer, the framer reads every complete line of its
    buffer and keeps the unfinished rest. -/
theorem takeLines_eq (fuel : Nat) (f : Framer) (acc : List PushEvent)
    (hfuel : f.pending.length < fuel) :
    takeLines fuel f acc =
      ({ (f.readLines (cutLines f.pending).1).1 with pending := (cutLines f.pending).2 },
        acc.reverse ++ (f.readLines (cutLines f.pending).1).2) := by
  induction fuel generalizing f acc with
  | zero => omega
  | succ fuel ih =>
    have hcut := cutLinesFrom_eq_splitLine f.pending []
    rw [takeLines]
    split
    · -- No complete line: the buffer stays as it is.
      rename_i hnone
      simp only [hnone, List.reverse_nil, List.nil_append] at hcut
      simp only [cutLines, hcut, readLines, List.append_nil]
    · rename_i line rest hsome
      simp only [hsome, List.reverse_nil] at hcut
      have hlen : rest.length < fuel := by
        have := length_lt_of_splitLine hsome
        omega
      -- The line is read with the rest of the buffer kept, then the rest is read.
      rcases hread : ({ f with pending := rest } : Framer).processLine (Utf8.decodeLossy line) with
        ⟨g, sent⟩
      rw [processLine_withPending] at hread
      obtain ⟨rfl, rfl⟩ := Prod.mk.inj hread
      dsimp only
      rw [ih _ _ hlen, show cutLines f.pending = _ from hcut]
      simp only [readLines, readLines_withPending]
      cases (f.processLine (Utf8.decodeLossy line)).2 <;> simp

/-- A new framer is the framing of the empty stream. -/
theorem frame_nil : frame [] = ({}, []) := by
  simp [frame, cutLines, readLines]

theorem pending_frame (s : List UInt8) : (frame s).1.pending = (cutLines s).2 :=
  pending_readLines _ _

/-- One push reads the complete lines of the buffer followed by the chunk, and keeps what
    is left unfinished, unless that is too long. -/
theorem push_eq (f : Framer) (c : List UInt8) :
    f.push c =
      if (cutLines (f.pending ++ c)).2.length > maxLine then
        (.error ⟨(cutLines (f.pending ++ c)).2.length⟩, {})
      else
        (.ok (f.readLines (cutLines (f.pending ++ c)).1).2,
          { (f.readLines (cutLines (f.pending ++ c)).1).1 with
            pending := (cutLines (f.pending ++ c)).2 }) := by
  unfold push
  simp only [takeLines_eq ((f.pending ++ c).length + 1) { f with pending := f.pending ++ c } []
    (Nat.lt_add_one _), readLines_withPending, List.reverse_nil, List.nil_append]

/-- A push after a prefix of the stream is the framing of the longer prefix: it sends the
    events that the framing of the longer prefix adds, unless the line it leaves unfinished
    is too long. -/
theorem push_frame (s c : List UInt8) :
    ∃ sent, (frame (s ++ c)).2 = (frame s).2 ++ sent ∧
      (frame s).1.push c =
        if (frame (s ++ c)).1.pending.length > maxLine then
          (.error ⟨(frame (s ++ c)).1.pending.length⟩, {})
        else (.ok sent, (frame (s ++ c)).1) := by
  -- The lines of `s` and what it leaves unfinished, then the lines that this and the chunk
  -- complete, and what they leave.
  obtain ⟨lines, rest, hs⟩ : ∃ lines rest, cutLines s = (lines, rest) := ⟨_, _, rfl⟩
  obtain ⟨more, rest', hmore⟩ : ∃ more rest', cutLines (rest ++ c) = (more, rest') :=
    ⟨_, _, rfl⟩
  have hsc : cutLines (s ++ c) = (lines ++ more, rest') := by
    rw [cutLines_append, hs]
    simp [hmore]
  have hframe : frame s = ({ pending := rest } : Framer).readLines lines := by
    simp only [frame, hs]
  -- The new framer of the longer stream differs only in the rest it keeps.
  have hstart : ({ pending := rest' } : Framer).readLines lines =
      ({ (({ pending := rest } : Framer).readLines lines).1 with pending := rest' },
        (({ pending := rest } : Framer).readLines lines).2) :=
    readLines_withPending { pending := rest } rest' lines
  have hframe' : frame (s ++ c) =
      ({ ((frame s).1.readLines more).1 with pending := rest' },
        (frame s).2 ++ ((frame s).1.readLines more).2) := by
    rw [hframe]
    simp only [frame, hsc, readLines_append, hstart, readLines_withPending]
  refine ⟨((frame s).1.readLines more).2, by rw [hframe'], ?_⟩
  have hbuffer : (frame s).1.pending ++ c = rest ++ c := by
    rw [pending_frame, hs]
  rw [hframe', push_eq, hbuffer, hmore]

/-! ### Every run of pushes -/

/-- Pushes after a prefix of the stream, none of them failing, send what the framing of
    the longer stream adds and leave the framer that framing leaves. -/
theorem answerAll_push_frame (s : List UInt8) (chunks : List (List UInt8))
    (sent : List (List PushEvent)) (hok : (answerAll push (frame s).1 chunks).1 = sent.map .ok) :
    (frame (s ++ chunks.flatten)).2 = (frame s).2 ++ sent.flatten ∧
      (answerAll push (frame s).1 chunks).2 = (frame (s ++ chunks.flatten)).1 := by
  induction chunks generalizing s sent with
  | nil =>
    cases sent with
    | nil => simp [answerAll]
    | cons _ _ => cases hok
  | cons c chunks ih =>
    obtain ⟨here, hmore, hpush⟩ := push_frame s c
    cases sent with
    | nil => cases hok
    | cons first sent =>
      simp only [answerAll, List.map_cons, List.cons.injEq] at hok
      -- The push did not fail, so it sent `here` and left the framing of `s ++ c`.
      by_cases hlong : (frame (s ++ c)).1.pending.length > maxLine
      · rw [hpush, if_pos hlong] at hok
        cases hok.1
      · rw [hpush, if_neg hlong] at hok
        simp only [Except.ok.injEq] at hok
        obtain ⟨rfl, hrest⟩ := hok
        have hnext := ih (s ++ c) sent hrest
        simp only [List.append_assoc] at hnext
        refine ⟨?_, ?_⟩
        · rw [List.flatten_cons, hnext.1, hmore, List.flatten_cons, List.append_assoc]
        · simp only [answerAll, hpush, hlong, if_false, List.flatten_cons]
          exact hnext.2

/-- Framing does not depend on how the stream is cut: pushing the chunks of a stream in
    turn into a new framer, when no push fails, sends the events of the whole stream framed
    at once, and leaves the framer that framing leaves. -/
theorem answerAll_push_eq_frame (chunks : List (List UInt8)) (sent : List (List PushEvent))
    (hok : (answerAll push {} chunks).1 = sent.map .ok) :
    sent.flatten = (frame chunks.flatten).2 ∧
      (answerAll push {} chunks).2 = (frame chunks.flatten).1 := by
  have hnew : (frame []).1 = {} ∧ (frame []).2 = [] := by
    rw [frame_nil]
    exact ⟨rfl, rfl⟩
  have h := answerAll_push_frame [] chunks sent (by rw [hnew.1]; exact hok)
  rw [List.nil_append, hnew.1, hnew.2, List.nil_append] at h
  exact ⟨h.1.symm, h.2⟩

/-- A data line whose line ending is cut between its carriage return and its line feed,
    then a blank line: no push fails, and the event comes whole with the second chunk. -/
theorem answerAll_push_eq_frame_splitCrlf :
    let chunks := [Utf8.encode "data: 1\r", Utf8.encode "\n\r\n"]
    let sent : List (List PushEvent) := [[], [⟨none, "1", none, none⟩]]
    (answerAll push {} chunks).1 = sent.map .ok ∧
      (sent.flatten = (frame chunks.flatten).2 ∧
        (answerAll push {} chunks).2 = (frame chunks.flatten).1) :=
  have hok : (answerAll push {} [Utf8.encode "data: 1\r", Utf8.encode "\n\r\n"]).1 =
      [[], [⟨none, "1", none, none⟩]].map .ok := by
    rfl
  ⟨hok, answerAll_push_eq_frame _ _ hok⟩

end Framer

end FeatureFlags
