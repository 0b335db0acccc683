import Mathlib
import FeatureFlags.Web.Host
import FeatureFlags.Proofs.Web.FormRoundTrip
import FeatureFlags.Proofs.Cache.Canonical

/-!
# Hosts hold no `?`

A `?` ends the authority of a URL and begins its query, so the text of a host may hold
none. Each kind of host is written from characters that are never `?`:

* an IPv4 address is decimal numbers and dots, an IPv6 address hexadecimal numbers, colons
  and brackets;
* a domain in its ASCII form is made of the characters of the domain once mapped, which
  may hold no forbidden character, and for a label that is not ASCII, `xn--` and the
  label's Punycode: its ASCII characters, a hyphen and base-36 digits
  (`Punycode.mem_encode`);
* an opaque host holds no `?` and is percent-encoded, which writes no `?` that the text
  did not hold (`Percent.question_mem_encode`).

Reading a domain splits it into labels at dots; `String.splitOn_singleton` says that splitting a
text at a one-character separator splits its characters there, so a label's characters
are characters of the domain.

* `Host.question_not_mem_text_of_parse`, `Host.question_not_mem_text_of_parseOpaque`: the
  text of every host read from a URL holds no `?`.
-/

/-! ## Splitting at one character -/

namespace String

/-- Splitting at a one-character separator from a state of the loop: `l` is split already
    (its pieces in `acc`), `m` is the piece being read and `r` is left. The recursion is on
    `r`, one character a step, as the loop's is. -/
theorem splitOnAux_singleton (c : Char) :
    ∀ (l m r : List Char) (acc : List String),
      splitOnAux (ofList (l ++ m ++ r)) (String.singleton c) ⟨utf8Len l⟩
          ⟨utf8Len l + utf8Len m⟩ 0 acc =
        acc.reverse ++ (List.splitOnPPrepend (· == c) r m.reverse).map ofList
  | l, m, [], acc => by
    unfold splitOnAux
    simp only [List.append_nil, atEnd_iff, rawEndPos_ofList, utf8Len_append, Pos.Raw.mk_le_mk,
      le_refl, if_true]
    simpa using extract_of_valid l m []
  | l, m, c' :: r, acc => by
    unfold splitOnAux
    have hget : Pos.Raw.get (ofList (l ++ m ++ c' :: r)) ⟨utf8Len l + utf8Len m⟩ = c' := by
      simpa using get_of_valid (l ++ m) (c' :: r)
    have hnext : Pos.Raw.next (ofList (l ++ m ++ c' :: r)) ⟨utf8Len l + utf8Len m⟩ =
        ⟨utf8Len l + utf8Len m + c'.utf8Size⟩ := by
      simpa using next_of_valid (l ++ m) c' r
    have hsep : (0 : Pos.Raw).get (String.singleton c) = c := by
      simpa using get_of_valid [] [c]
    have hsepNext : (0 : Pos.Raw).next (String.singleton c) = ⟨c.utf8Size⟩ := by
      simpa using next_of_valid [] c []
    have hend : ¬ (ofList (l ++ m ++ c' :: r)).rawEndPos ≤ ⟨utf8Len l + utf8Len m⟩ := by
      simp only [rawEndPos_ofList, Pos.Raw.mk_le_mk, utf8Len_append, utf8Len_cons]
      have := c'.utf8Size_pos
      omega
    simp only [atEnd_iff, hend, if_false, hget, hsep, hnext, hsepNext]
    by_cases hc : c' = c
    · -- the separator ends the piece `m`, and a new piece begins after it
      subst hc
      have hsepEnd : (String.singleton c').rawEndPos ≤ ⟨c'.utf8Size⟩ := by simp [Pos.Raw.le_iff]
      have hback : Pos.Raw.unoffsetBy ⟨utf8Len l + utf8Len m + c'.utf8Size⟩ ⟨c'.utf8Size⟩ =
          ⟨utf8Len l + utf8Len m⟩ := by
        simp [Pos.Raw.unoffsetBy]
      have hpiece := extract_of_valid l m (c' :: r)
      have ih := splitOnAux_singleton c' (l ++ m ++ [c']) [] r (ofList m :: acc)
      simp only [List.append_nil, utf8Len_append, utf8Len_cons, utf8Len_nil, List.append_assoc,
        List.cons_append, List.nil_append, Nat.zero_add, Nat.add_zero] at ih hpiece
      simp only [beq_self_eq_true, if_true, hsepEnd, hback, List.append_assoc, hpiece]
      rw [Nat.add_assoc, ih, List.splitOnPPrepend_cons_pos (by simp)]
      simp
    · -- any other character joins the piece
      have hne : (c' == c) = false := by simpa using hc
      have hzero : Pos.Raw.unoffsetBy ⟨utf8Len l + utf8Len m⟩ 0 = ⟨utf8Len l + utf8Len m⟩ := by
        simp [Pos.Raw.unoffsetBy]
      have ih := splitOnAux_singleton c l (m ++ [c']) r acc
      simp only [utf8Len_append, utf8Len_cons, utf8Len_nil, List.append_assoc, List.cons_append,
        List.nil_append, Nat.zero_add] at ih
      simp only [hne, Bool.false_eq_true, if_false, hzero, hnext]
      rw [List.append_assoc, Nat.add_assoc, ih,
        List.splitOnPPrepend_cons_neg (by simpa using hc)]
      simp

/-- Splitting a text at a one-character separator splits its characters there. -/
theorem splitOn_singleton (s : String) (c : Char) :
    s.splitOn (String.singleton c) = (s.toList.splitOn c).map ofList := by
  have h := splitOnAux_singleton c [] [] s.toList []
  simp only [List.nil_append, List.append_nil, utf8Len_nil, Nat.add_zero,
    String.ofList_toList] at h
  rw [splitOn, if_neg (by simp), List.splitOn_eq_splitOnP]
  simpa using h

end String

namespace FeatureFlags

/-! ## Lists -/

theorem List.mem_intercalate_of_mem {α : Type} {x : α} {sep l : List α} :
    ∀ {xs : List (List α)}, l ∈ xs → x ∈ l → x ∈ sep.intercalate xs
  | [], hl, _ => by simp at hl
  | [m], hl, hx => by
    rw [List.mem_singleton] at hl
    subst hl
    simpa using hx
  | m :: m' :: xs, hl, hx => by
    rw [List.intercalate_cons_cons]
    rcases List.mem_cons.1 hl with rfl | hl
    · simp [hx]
    · exact List.mem_append_right _ (List.mem_intercalate_of_mem hl hx)

theorem List.mem_of_mem_splitOn {α : Type} [BEq α] [LawfulBEq α] {c x : α} {xs l : List α}
    (hl : l ∈ xs.splitOn c) (hx : x ∈ l) : x ∈ xs := by
  have hjoin : [c].intercalate (xs.splitOn c) = xs := List.intercalate_splitOn c
  rw [← hjoin]
  exact List.mem_intercalate_of_mem hl hx

theorem List.exists_of_mapM_eq_ok {ε α β : Type} {f : α → Except ε β} :
    ∀ {xs : List α} {ys : List β}, xs.mapM f = .ok ys → ∀ y ∈ ys, ∃ x ∈ xs, f x = .ok y
  | [], ys, h, y, hy => by
    simp only [List.mapM_nil, pure, Except.pure, Except.ok.injEq] at h
    subst h
    simp at hy
  | x :: xs, ys, h, y, hy => by
    rw [List.mapM_cons] at h
    obtain ⟨b, hb, h⟩ := Except.bind_eq_ok.1 h
    obtain ⟨bs, hbs, h⟩ := Except.bind_eq_ok.1 h
    simp only [pure, Except.pure, Except.ok.injEq] at h
    subst h
    rcases List.mem_cons.1 hy with rfl | hy
    · exact ⟨x, List.mem_cons_self, hb⟩
    · obtain ⟨x', hx', hf⟩ := List.exists_of_mapM_eq_ok hbs y hy
      exact ⟨x', List.mem_cons_of_mem _ hx', hf⟩

/-! ## Percent encoding -/

namespace Percent

/-- A `?` in a percent-encoded text is a `?` of the text, left as it is by a set that does
    not encode it. -/
theorem question_mem_encodeChar {set : EncodeSet} {c : Char} (h : '?' ∈ encodeChar set c) :
    c = '?' ∧ set 63 = false := by
  have h63 : '?'.toNat = 63 := rfl
  unfold encodeChar at h
  split_ifs at h with hc
  · simp only [List.mem_singleton] at h
    subst h
    simp only [Bool.and_eq_true, decide_eq_true_eq, Bool.not_eq_true'] at hc
    exact ⟨rfl, hc.2⟩
  · obtain ⟨b, hb, hq⟩ := List.mem_flatMap.1 h
    split_ifs at hq with hs
    · -- an escape is `%` and two digits
      have hhi := toNat_upperDigit (show b.toNat / 16 < 16 by have := b.toNat_lt; omega)
      have hlo := toNat_upperDigit (show b.toNat % 16 < 16 by omega)
      simp only [escape, List.mem_cons, List.not_mem_nil, or_false] at hq
      rcases hq with hq | hq | hq
      · cases hq
      · exact absurd (congrArg Char.toNat hq) (by omega)
      · exact absurd (congrArg Char.toNat hq) (by omega)
    · -- a byte left as it is: of an ASCII character that the set leaves, or of no `?`
      simp only [List.mem_singleton] at hq
      have hb63 : b.toNat = 63 := by
        have hv : (Char.ofNat b.toNat).toNat = b.toNat :=
          Utf8.toNat_ofNat_of_valid (by have := b.toNat_lt; omega)
        have := congrArg Char.toNat hq
        omega
      by_cases hasc : c.toNat < 128
      · have hbc : b = c.toNat.toUInt8 := by
          simpa [Utf8.encodeChar, hasc] using hb
        subst hbc
        simp only [Bool.and_eq_true, decide_eq_true_eq, Bool.not_eq_true', not_and,
          Bool.not_eq_false] at hc
        exact absurd (hc hasc) hs
      · exact absurd (Utf8.le_toNat_of_mem_encodeChar (by omega) hb) (by omega)

theorem question_mem_encode {set : EncodeSet} {s : String} (h : '?' ∈ (encode set s).toList) :
    '?' ∈ s.toList ∧ set 63 = false := by
  rw [encode, String.toList_ofList] at h
  obtain ⟨c, hc, hq⟩ := List.mem_flatMap.1 h
  obtain ⟨rfl, hset⟩ := question_mem_encodeChar hq
  exact ⟨hc, hset⟩

end Percent

/-! ## Numbers -/

theorem question_not_mem_intercalate {sep : String} {l : List String}
    (hsep : '?' ∉ sep.toList) (hl : ∀ s ∈ l, '?' ∉ s.toList) :
    '?' ∉ (sep.intercalate l).toList := by
  rw [String.toList_intercalate]
  intro h
  rcases List.mem_of_mem_intercalate h with h | ⟨cs, hcs, h⟩
  · exact hsep h
  · obtain ⟨s, hs, rfl⟩ := List.mem_map.1 hcs
    exact hl s hs h

theorem question_not_mem_toDigitsCore (base : Nat) :
    ∀ (fuel n : Nat) (ds : List Char), '?' ∉ ds → '?' ∉ Nat.toDigitsCore base fuel n ds
  | 0, _, _, h => h
  | fuel + 1, n, ds, h => by
    unfold Nat.toDigitsCore
    dsimp only
    have hd : '?' ∉ (n % base).digitChar :: ds := by simp [h]
    split
    · exact hd
    · exact question_not_mem_toDigitsCore base fuel _ _ hd

/-- The digits of a number hold no `?`. -/
theorem question_not_mem_toString (n : Nat) : '?' ∉ (toString n).toList := by
  simp only [toString, Nat.toList_repr]
  exact question_not_mem_toDigitsCore 10 _ _ _ (by simp)

namespace Host

theorem question_not_mem_pieceText (p : Nat) : '?' ∉ (pieceText p).toList := by
  simp only [pieceText, String.toList_ofList]
  exact question_not_mem_toDigitsCore 16 _ _ _ (by simp)

theorem question_not_mem_ipv6Text (pieces : List Nat) : '?' ∉ (ipv6Text pieces).toList := by
  have hpieces : ∀ ps : List Nat, '?' ∉ (":".intercalate (ps.map pieceText)).toList := fun ps =>
    question_not_mem_intercalate (by decide) (by
      intro s hs
      obtain ⟨p, -, rfl⟩ := List.mem_map.1 hs
      exact question_not_mem_pieceText p)
  unfold ipv6Text
  split
  · exact hpieces pieces
  · simp only [String.toList_append, List.mem_append, not_or]
    exact ⟨⟨hpieces _, by decide⟩, hpieces _⟩

theorem question_not_mem_ipv4Text (a : Nat) : '?' ∉ (ipv4Text a).toList := by
  refine question_not_mem_intercalate (by decide) ?_
  intro s hs
  obtain ⟨p, -, rfl⟩ := List.mem_map.1 hs
  exact question_not_mem_toString _

end Host

/-! ## Domains -/

namespace Punycode

theorem threshold_le (k bias : Nat) : threshold k bias ≤ 26 := by
  unfold threshold
  split_ifs <;> omega

theorem digitChar_ne_question {d : Nat} (h : d < 36) : digitChar d ≠ '?' := by
  have h63 : '?'.toNat = 63 := rfl
  intro he
  have hd := congrArg Char.toNat he
  unfold digitChar at hd
  split_ifs at hd with hlt
  · have hv : (Char.ofNat (97 + d)).toNat = 97 + d := Utf8.toNat_ofNat_of_valid (by omega)
    omega
  · have hv : (Char.ofNat (22 + d)).toNat = 22 + d := Utf8.toNat_ofNat_of_valid (by omega)
    omega

/-- The digits of a difference are base-36 digits. -/
theorem mem_encodeDigits {bias k q : Nat} {c : Char} (h : c ∈ encodeDigits bias k q) :
    ∃ d < 36, c = digitChar d := by
  fun_induction encodeDigits bias k q with
  | case1 k q t hq =>
    rw [List.mem_singleton] at h
    exact ⟨q, by have := threshold_le k bias; omega, h⟩
  | case2 k q t hq ih =>
    rcases List.mem_cons.1 h with h | h
    · refine ⟨_, ?_, h⟩
      have := threshold_le k bias
      have := Nat.mod_lt (q - t) (show 0 < 36 - t by omega)
      omega
    · exact ih h

section Alphabet

/-! Whatever holds of every base-36 digit and of the output so far holds of the output
after each code point is inserted. -/

variable {P : Char → Prop} (hP : ∀ d < 36, P (digitChar d))
include hP

theorem forall_mem_visit {basic m : Nat} {e : Encoder} (c : Char) (he : ∀ x ∈ e.out, P x) :
    ∀ x ∈ (visit basic m e c).out, P x := by
  unfold visit
  split_ifs
  · exact he
  · intro x hx
    rcases List.mem_append.1 hx with hx | hx
    · exact he x hx
    · obtain ⟨d, hd, rfl⟩ := mem_encodeDigits hx
      exact hP d hd
  · exact he

theorem forall_mem_foldl_visit {basic m : Nat} :
    ∀ (input : List Char) (e : Encoder), (∀ x ∈ e.out, P x) →
      ∀ x ∈ (input.foldl (visit basic m) e).out, P x
  | [], _, he => he
  | c :: input, _, he => forall_mem_foldl_visit input _ (forall_mem_visit hP c he)

theorem forall_mem_encodeLoop (input : List Char) (basic : Nat) :
    ∀ (points : List Nat) (n : Nat) (e : Encoder), (∀ x ∈ e.out, P x) →
      ∀ x ∈ (encodeLoop input basic points n e).out, P x
  | [], _, _, he => he
  | _ :: points, _, _, he =>
    forall_mem_encodeLoop input basic points _ _ (forall_mem_foldl_visit hP _ _ he)

end Alphabet

/-- The Punycode of a label is made of the label's ASCII characters, a hyphen and base-36
    digits. -/
theorem mem_encode {label : String} {c : Char} (h : c ∈ (encode label).toList) :
    c ∈ label.toList ∨ c = '-' ∨ ∃ d < 36, c = digitChar d := by
  unfold encode at h
  rw [String.toList_ofList] at h
  refine forall_mem_encodeLoop
    (P := fun x => x ∈ label.toList ∨ x = '-' ∨ ∃ d < 36, x = digitChar d)
    (fun d hd => Or.inr (Or.inr ⟨d, hd, rfl⟩)) _ _ _ _ _ ?_ c h
  intro x hx
  dsimp only at hx
  split at hx
  · rcases List.mem_append.1 hx with hx | hx
    · exact .inl (List.mem_filter.1 hx).1
    · exact .inr (.inl (List.mem_singleton.1 hx))
  · simp at hx

theorem question_not_mem_encode {label : String} (h : '?' ∉ label.toList) :
    '?' ∉ (encode label).toList := by
  intro hq
  rcases mem_encode hq with hq | hq | ⟨d, hd, hq⟩
  · exact h hq
  · cases hq
  · exact digitChar_ne_question hd hq.symm

end Punycode

namespace DomainName

theorem readLabel_eq_ok {t : List Char} {l : Label} (h : readLabel t = .ok l) :
    l.text = t ∧ (l.encoded = false → l.chars = t) := by
  unfold readLabel at h
  split at h
  · split_ifs at h
    split at h
    · cases h
    · dsimp only at h
      split_ifs at h
      cases h
      exact ⟨rfl, by simp⟩
  · cases h
    exact ⟨rfl, fun _ => rfl⟩

theorem question_not_mem_writeLabel {l : Label} {w : String} (h : writeLabel l = .ok w)
    (ht : '?' ∉ l.text) (hc : l.encoded = false → l.chars = l.text) : '?' ∉ w.toList := by
  unfold writeLabel at h
  split_ifs at h with h₁ h₂
  · cases h
    simpa using ht
  · cases h
    simp only [String.toList_append, List.mem_append, not_or]
    refine ⟨by decide, Punycode.question_not_mem_encode ?_⟩
    rw [String.toList_ofList, hc (by simp_all)]
    exact ht

theorem question_not_mem_toAscii {d out : String} (h : toAscii d = .ok out) :
    '?' ∉ out.toList := by
  unfold toAscii at h
  obtain ⟨mapped, -, h⟩ := Except.bind_eq_ok.1 h
  dsimp only at h
  split at h
  · obtain ⟨_, h, -⟩ := Except.bind_eq_ok.1 h
    cases h
  rename_i hallowed
  obtain ⟨labels, hlabels, h⟩ := Except.bind_eq_ok.1 h
  obtain ⟨_, -, h⟩ := Except.bind_eq_ok.1 h
  split at h
  · obtain ⟨_, h, -⟩ := Except.bind_eq_ok.1 h
    cases h
  obtain ⟨written, hwritten, h⟩ := Except.bind_eq_ok.1 h
  cases h
  -- every character of a label is one of the text once mapped, which holds no `?`
  have hnormal : '?' ∉ NormalForm.nfc mapped := fun hq =>
    hallowed (List.any_eq_true.2 ⟨'?', hq, by decide⟩)
  rw [show "." = String.singleton '.' by decide, String.splitOn_singleton, String.toList_ofList]
    at hlabels
  have hlabel : ∀ l ∈ labels, '?' ∉ l.text ∧ (l.encoded = false → l.chars = l.text) := by
    intro l hl
    obtain ⟨piece, hpiece, hread⟩ := List.exists_of_mapM_eq_ok hlabels l hl
    obtain ⟨cs, hcs, rfl⟩ := List.mem_map.1 hpiece
    obtain ⟨htext, hchars⟩ := readLabel_eq_ok hread
    rw [String.toList_ofList] at htext hchars
    refine ⟨?_, fun he => (hchars he).trans htext.symm⟩
    rw [htext]
    exact fun hq => hnormal (List.mem_of_mem_splitOn hcs hq)
  refine question_not_mem_intercalate (by decide) ?_
  intro w hw
  obtain ⟨l, hl, hwrite⟩ := List.exists_of_mapM_eq_ok hwritten w hw
  exact question_not_mem_writeLabel hwrite (hlabel l hl).1 (hlabel l hl).2

end DomainName

namespace Host

/-- The text of every host read for a special scheme holds no `?`. -/
theorem question_not_mem_text_of_parse {s : String} {h : Host} (hp : parse s = .ok h) :
    '?' ∉ h.text.toList := by
  unfold parse at hp
  split_ifs at hp with hb
  · -- an IPv6 address in brackets
    obtain ⟨pieces, -, rfl⟩ := Except.map_eq_ok.1 hp
    simp only [text, String.toList_append, List.mem_append, not_or]
    exact ⟨⟨by decide, question_not_mem_ipv6Text pieces⟩, by decide⟩
  · -- a domain, in its ASCII form, or the IPv4 address it names
    obtain ⟨ascii, hascii, hp⟩ := Except.bind_eq_ok.1 hp
    have hdomain : '?' ∉ ascii.toList := by
      cases ht : DomainName.toAscii (Utf8.decodeLossy (Percent.decode (Utf8.encode s))) with
      | error e => simp [ht, Except.mapError] at hascii
      | ok a =>
        simp only [ht, Except.mapError, Except.ok.injEq] at hascii
        exact hascii ▸ DomainName.question_not_mem_toAscii ht
    dsimp only at hp
    split at hp
    · obtain ⟨_, hp, -⟩ := Except.bind_eq_ok.1 hp
      cases hp
    split at hp
    · obtain ⟨a, -, hp⟩ := Except.bind_eq_ok.1 hp
      cases hp
      exact question_not_mem_ipv4Text a
    · cases hp
      exact hdomain

/-- The text of every host read for another scheme holds no `?`. -/
theorem question_not_mem_text_of_parseOpaque {s : String} {h : Host} (hp : parseOpaque s = .ok h) :
    '?' ∉ h.text.toList := by
  unfold parseOpaque at hp
  split_ifs at hp with hb he hf
  · obtain ⟨pieces, -, rfl⟩ := Except.map_eq_ok.1 hp
    simp only [text, String.toList_append, List.mem_append, not_or]
    exact ⟨⟨by decide, question_not_mem_ipv6Text pieces⟩, by decide⟩
  · -- an opaque host holds no `?`, and percent encoding writes none
    cases hp
    intro hq
    exact hf (List.any_eq_true.2 ⟨'?', (Percent.question_mem_encode hq).1, by decide⟩)

end Host

end FeatureFlags
