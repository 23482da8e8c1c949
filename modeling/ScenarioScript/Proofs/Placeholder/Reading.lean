import Mathlib.Data.Nat.Find
import Mathlib.Tactic.Lemma
import ScenarioScript.Placeholder.Shape

/-!
# Where an argument ends

`Shape.readArgument?` stops at the first `>` whose look ahead is clear.  This file says the same
without recursion, in two forms.

**Arguments without `<`.**  Such an argument is read whole, whatever `>` it holds: every `>` inside
sees the last one ahead of it (`isClear_append_close`), and only the last one has a clear look
ahead.  `readArgument?_append` is the form in which statements are read piece by piece.

**Offsets.**  `Closes text k` says that the character at offset `k` is a `>` with a clear look
ahead, and `Reaches text start least close` that `close` is the first such offset from `least` on,
with no line feed between `start` and it.  `argumentAt?_leading_iff` turns the reading of a
placeholder into these two notions, after which only offsets have to be compared.
-/

namespace ScenarioScript

namespace Shape

/-! ## The look ahead -/

/-- Characters other than brackets do not change the look ahead. -/
lemma isClear_append_of_free : ∀ {between : Text} (rest : Text),
    char '<' ∉ between → char '>' ∉ between →
    isClear (between ++ rest) = isClear rest
  | [], _, _, _ => rfl
  | c :: between, rest, hopen, hclose => by
      simp only [List.mem_cons, not_or] at hopen hclose
      rw [List.cons_append, isClear, if_neg (Ne.symm hopen.1), if_neg (Ne.symm hclose.1)]
      exact isClear_append_of_free rest hopen.2 hclose.2

/-- A `>` that comes before any `<` obstructs the look ahead. -/
lemma isClear_append_close : ∀ {between : Text} (rest : Text), char '<' ∉ between →
    isClear (between ++ char '>' :: rest) = false
  | [], _, _ => rfl
  | c :: between, rest, hopen => by
      simp only [List.mem_cons, not_or] at hopen
      rw [List.cons_append, isClear, if_neg (Ne.symm hopen.1)]
      split
      · rfl
      · exact isClear_append_close rest hopen.2

/-- **An argument without `<` is read whole.**  The `>` it may hold do not end it, because the last
    `>` stands in their look ahead. -/
lemma readArgument?_append : ∀ {argument : Text} {rest : Text},
    char '<' ∉ argument → char '\n' ∉ argument →
    isClear rest = true → readArgument? (argument ++ char '>' :: rest) = some argument
  | [], rest, _, _, hclear => by simp [readArgument?, hclear]
  | c :: argument, rest, hopen, hline, hclear => by
      simp only [List.mem_cons, not_or] at hopen hline
      have hblocked : isClear (argument ++ char '>' :: rest) = false :=
        isClear_append_close rest hopen.2
      rw [List.cons_append, readArgument?, hblocked, Bool.and_false, if_neg (by simp),
        if_neg (Ne.symm hline.1), readArgument?_append hopen.2 hline.2 hclear]
      rfl

/-- The same for an argument that has to have a first character. -/
lemma readArgumentOne?_append {argument rest : Text} (hne : argument ≠ [])
    (hopen : char '<' ∉ argument)
    (hline : char '\n' ∉ argument) (hclear : isClear rest = true) :
    readArgumentOne? (argument ++ char '>' :: rest) = some argument := by
  obtain ⟨c, argument, rfl⟩ := List.exists_cons_of_ne_nil hne
  simp only [List.mem_cons, not_or] at hopen hline
  rw [List.cons_append, readArgumentOne?, if_neg (Ne.symm hline.1),
    readArgument?_append hopen.2 hline.2 hclear]
  rfl

/-! ## Closing brackets by offset -/

/-- **A closing bracket**: a `>` with a clear look ahead at offset `k`. -/
def Closes (text : Text) (k : Nat) : Prop :=
  text[k]? = some (char '>') ∧ isClear (text.drop (k + 1)) = true

instance (text : Text) (k : Nat) : Decidable (Closes text k) :=
  inferInstanceAs (Decidable (_ ∧ _))

lemma not_closes_nil (k : Nat) : ¬ Closes [] k := by
  simp [Closes]

lemma closes_zero_iff {c : Letter} {rest : Text} :
    Closes (c :: rest) 0 ↔ c = char '>' ∧ isClear rest = true := by
  simp [Closes]

lemma closes_drop_iff {text : Text} {offset k : Nat} :
    Closes (text.drop offset) k ↔ Closes text (offset + k) := by
  simp only [Closes, List.getElem?_drop, List.drop_drop, Nat.add_assoc]

/-- **Where a reading stops**: `close` is the first closing bracket at offset `least` or behind it,
    and no line feed stands from `start` up to it. -/
structure Reaches (text : Text) (start least close : Nat) : Prop where
  least_le : least ≤ close
  closes : Closes text close
  first : ∀ k, least ≤ k → k < close → ¬ Closes text k
  oneLine : ∀ k, start ≤ k → k < close → text[k]? ≠ some (char '\n')

namespace Reaches

lemma drop_iff {text : Text} {offset start least close : Nat} :
    Reaches (text.drop offset) start least close
      ↔ Reaches text (offset + start) (offset + least) (offset + close) := by
  constructor
  · rintro ⟨hle, hcloses, hfirst, hline⟩
    refine ⟨by omega, closes_drop_iff.mp hcloses, fun k hk hk' => ?_, fun k hk hk' => ?_⟩
    · have h := hfirst (k - offset) (by omega) (by omega)
      rwa [closes_drop_iff, show offset + (k - offset) = k by omega] at h
    · have h := hline (k - offset) (by omega) (by omega)
      rwa [List.getElem?_drop, show offset + (k - offset) = k by omega] at h
  · rintro ⟨hle, hcloses, hfirst, hline⟩
    refine ⟨by omega, closes_drop_iff.mpr hcloses, fun k hk hk' => ?_, fun k hk hk' => ?_⟩
    · rw [closes_drop_iff]
      exact hfirst (offset + k) (by omega) (by omega)
    · rw [List.getElem?_drop]
      exact hline (offset + k) (by omega) (by omega)

/-- A text that has a closing bracket on the same line has a first one. -/
lemma exists_of_closes {text : Text} {start least bracket : Nat} (hle : least ≤ bracket)
    (hcloses : Closes text bracket)
    (hline : ∀ k, start ≤ k → k < bracket → text[k]? ≠ some (char '\n')) :
    ∃ close, close ≤ bracket ∧ Reaches text start least close := by
  have hexists : ∃ k, least ≤ k ∧ Closes text k := ⟨bracket, hle, hcloses⟩
  have hmin : Nat.find hexists ≤ bracket := Nat.find_min' hexists ⟨hle, hcloses⟩
  refine ⟨Nat.find hexists, hmin, (Nat.find_spec hexists).1, (Nat.find_spec hexists).2, ?_, ?_⟩
  · intro k hk hlt hcl
    exact Nat.find_min hexists hlt ⟨hk, hcl⟩
  · intro k hk hlt
    exact hline k hk (by omega)

/-- Two readings of one text with the same bounds stop at the same place. -/
lemma unique {text : Text} {start start' least close close' : Nat}
    (h : Reaches text start least close) (h' : Reaches text start' least close') :
    close = close' := by
  rcases Nat.lt_trichotomy close close' with hlt | heq | hgt
  · exact absurd h.closes (h'.first close h.least_le hlt)
  · exact heq
  · exact absurd h'.closes (h.first close' h'.least_le hgt)

/-- Behind the first character a reading goes on as it would from there. -/
lemma cons_iff {c : Letter} {rest : Text} {close : Nat} :
    Reaches (c :: rest) 0 1 (close + 1) ↔ c ≠ char '\n' ∧ Reaches rest 0 0 close := by
  have hshift := @Reaches.drop_iff (c :: rest) 1 0 0 close
  simp only [List.drop_succ_cons, List.drop_zero, Nat.add_comm 1] at hshift
  rw [hshift]
  constructor
  · rintro ⟨hle, hcloses, hfirst, hline⟩
    refine ⟨by simpa using hline 0 (by omega) (by omega), hle, hcloses, hfirst, ?_⟩
    exact fun k _ hk => hline k (by omega) hk
  · rintro ⟨hc, hle, hcloses, hfirst, hline⟩
    refine ⟨hle, hcloses, hfirst, ?_⟩
    rintro (_ | k) - hk
    · simpa using hc
    · exact hline (k + 1) (by omega) hk

/-- Where the first character does not close, the second is as good a place to start. -/
lemma zero_iff_one {text : Text} {close : Nat} (hzero : ¬ Closes text 0) :
    Reaches text 0 0 close ↔ Reaches text 0 1 close := by
  constructor
  · rintro ⟨-, hcloses, hfirst, hline⟩
    have hpos : close ≠ 0 := fun h => hzero (h ▸ hcloses)
    exact ⟨by omega, hcloses, fun k _ hk => hfirst k (by omega) hk, hline⟩
  · rintro ⟨-, hcloses, hfirst, hline⟩
    refine ⟨by omega, hcloses, ?_, hline⟩
    rintro (_ | k) - hk
    · exact hzero
    · exact hfirst (k + 1) (by omega) hk

end Reaches

/-! ## Readers in terms of offsets -/

/-- A reader that wants a first character, from what the other reader does behind it. -/
lemma readArgumentOne?_cons_iff {c : Letter} {rest argument : Text}
    (hrest : ∀ {tail : Text}, readArgument? rest = some tail
      ↔ ∃ close, Reaches rest 0 0 close ∧ tail = rest.take close) :
    readArgumentOne? (c :: rest) = some argument
      ↔ ∃ close, Reaches (c :: rest) 0 1 close ∧ argument = (c :: rest).take close := by
  rw [readArgumentOne?]
  constructor
  · intro h
    split at h
    · exact absurd h (by simp)
    · rename_i hc
      obtain ⟨tail, htail, rfl⟩ := Option.map_eq_some_iff.mp h
      obtain ⟨close, hreach, rfl⟩ := hrest.mp htail
      exact ⟨close + 1, Reaches.cons_iff.mpr ⟨hc, hreach⟩, by simp⟩
  · rintro ⟨_ | close, hreach, rfl⟩
    · exact absurd hreach.least_le (by omega)
    · obtain ⟨hc, htail⟩ := Reaches.cons_iff.mp hreach
      rw [if_neg hc, hrest.mpr ⟨close, htail, rfl⟩]
      rfl

/-- **`readArgument?` stops at the first closing bracket** of the line. -/
lemma readArgument?_iff : ∀ {text argument : Text}, readArgument? text = some argument
    ↔ ∃ close, Reaches text 0 0 close ∧ argument = text.take close
  | [], argument => by
      refine ⟨fun h => by simp [readArgument?] at h, ?_⟩
      rintro ⟨close, h, -⟩
      exact absurd h.closes (not_closes_nil close)
  | c :: rest, argument => by
      by_cases hzero : Closes (c :: rest) 0
      · -- the very first character closes, and the argument is empty
        have hread : readArgument? (c :: rest) = some [] := by
          simp [readArgument?, closes_zero_iff.mp hzero]
        have hreach : Reaches (c :: rest) 0 0 0 :=
          ⟨le_refl 0, hzero, fun k _ hk => by omega, fun k _ hk => by omega⟩
        rw [hread]
        constructor
        · intro h
          exact ⟨0, hreach, by simpa using h.symm⟩
        · rintro ⟨close, h, rfl⟩
          rw [← hreach.unique h, List.take_zero]
      · have hread : readArgument? (c :: rest) = readArgumentOne? (c :: rest) := by
          rw [readArgument?, readArgumentOne?, if_neg]
          simpa [closes_zero_iff] using hzero
        simp only [hread, Reaches.zero_iff_one hzero]
        exact readArgumentOne?_cons_iff readArgument?_iff

/-- `readArgumentOne?` stops at the first closing bracket behind the first character. -/
lemma readArgumentOne?_iff {text argument : Text} : readArgumentOne? text = some argument
    ↔ ∃ close, Reaches text 0 1 close ∧ argument = text.take close := by
  cases text with
  | nil =>
      refine ⟨fun h => by simp [readArgumentOne?] at h, ?_⟩
      rintro ⟨close, h, -⟩
      exact absurd h.closes (not_closes_nil close)
  | cons c rest => exact readArgumentOne?_cons_iff readArgument?_iff

/-- **The extent of a placeholder with a lead**, by offsets: it opens with `<` and the lead, and
    behind the first character of its argument the first closing bracket ends it. -/
structure Spans (lead text : Text) (start close : Nat) : Prop where
  opens : char '<' :: lead <+: text.drop start
  reaches : Reaches text (start + lead.length + 1) (start + lead.length + 2) close

/-- A lead that leaves room for an argument only moves the bounds of a reading inwards. -/
lemma Spans.of_any {lead text : Text} {start close : Nat} (h : Spans [] text start close)
    (hopens : char '<' :: lead <+: text.drop start) (hroom : start + lead.length + 2 ≤ close) :
    Spans lead text start close := by
  refine ⟨hopens, hroom, h.reaches.closes, fun k hk => h.reaches.first k ?_,
    fun k hk => h.reaches.oneLine k ?_⟩
  · simp only [List.length_nil]
    omega
  · simp only [List.length_nil]
    omega

/-- **The reading of a placeholder with a lead**, at any offset of a text. -/
lemma argumentAt?_leading_iff {lead text argument : Text} {start : Nat} :
    (leading lead).argumentAt? (text.drop start) = some argument
      ↔ ∃ close, Spans lead text start close
          ∧ argument = (text.take close).drop (start + lead.length + 1) := by
  have hbind : (leading lead).argumentAt? (text.drop start) = some argument
      ↔ ∃ rest, text.drop start = char '<' :: lead ++ rest
          ∧ readArgumentOne? rest = some argument := by
    simp only [argumentAt?, Option.bind_eq_some_iff, Text.after?_eq_some_iff]
  have hrest : ∀ {rest : Text}, text.drop start = char '<' :: lead ++ rest →
      rest = text.drop (start + lead.length + 1) := by
    intro rest h
    have h' := congrArg (List.drop (lead.length + 1)) h
    rw [List.drop_drop, List.drop_left' (by simp)] at h'
    exact h'.symm
  rw [hbind]
  constructor
  · rintro ⟨rest, hsplit, hread⟩
    obtain ⟨close, hreach, rfl⟩ := readArgumentOne?_iff.mp hread
    rw [hrest hsplit] at hreach
    refine ⟨start + lead.length + 1 + close,
      ⟨⟨rest, hsplit.symm⟩, Reaches.drop_iff.mp hreach⟩, ?_⟩
    rw [hrest hsplit, List.take_drop]
  · rintro ⟨close, ⟨⟨rest, hsplit⟩, hreach⟩, rfl⟩
    have hle := hreach.least_le
    refine ⟨rest, hsplit.symm, readArgumentOne?_iff.mpr
      ⟨close - (start + lead.length + 1), ?_, ?_⟩⟩
    · rw [hrest hsplit.symm, Reaches.drop_iff]
      rwa [show start + lead.length + 1 + (close - (start + lead.length + 1)) = close by omega]
    · rw [hrest hsplit.symm, List.take_drop,
        show start + lead.length + 1 + (close - (start + lead.length + 1)) = close by omega]

end Shape

end ScenarioScript
