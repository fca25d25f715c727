/-
  Cut — where texts that were put together come apart again.

  A scanner that looks for a separator passes over a text in which the separator does not occur and
  goes on behind it. So most lemmas here have the shape `cut (t ++ separator ++ rest) = t, cut rest`.

  1. **Characters and pairs** — `before`, `cutAt?`, `splitAt`, `splitAtPair`, `hasPair`.

  2. **Words and lines** — words have no blanks in them, lines no line feeds.
-/

import LinearProgram.Proofs.Text.Trim
import Mathlib.Data.Bool.AllAny
import Mathlib.Data.List.TakeWhile

namespace LinearProgram.Text

/-! ## Characters -/

theorem before_of_not_mem {d : Char} {t : Text} (h : d ∉ t) : before d t = t :=
  List.takeWhile_eq_self_iff.mpr fun _ hc => decide_eq_true fun hcd => h (hcd ▸ hc)

theorem cutAt?_append {d : Char} {t : Text} (rest : Text) (h : d ∉ t) :
    cutAt? d (t ++ d :: rest) = some (t, rest) := by
  induction t with
  | nil => exact if_pos rfl
  | cons c t ih =>
    have hc : ¬ c = d := fun hcd => h (hcd ▸ List.mem_cons_self)
    have ht : d ∉ t := fun hd => h (List.mem_cons_of_mem c hd)
    show (if c = d then _ else (cutAt? d (t ++ d :: rest)).map _) = _
    rw [if_neg hc, ih ht]
    rfl

theorem cutAt?_of_not_mem {d : Char} {t : Text} (h : d ∉ t) : cutAt? d t = none := by
  induction t with
  | nil => rfl
  | cons c t ih =>
    have hc : ¬ c = d := fun hcd => h (hcd ▸ List.mem_cons_self)
    have ht : d ∉ t := fun hd => h (List.mem_cons_of_mem c hd)
    unfold cutAt?
    rw [if_neg hc, ih ht]
    rfl

/-- What stands before and behind a character makes up the text. -/
theorem append_of_cutAt? {d : Char} {t front back : Text} (h : cutAt? d t = some (front, back)) :
    front ++ d :: back = t := by
  induction t generalizing front with
  | nil => cases h
  | cons c t ih =>
    unfold cutAt? at h
    split at h
    · next hc =>
      cases h
      rw [hc]
      rfl
    · obtain ⟨⟨front', back'⟩, hcut, heq⟩ := Option.map_eq_some_iff.mp h
      cases heq
      rw [List.cons_append, ih hcut]

theorem splitAt_of_not_mem {d : Char} {t : Text} (h : d ∉ t) : splitAt d t = [t] := by
  induction t with
  | nil => rfl
  | cons c t ih =>
    have hc : ¬ c = d := fun hcd => h (hcd ▸ List.mem_cons_self)
    have ht : d ∉ t := fun hd => h (List.mem_cons_of_mem c hd)
    unfold splitAt
    rw [if_neg hc, ih ht]
    rfl

theorem splitAt_append {d : Char} {t : Text} (rest : Text) (h : d ∉ t) :
    splitAt d (t ++ d :: rest) = t :: splitAt d rest := by
  induction t with
  | nil => exact if_pos rfl
  | cons c t ih =>
    have hc : ¬ c = d := fun hcd => h (hcd ▸ List.mem_cons_self)
    have ht : d ∉ t := fun hd => h (List.mem_cons_of_mem c hd)
    show (if c = d then _ else extendFirst c (splitAt d (t ++ d :: rest))) = _
    rw [if_neg hc, ih ht]
    rfl

/-- No piece holds the character that was cut at. -/
theorem not_mem_of_mem_splitAt {d : Char} {t piece : Text} (h : piece ∈ splitAt d t) :
    d ∉ piece := by
  induction t generalizing piece with
  | nil =>
    rw [List.mem_singleton.mp h]
    exact List.not_mem_nil
  | cons c t ih =>
    unfold splitAt at h
    by_cases hc : c = d
    · rw [if_pos hc] at h
      rcases List.mem_cons.mp h with rfl | h
      · exact List.not_mem_nil
      · exact ih h
    · rw [if_neg hc] at h
      cases hpieces : splitAt d t with
      | nil => exact absurd hpieces (splitAt_ne_nil d t)
      | cons first pieces =>
        rw [hpieces] at h ih
        rcases List.mem_cons.mp h with rfl | h
        · exact List.not_mem_cons_of_ne_of_not_mem (Ne.symm hc) (ih List.mem_cons_self)
        · exact ih (List.mem_cons_of_mem first h)

/-- **Joined pieces come apart again.** -/
theorem splitAt_join {d : Char} {ts : List Text} (hne : ts ≠ []) (h : ∀ t ∈ ts, d ∉ t) :
    splitAt d (join [d] ts) = ts := by
  induction ts with
  | nil => exact absurd rfl hne
  | cons t ts ih =>
    have ht : d ∉ t := h t List.mem_cons_self
    cases ts with
    | nil => exact splitAt_of_not_mem ht
    | cons u us =>
      have hrest := ih (List.cons_ne_nil u us) fun v hv => h v (List.mem_cons_of_mem t hv)
      rw [join_cons_of_ne_nil _ _ (List.cons_ne_nil u us), List.append_assoc,
        List.singleton_append, splitAt_append _ ht, hrest]

/-- **What comes apart at a character** is joined from pieces that do not hold it. -/
theorem splitAt_eq_iff {d : Char} {t : Text} {pieces : List Text} :
    splitAt d t = pieces ↔ pieces ≠ [] ∧ join [d] pieces = t ∧ ∀ piece ∈ pieces, d ∉ piece := by
  constructor
  · rintro rfl
    exact ⟨splitAt_ne_nil d t, join_splitAt d t, fun piece => not_mem_of_mem_splitAt⟩
  · rintro ⟨hne, rfl, h⟩
    exact splitAt_join hne h

/-! ## Pairs of characters -/

section Pairs

variable {d e : Char}

/-- At a character other than `d` no pair begins. -/
theorem splitAtPair_cons_of_ne {c : Char} (t : Text) (h : c ≠ d) :
    splitAtPair d e (c :: t) = extendFirst c (splitAtPair d e t) := by
  cases t with
  | nil => rfl
  | cons c' t =>
    show (if c = d ∧ c' = e then _ else _) = _
    rw [if_neg fun hcd => h hcd.1]

theorem hasPair_cons_cons (c c' : Char) (t : Text) :
    hasPair d e (c :: c' :: t) = false ↔ ¬ (c = d ∧ c' = e) ∧ hasPair d e (c' :: t) = false := by
  show ((c == d && c' == e) || hasPair d e (c' :: t)) = false ↔ _
  rw [Bool.or_eq_false_iff]
  simp

theorem hasPair_of_not_mem {t : Text} (h : d ∉ t) : hasPair d e t = false := by
  induction t with
  | nil => rfl
  | cons c t ih =>
    have hc : c ≠ d := fun hcd => h (hcd ▸ List.mem_cons_self)
    have ht : d ∉ t := fun hd => h (List.mem_cons_of_mem c hd)
    cases t with
    | nil => rfl
    | cons c' t => exact (hasPair_cons_cons c c' t).mpr ⟨fun hcd => hc hcd.1, ih ht⟩

/-- Where no pair occurs nothing comes apart. -/
theorem splitAtPair_of_not_hasPair {t : Text} (h : hasPair d e t = false) :
    splitAtPair d e t = [t] := by
  fun_induction splitAtPair d e t with
  | case1 => rfl
  | case2 => rfl
  | case3 c c' t hpair => exact absurd hpair ((hasPair_cons_cons c c' t).mp h).1
  | case4 c c' t _ ih =>
    rw [ih ((hasPair_cons_cons c c' t).mp h).2]
    rfl

theorem splitAtPair_of_not_mem {t : Text} (h : d ∉ t) : splitAtPair d e t = [t] :=
  splitAtPair_of_not_hasPair (hasPair_of_not_mem h)

theorem splitAtPair_append {t : Text} (rest : Text) (h : d ∉ t) :
    splitAtPair d e (t ++ d :: e :: rest) = t :: splitAtPair d e rest := by
  induction t with
  | nil => exact if_pos ⟨rfl, rfl⟩
  | cons c t ih =>
    have hc : c ≠ d := fun hcd => h (hcd ▸ List.mem_cons_self)
    have ht : d ∉ t := fun hd => h (List.mem_cons_of_mem c hd)
    rw [List.cons_append, splitAtPair_cons_of_ne _ hc, ih ht]
    rfl

/-- A pair of different characters is found even behind a text that ends in the first of them. -/
theorem splitAtPair_append_of_not_hasPair (hde : d ≠ e) {t : Text} (rest : Text)
    (h : hasPair d e t = false) :
    splitAtPair d e (t ++ d :: e :: rest) = t :: splitAtPair d e rest := by
  induction t with
  | nil => exact if_pos ⟨rfl, rfl⟩
  | cons c t ih =>
    cases t with
    | nil =>
      have hc : ¬ (c = d ∧ d = e) := fun hcd => hde hcd.2
      show (if c = d ∧ d = e then _ else extendFirst c (splitAtPair d e (d :: e :: rest))) = _
      have hpair : splitAtPair d e (d :: e :: rest) = [] :: splitAtPair d e rest :=
        if_pos ⟨rfl, rfl⟩
      rw [if_neg hc, hpair]
      rfl
    | cons c' t =>
      obtain ⟨hpair, ht⟩ := (hasPair_cons_cons c c' t).mp h
      show (if c = d ∧ c' = e then _
        else extendFirst c (splitAtPair d e (c' :: t ++ d :: e :: rest))) = _
      rw [if_neg hpair, ih ht]
      rfl

/-- What begins with a piece begins like the piece. -/
theorem head_of_splitAtPair {c : Char} {t first : Text} {pieces : List Text}
    (h : splitAtPair d e t = (c :: first) :: pieces) : t.head? = some c := by
  rw [← join_splitAtPair d e t, h]
  cases pieces <;> rfl

/-- No piece holds the pair that was cut at. -/
theorem not_hasPair_of_mem_splitAtPair {t piece : Text} (h : piece ∈ splitAtPair d e t) :
    hasPair d e piece = false := by
  fun_induction splitAtPair d e t generalizing piece with
  | case1 =>
    rw [List.mem_singleton.mp h]
    rfl
  | case2 =>
    rw [List.mem_singleton.mp h]
    rfl
  | case3 c c' t hpair ih =>
    rcases List.mem_cons.mp h with rfl | h
    · rfl
    · exact ih h
  | case4 c c' t hpair ih =>
    cases hpieces : splitAtPair d e (c' :: t) with
    | nil => exact absurd hpieces (splitAtPair_ne_nil d e _)
    | cons first pieces =>
      rw [hpieces] at h ih
      rcases List.mem_cons.mp h with rfl | h
      · -- the first piece is empty, or it begins with `c'`
        cases first with
        | nil => rfl
        | cons a first =>
          have hhead : some c' = some a := head_of_splitAtPair hpieces
          cases hhead
          exact (hasPair_cons_cons c _ first).mpr ⟨hpair, ih List.mem_cons_self⟩
      · exact ih (List.mem_cons_of_mem first h)

/-- **Pieces that were joined with a pair come apart again.** -/
theorem splitAtPair_join (hde : d ≠ e) {ts : List Text} (hne : ts ≠ [])
    (h : ∀ t ∈ ts, hasPair d e t = false) : splitAtPair d e (join [d, e] ts) = ts := by
  induction ts with
  | nil => exact absurd rfl hne
  | cons t ts ih =>
    have ht := h t List.mem_cons_self
    cases ts with
    | nil => exact splitAtPair_of_not_hasPair ht
    | cons u us =>
      have hrest := ih (List.cons_ne_nil u us) fun v hv => h v (List.mem_cons_of_mem t hv)
      rw [join_cons_of_ne_nil _ _ (List.cons_ne_nil u us), List.append_assoc]
      show splitAtPair d e (t ++ d :: e :: join [d, e] (u :: us)) = _
      rw [splitAtPair_append_of_not_hasPair hde _ ht, hrest]

/-- **What comes apart at a pair** is joined from pieces that do not hold it. -/
theorem splitAtPair_eq_iff (hde : d ≠ e) {t : Text} {pieces : List Text} :
    splitAtPair d e t = pieces ↔
      pieces ≠ [] ∧ join [d, e] pieces = t ∧ ∀ piece ∈ pieces, hasPair d e piece = false := by
  constructor
  · rintro rfl
    exact ⟨splitAtPair_ne_nil d e t, join_splitAtPair d e t,
      fun piece => not_hasPair_of_mem_splitAtPair⟩
  · rintro ⟨hne, rfl, h⟩
    exact splitAtPair_join hde hne h

/-- A pair occurs as a stretch of two characters. -/
theorem hasPair_eq_true_iff {t : Text} : hasPair d e t = true ↔ [d, e] <:+: t := by
  induction t with
  | nil => simp [hasPair]
  | cons c t ih =>
    cases t with
    | nil => simp [hasPair, List.infix_cons_iff]
    | cons c' t =>
      show ((c == d && c' == e) || hasPair d e (c' :: t)) = true ↔ _
      rw [List.infix_cons_iff, ← ih, List.cons_prefix_cons, List.cons_prefix_cons,
        Bool.or_eq_true, Bool.and_eq_true, beq_iff_eq, beq_iff_eq, @eq_comm _ c d,
        @eq_comm _ c' e]
      simp

theorem hasPair_append (t rest : Text) : hasPair d e (t ++ d :: e :: rest) = true := by
  induction t with
  | nil =>
    show ((d == d && e == e) || _) = true
    rw [beq_self_eq_true, beq_self_eq_true]
    rfl
  | cons c t ih =>
    rw [List.cons_append]
    cases ht : t ++ d :: e :: rest with
    | nil => exact absurd ht (by simp)
    | cons c' t' =>
      show ((c == d && c' == e) || hasPair d e (c' :: t')) = true
      rw [← ht, ih, Bool.or_true]

/-- How often `d`, directly followed by `e`, occurs in the text. -/
def countPair (d e : Char) : Text → Nat
  | c :: c' :: t => (if c = d ∧ c' = e then 1 else 0) + countPair d e (c' :: t)
  | _ => 0

theorem countPair_cons_of_ne {c : Char} (t : Text) (h : c ≠ d) :
    countPair d e (c :: t) = countPair d e t := by
  cases t with
  | nil => rfl
  | cons c' t =>
    show (if c = d ∧ c' = e then 1 else 0) + countPair d e (c' :: t) = _
    rw [if_neg fun hcd => h hcd.1, Nat.zero_add]

theorem hasPair_eq_false_iff {t : Text} : hasPair d e t = false ↔ countPair d e t = 0 := by
  induction t with
  | nil => exact ⟨fun _ => rfl, fun _ => rfl⟩
  | cons c t ih =>
    cases t with
    | nil => exact ⟨fun _ => rfl, fun _ => rfl⟩
    | cons c' t =>
      rw [hasPair_cons_cons, ih]
      show _ ↔ (if c = d ∧ c' = e then 1 else 0) + countPair d e (c' :: t) = 0
      by_cases hpair : c = d ∧ c' = e
      · rw [if_pos hpair]
        exact ⟨fun h => absurd hpair h.1, fun h => absurd h (by omega)⟩
      · rw [if_neg hpair, Nat.zero_add]
        exact ⟨fun h => h.2, fun h => ⟨hpair, h⟩⟩

/-- A character of neither kind keeps the pairs on its two sides apart. -/
theorem countPair_append {c : Char} (hd : c ≠ d) (he : c ≠ e) (t u : Text) :
    countPair d e (t ++ c :: u) = countPair d e t + countPair d e u := by
  induction t with
  | nil =>
    rw [List.nil_append, countPair_cons_of_ne u hd]
    exact (Nat.zero_add _).symm
  | cons a t ih =>
    cases t with
    | nil =>
      show (if a = d ∧ c = e then 1 else 0) + countPair d e (c :: u) = 0 + countPair d e u
      rw [if_neg fun hpair => he hpair.2, countPair_cons_of_ne u hd]
    | cons b t =>
      show (if a = d ∧ b = e then 1 else 0) + countPair d e (b :: t ++ c :: u) =
        (if a = d ∧ b = e then 1 else 0) + countPair d e (b :: t) + countPair d e u
      rw [ih, Nat.add_assoc]

end Pairs

/-! ## Words -/

/-- A word: at least one character, and no blank. -/
structure IsWord (w : Text) : Prop where
  ne_nil : w ≠ []
  not_blank : ∀ c ∈ w, isBlank c = false

theorem IsWord.isTrimmed {w : Text} (h : w.IsWord) : w.IsTrimmed where
  head c hc := h.not_blank c (List.mem_of_head? hc)
  last c hc := h.not_blank c (List.mem_of_getLast? hc)

/-- What begins and ends with a word is trimmed. -/
theorem IsWord.isTrimmed_append {w w' : Text} (h : w.IsWord) (h' : w'.IsWord) (gap : Text) :
    IsTrimmed (w ++ (gap ++ w')) := by
  constructor
  · intro c hc
    cases w with
    | nil => exact absurd rfl h.ne_nil
    | cons d w => exact h.isTrimmed.head c hc
  · intro c hc
    have hlast := List.getLast?_eq_some_getLast h'.ne_nil
    rw [← List.append_assoc, List.getLast?_append, hlast] at hc
    cases hc
    exact h'.isTrimmed.last _ hlast

/-- Blanks in front of a word, and only those, are dropped at the start. -/
theorem IsWord.trimStart_append {w : Text} (h : w.IsWord) (t u : Text) :
    trimStart (t ++ (w ++ u)) = trimStart t ++ (w ++ u) := by
  cases ht : isBlankOnly t with
  | false => exact Text.trimStart_append _ ht
  | true =>
    rw [trimStart_append_of_blankOnly _ ht, (trimStart_eq_nil_iff t).mpr ht, List.nil_append]
    apply trimStart_of_head
    intro c hc
    cases w with
    | nil => exact absurd rfl h.ne_nil
    | cons d w =>
      cases hc
      exact h.not_blank c List.mem_cons_self

theorem IsWord.reverse {w : Text} (h : w.IsWord) : Text.IsWord w.reverse where
  ne_nil h0 := h.ne_nil (List.reverse_eq_nil_iff.mp h0)
  not_blank c hc := h.not_blank c (List.mem_reverse.mp hc)

/-- Blanks behind a word, and only those, are dropped at the end. -/
theorem IsWord.trimEnd_append {w : Text} (h : w.IsWord) (t u : Text) :
    trimEnd (t ++ (w ++ u)) = t ++ (w ++ trimEnd u) := by
  have hstart := h.reverse.trimStart_append u.reverse t.reverse
  rw [trimEnd_eq, List.reverse_append, List.reverse_append, List.append_assoc, hstart,
    List.reverse_append, List.reverse_append, List.reverse_reverse, List.reverse_reverse,
    List.append_assoc, ← trimEnd_eq]

/-- **A word keeps what stands on either side of it from being trimmed on the other.** -/
theorem IsWord.trim_append {w : Text} (h : w.IsWord) (t u : Text) :
    trim (t ++ (w ++ u)) = trimStart t ++ (w ++ trimEnd u) := by
  rw [trim, h.trimStart_append, h.trimEnd_append]

/-- A word alone is its own first word, with nothing behind it. -/
theorem IsWord.firstWord? {w : Text} (h : w.IsWord) : w.firstWord? = some (w, none) := by
  have hall : ∀ c ∈ w, (! isBlank c) = true := by
    intro c hc
    rw [h.not_blank c hc]
    rfl
  unfold Text.firstWord?
  rw [trimStart_of_head h.isTrimmed.head]
  dsimp only
  rw [List.takeWhile_eq_self_iff.mpr hall, List.dropWhile_eq_nil_iff.mpr hall]
  cases w with
  | nil => exact absurd rfl h.ne_nil
  | cons c w => rfl

theorem words_cons (c : Char) (t : Text) : words (c :: t) =
    if isBlank c then words t
    else match t with
      | [] => [[c]]
      | d :: _ =>
        if isBlank d then [c] :: words t
        else match words t with
          | [] => [[c]]
          | w :: ws => (c :: w) :: ws := by
  cases t <;> rfl

/-- **The words are all there is**, but for blanks. -/
theorem flatten_words (t : Text) : (words t).flatten = t.filter (! isBlank ·) := by
  induction t with
  | nil => rfl
  | cons c t ih =>
    rw [words_cons]
    split
    · next hc => rw [ih, List.filter_cons_of_neg (by simp [hc])]
    · next hc =>
      rw [List.filter_cons_of_pos (by simp [hc]), ← ih]
      cases t with
      | nil => rfl
      | cons d t =>
        dsimp only
        split
        · rfl
        · cases words (d :: t) <;> rfl

/-- Every character that is not blank stands in a word. -/
theorem exists_mem_words {c : Char} {t : Text} (h : c ∈ t) (hc : isBlank c = false) :
    ∃ w ∈ words t, c ∈ w := by
  rw [← List.mem_flatten, flatten_words]
  exact List.mem_filter.mpr ⟨h, by simp [hc]⟩

theorem mem_of_mem_words {c : Char} {t w : Text} (hw : w ∈ words t) (hc : c ∈ w) : c ∈ t := by
  have hmem : c ∈ (words t).flatten := List.mem_flatten.mpr ⟨w, hw, hc⟩
  rw [flatten_words] at hmem
  exact (List.mem_filter.mp hmem).1

theorem isWord_of_mem_words {t w : Text} (h : w ∈ words t) : w.IsWord := by
  refine ⟨?_, fun c hc => ?_⟩
  · induction t generalizing w with
    | nil => exact absurd h List.not_mem_nil
    | cons c t ih =>
      rw [words_cons] at h
      split at h
      · exact ih h
      · split at h
        · rw [List.mem_singleton.mp h]
          exact List.cons_ne_nil _ _
        · split at h
          · rcases List.mem_cons.mp h with rfl | h
            · exact List.cons_ne_nil _ _
            · exact ih h
          · split at h
            · rw [List.mem_singleton.mp h]
              exact List.cons_ne_nil _ _
            · next w' ws hwords =>
              rcases List.mem_cons.mp h with rfl | h
              · exact List.cons_ne_nil _ _
              · refine ih ?_
                rw [hwords]
                exact List.mem_cons_of_mem w' h
  · have hmem : c ∈ (words t).flatten := List.mem_flatten.mpr ⟨w, h, hc⟩
    rw [flatten_words] at hmem
    simpa using (List.mem_filter.mp hmem).2

theorem words_cons_of_blank {c : Char} (t : Text) (h : isBlank c = true) :
    words (c :: t) = words t := by
  rw [words_cons, if_pos h]

theorem words_append_of_blankOnly {gap : Text} (t : Text) (h : isBlankOnly gap = true) :
    words (gap ++ t) = words t := by
  induction gap with
  | nil => rfl
  | cons c gap ih =>
    unfold isBlankOnly at h
    rw [List.all_cons, Bool.and_eq_true] at h
    rw [List.cons_append, words_cons_of_blank _ h.1, ih h.2]

theorem words_trimStart (t : Text) : words (trimStart t) = words t := by
  have hblank : isBlankOnly (t.takeWhile isBlank) = true :=
    List.all_eq_true.mpr fun c hc => List.mem_takeWhile_imp hc
  have hwhole : t.takeWhile isBlank ++ trimStart t = t := List.takeWhile_append_dropWhile
  rw [← words_append_of_blankOnly (trimStart t) hblank, hwhole]

theorem words_of_blankOnly {gap : Text} (h : isBlankOnly gap = true) : words gap = [] := by
  have hwords := words_append_of_blankOnly [] h
  rw [List.append_nil] at hwords
  exact hwords

theorem IsWord.words {w : Text} (h : w.IsWord) : w.words = [w] := by
  obtain ⟨hne, hblank⟩ := h
  induction w with
  | nil => exact absurd rfl hne
  | cons c w ih =>
    have hc := hblank c List.mem_cons_self
    cases w with
    | nil => rw [words_cons, if_neg (by simp [hc])]
    | cons d w =>
      have hd := hblank d (by simp)
      have hw := ih (List.cons_ne_nil d w) fun a ha => hblank a (List.mem_cons_of_mem c ha)
      rw [words_cons, if_neg (by simp [hc])]
      dsimp only
      rw [if_neg (by simp [hd]), hw]

/-- **A word and a blank are cut off the front.** -/
theorem IsWord.words_append {w : Text} (h : w.IsWord) {b : Char} (hb : isBlank b = true)
    (rest : Text) : (w ++ b :: rest).words = w :: rest.words := by
  obtain ⟨hne, hblank⟩ := h
  induction w with
  | nil => exact absurd rfl hne
  | cons c w ih =>
    have hc := hblank c List.mem_cons_self
    cases w with
    | nil =>
      show Text.words (c :: b :: rest) = [c] :: rest.words
      rw [words_cons, if_neg (by simp [hc])]
      dsimp only
      rw [if_pos hb, words_cons_of_blank rest hb]
    | cons d w =>
      have hd := hblank d (by simp)
      have hw := ih (List.cons_ne_nil d w) fun a ha => hblank a (List.mem_cons_of_mem c ha)
      show Text.words (c :: d :: (w ++ b :: rest)) = (c :: d :: w) :: rest.words
      have hw' : Text.words (d :: (w ++ b :: rest)) = (d :: w) :: rest.words := hw
      rw [words_cons, if_neg (by simp [hc])]
      dsimp only
      rw [if_neg (by simp [hd]), hw']

/-- What is blank behind a last word is dropped. -/
theorem IsWord.words_append_of_blankOnly {w : Text} (h : w.IsWord) {gap : Text}
    (hgap : isBlankOnly gap = true) : (w ++ gap).words = [w] := by
  cases gap with
  | nil => rw [List.append_nil, h.words]
  | cons b gap =>
    unfold isBlankOnly at hgap
    rw [List.all_cons, Bool.and_eq_true] at hgap
    rw [h.words_append hgap.1, words_of_blankOnly hgap.2]

/-- A word ends at the end, or in front of a blank. -/
theorem IsWord.words_append_apart {w : Text} (h : w.IsWord) {rest : Text}
    (hrest : ∀ c, rest.head? = some c → isBlank c = true) : (w ++ rest).words = w :: rest.words := by
  cases rest with
  | nil =>
    rw [List.append_nil, h.words]
    rfl
  | cons b rest =>
    have hb := hrest b rfl
    rw [h.words_append hb, words_cons_of_blank rest hb]

/-- The first word of a text that begins with a word begins with it. -/
theorem IsWord.exists_words_append {w : Text} (h : w.IsWord) (t : Text) :
    ∃ more others, Text.words (w ++ t) = (w ++ more) :: others ∧ (∀ c ∈ more, c ∈ t) ∧
      ∀ v ∈ others, ∀ c ∈ v, c ∈ t := by
  have ht := List.takeWhile_append_dropWhile (p := (! isBlank ·)) (l := t)
  have hfront : ∀ c ∈ t.takeWhile (! isBlank ·), isBlank c = false := fun c hc => by
    simpa using List.mem_takeWhile_imp hc
  have hback : ∀ c, (t.dropWhile (! isBlank ·)).head? = some c → isBlank c = true := by
    intro c hc
    have hhead := List.head?_dropWhile_not (! isBlank ·) t
    rw [hc] at hhead
    simpa using hhead
  have hword : (w ++ t.takeWhile (! isBlank ·)).IsWord := by
    refine ⟨List.append_ne_nil_of_left_ne_nil h.ne_nil _, fun c hc => ?_⟩
    rcases List.mem_append.mp hc with hc | hc
    · exact h.not_blank c hc
    · exact hfront c hc
  refine ⟨t.takeWhile (! isBlank ·), Text.words (t.dropWhile (! isBlank ·)), ?_, ?_, ?_⟩
  · rw [← hword.words_append_apart hback, List.append_assoc, ht]
  · exact fun c hc => (List.takeWhile_sublist _).subset hc
  · exact fun v hv c hc => (List.dropWhile_sublist _).subset (mem_of_mem_words hv hc)

/-- The texts one after the other, each with a space in front. -/
def spaced (ts : List Text) : Text := ts.flatMap (' ' :: ·)

theorem spaced_append (ts us : List Text) : spaced (ts ++ us) = spaced ts ++ spaced us :=
  List.flatMap_append

/-- That is one space more than with spaces in between. -/
theorem cons_join {ts : List Text} (h : ts ≠ []) : ' ' :: join [' '] ts = spaced ts := by
  induction ts with
  | nil => exact absurd rfl h
  | cons t ts ih =>
    cases ts with
    | nil => exact congrArg (' ' :: ·) (List.append_nil t).symm
    | cons u us =>
      have hrest := ih (List.cons_ne_nil u us)
      show ' ' :: (t ++ [' '] ++ join [' '] (u :: us)) = ' ' :: (t ++ spaced (u :: us))
      rw [← hrest, List.append_assoc, List.singleton_append]

theorem filter_spaced (ts : List Text) :
    (spaced ts).filter (! isBlank ·) = ts.flatten.filter (! isBlank ·) := by
  induction ts with
  | nil => rfl
  | cons t ts ih =>
    show (' ' :: (t ++ spaced ts)).filter (! isBlank ·) = _
    rw [List.filter_cons_of_neg (by decide), List.filter_append, ih, ← List.filter_append]
    rfl

/-- **Words with spaces in front come apart again.** -/
theorem words_spaced {ws : List Text} (h : ∀ w ∈ ws, w.IsWord) {gap : Text}
    (hgap : isBlankOnly gap = true) : words (spaced ws ++ gap) = ws := by
  induction ws with
  | nil => exact words_of_blankOnly hgap
  | cons w ws ih =>
    have hws : ∀ v ∈ ws, v.IsWord := fun v hv => h v (List.mem_cons_of_mem w hv)
    have hrest : ∀ c, (spaced ws ++ gap).head? = some c → isBlank c = true := by
      intro c hc
      cases ws with
      | nil => exact List.all_eq_true.mp hgap c (List.mem_of_head? hc)
      | cons v ws =>
        cases hc
        decide
    show words (' ' :: (w ++ spaced ws ++ gap)) = _
    rw [words_cons_of_blank _ (by decide), List.append_assoc,
      (h w List.mem_cons_self).words_append_apart hrest, ih hws]

/-- Words with single spaces in between come apart again. -/
theorem words_join {ws : List Text} (h : ∀ w ∈ ws, w.IsWord) : words (join [' '] ws) = ws := by
  cases ws with
  | nil => rfl
  | cons w ws =>
    rw [← words_cons_of_blank _ (c := ' ') (by decide), cons_join (List.cons_ne_nil w ws),
      ← List.append_nil (spaced _), words_spaced h rfl]

theorem mem_join {c : Char} {separator : Text} {ts : List Text} {t : Text} (ht : t ∈ ts)
    (hc : c ∈ t) : c ∈ join separator ts := by
  induction ts with
  | nil => exact absurd ht List.not_mem_nil
  | cons u ts ih =>
    cases ts with
    | nil =>
      rw [List.mem_singleton.mp ht] at hc
      exact hc
    | cons v ts =>
      show c ∈ u ++ separator ++ join separator (v :: ts)
      rcases List.mem_cons.mp ht with rfl | ht
      · exact List.mem_append_left _ (List.mem_append_left _ hc)
      · exact List.mem_append_right _ (ih ht)

/-- Leaving texts out shortens what they are joined to. -/
theorem join_sublist {ts us : List Text} (separator : Text) (h : ts.Sublist us) :
    (join separator ts).Sublist (join separator us) := by
  induction h with
  | slnil => exact .refl _
  | @cons ts us t h ih =>
    cases us with
    | nil =>
      obtain rfl := List.sublist_nil.mp h
      exact List.nil_sublist _
    | cons u us =>
      rw [join_cons_of_ne_nil _ _ (List.cons_ne_nil u us)]
      exact ih.trans (List.sublist_append_right _ _)
  | @cons_cons ts us t h ih =>
    cases us with
    | nil =>
      obtain rfl := List.sublist_nil.mp h
      exact .refl _
    | cons u us =>
      rw [join_cons_of_ne_nil _ _ (List.cons_ne_nil u us)]
      cases ts with
      | nil => exact (List.sublist_append_left _ _).trans (List.sublist_append_left _ _)
      | cons v vs =>
        rw [join_cons_of_ne_nil _ _ (List.cons_ne_nil v vs)]
        exact (List.Sublist.refl _).append ih

/-! ## Lines -/

theorem lines_cons (c : Char) (t : Text) : lines (c :: t) =
    if c = '\n' then [] :: lines t
    else match t with
      | [] => [[c]]
      | _ :: _ => extendFirst c (lines t) := by
  cases t <;> rfl

theorem lines_cons_of_ne {c : Char} (h : c ≠ '\n') (t : Text) :
    lines (c :: t) = extendFirst c (lines t) := by
  rw [lines_cons, if_neg h]
  cases t <;> rfl

theorem lines_append {t : Text} (rest : Text) (h : '\n' ∉ t) :
    lines (t ++ '\n' :: rest) = t :: lines rest := by
  induction t with
  | nil =>
    show lines ('\n' :: rest) = _
    rw [lines_cons, if_pos rfl]
  | cons c t ih =>
    have hc : ¬ c = '\n' := fun hcd => h (hcd ▸ List.mem_cons_self)
    have ht : '\n' ∉ t := fun hd => h (List.mem_cons_of_mem c hd)
    rw [List.cons_append, lines_cons_of_ne hc, ih ht]
    rfl

/-- **Lines that are ended by line feeds come apart again.** -/
theorem lines_flatMap {ls : List Text} (h : ∀ l ∈ ls, '\n' ∉ l) :
    lines (ls.flatMap fun l => l ++ ['\n']) = ls := by
  induction ls with
  | nil => rfl
  | cons l ls ih =>
    have hls : ∀ l' ∈ ls, '\n' ∉ l' := fun l' hl' => h l' (List.mem_cons_of_mem l hl')
    rw [List.flatMap_cons, List.append_assoc, List.singleton_append,
      lines_append _ (h l List.mem_cons_self), ih hls]

/-- A text and its lines. A line is ended by a line feed, the last one possibly by the end of the
    text; but then it has a character. -/
inductive Lined : Text → List Text → Prop
  | nil : Lined [] []
  | last {l : Text} (hne : l ≠ []) (h : '\n' ∉ l) : Lined l [l]
  | cons {l rest : Text} {ls : List Text} (h : '\n' ∉ l) (others : Lined rest ls) :
      Lined (l ++ '\n' :: rest) (l :: ls)

theorem lines_of_not_mem {t : Text} (hne : t ≠ []) (h : '\n' ∉ t) : lines t = [t] := by
  induction t with
  | nil => exact absurd rfl hne
  | cons c t ih =>
    have hc : ¬ c = '\n' := fun hcd => h (hcd ▸ List.mem_cons_self)
    rw [lines_cons_of_ne hc]
    cases t with
    | nil => rfl
    | cons d t =>
      rw [ih (List.cons_ne_nil d t) fun hd => h (List.mem_cons_of_mem c hd)]
      rfl

theorem lined_lines (t : Text) : Lined t (lines t) := by
  induction hk : t.length using Nat.strongRecOn generalizing t with
  | ind k ih =>
    by_cases hmem : '\n' ∈ t
    · -- up to the first line feed, and what is behind it
      obtain ⟨l, rest, rfl, hl⟩ := List.eq_append_cons_of_mem hmem
      rw [lines_append rest hl]
      refine .cons hl (ih rest.length ?_ rest rfl)
      rw [← hk, List.length_append, List.length_cons]
      omega
    · by_cases hne : t = []
      · rw [hne]
        exact .nil
      · rw [lines_of_not_mem hne hmem]
        exact .last hne hmem

/-- **A text has the lines that it comes apart into, and no others.** -/
theorem lines_eq_iff {t : Text} {ls : List Text} : lines t = ls ↔ Lined t ls := by
  constructor
  · rintro rfl
    exact lined_lines t
  · intro h
    induction h with
    | nil => rfl
    | last hne h => exact lines_of_not_mem hne h
    | cons h _ ih => rw [lines_append _ h, ih]

end LinearProgram.Text
