/-
  Text — the stretch of characters that a document, a line, a name or a number is written in.

  A text is a list of characters, so that every scanner of the library is a recursion on data.

  1. **Blanks** — `isBlank` is the white-space property of the Unicode standard together with the
     four information separators; `trim` removes blanks at both ends, `words` breaks at them.

  2. **Cuts** — `splitAt` cuts at every occurrence of one character, `splitAtPair` at every
     occurrence of two adjacent ones; `before` and `cutAt?` cut at the first occurrence only.

  3. **Lines** — `lines` breaks a text behind its line feeds and at nothing else.

  The small lemmas say what each cut keeps: a cut text, joined again with its separator, is the
  text it came from.
-/

namespace LinearProgram

/-- The characters of a document, a line, a name or a number. -/
abbrev Text := List Char

namespace Text

/-! ## Blanks -/

/-- A blank character: white space of the Unicode standard, or one of the four information
    separators (28 to 31). -/
def isBlank (c : Char) : Bool :=
  let n := c.toNat
  (9 ≤ n && n ≤ 13) || (28 ≤ n && n ≤ 32) || n == 0x85 || n == 0xA0 || n == 0x1680
    || (0x2000 ≤ n && n ≤ 0x200A) || n == 0x2028 || n == 0x2029 || n == 0x202F || n == 0x205F
    || n == 0x3000

/-- The text without the blanks it starts with. -/
def trimStart (t : Text) : Text := t.dropWhile isBlank

/-- The text without the blanks it ends with. -/
def trimEnd (t : Text) : Text := (t.reverse.dropWhile isBlank).reverse

/-- The text without the blanks at either end. -/
def trim (t : Text) : Text := trimEnd (trimStart t)

/-- No character, or none but blanks. -/
def isBlankOnly (t : Text) : Bool := t.all isBlank

/-- The maximal stretches of characters that are not blank, in order. -/
def words : Text → List Text
  | [] => []
  | c :: rest =>
    if isBlank c then words rest
    else match rest with
      | [] => [[c]]
      | d :: _ =>
        if isBlank d then [c] :: words rest
        else match words rest with
          | [] => [[c]]
          | w :: ws => (c :: w) :: ws

/-- The first word, and what follows it without the blanks in between (`none` if nothing does).
    A text of blanks has no first word. -/
def firstWord? (t : Text) : Option (Text × Option Text) :=
  let t := trimStart t
  match t.takeWhile (! isBlank ·), trimStart (t.dropWhile (! isBlank ·)) with
  | [], _ => none
  | w, [] => some (w, none)
  | w, rest => some (w, some rest)

/-! ## Cuts -/

/-- Puts a character in front of the first piece. -/
def extendFirst (c : Char) : List Text → List Text
  | [] => [[c]]
  | p :: ps => (c :: p) :: ps

/-- The pieces between the occurrences of `d`; there is one piece more than occurrences. -/
def splitAt (d : Char) : Text → List Text
  | [] => [[]]
  | c :: rest => if c = d then [] :: splitAt d rest else extendFirst c (splitAt d rest)

/-- The pieces between the occurrences of `d` directly followed by `e`, found from left to right
    without overlap. -/
def splitAtPair (d e : Char) : Text → List Text
  | [] => [[]]
  | [c] => [[c]]
  | c :: c' :: rest =>
    if c = d ∧ c' = e then [] :: splitAtPair d e rest
    else extendFirst c (splitAtPair d e (c' :: rest))

/-- Does `d`, directly followed by `e`, occur in the text? -/
def hasPair (d e : Char) : Text → Bool
  | c :: c' :: rest => (c == d && c' == e) || hasPair d e (c' :: rest)
  | _ => false

/-- What stands before the first `d`; the whole text if there is none. -/
def before (d : Char) (t : Text) : Text := t.takeWhile (· ≠ d)

/-- What stands before and behind the first `d`, if there is one. -/
def cutAt? (d : Char) : Text → Option (Text × Text)
  | [] => none
  | c :: rest =>
    if c = d then some ([], rest)
    else (cutAt? d rest).map fun (front, back) => (c :: front, back)

/-- The texts one after the other with `separator` in between. -/
def join (separator : Text) : List Text → Text
  | [] => []
  | [t] => t
  | t :: ts => t ++ separator ++ join separator ts

/-! ## Lines -/

/-- The lines of a text. A line feed ends a line and nothing else does; characters behind the last
    line feed are a line too, but a text that ends with a line feed has no further line. -/
def lines : Text → List Text
  | [] => []
  | c :: rest =>
    if c = '\n' then [] :: lines rest
    else match rest with
      | [] => [[c]]
      | _ :: _ => extendFirst c (lines rest)

/-! ## What the cuts keep -/

theorem extendFirst_ne_nil (c : Char) (ps : List Text) : extendFirst c ps ≠ [] := by
  cases ps <;> simp [extendFirst]

theorem splitAt_ne_nil (d : Char) (t : Text) : splitAt d t ≠ [] := by
  cases t with
  | nil => simp [splitAt]
  | cons c rest =>
    by_cases h : c = d
    · simp [splitAt, h]
    · simp [splitAt, h, extendFirst_ne_nil]

theorem splitAtPair_ne_nil (d e : Char) (t : Text) : splitAtPair d e t ≠ [] := by
  match t with
  | [] => simp [splitAtPair]
  | [_] => simp [splitAtPair]
  | c :: c' :: rest =>
    by_cases h : c = d ∧ c' = e
    · simp [splitAtPair, h]
    · simp [splitAtPair, h, extendFirst_ne_nil]

/-- A character put before the first piece stands before the joined pieces. -/
theorem join_extendFirst (separator : Text) (c : Char) (ps : List Text) :
    join separator (extendFirst c ps) = c :: join separator ps := by
  match ps with
  | [] => rfl
  | [_] => rfl
  | _ :: _ :: _ => rfl

theorem join_cons_of_ne_nil (separator t : Text) {ts : List Text} (h : ts ≠ []) :
    join separator (t :: ts) = t ++ separator ++ join separator ts := by
  match ts with
  | [] => exact absurd rfl h
  | _ :: _ => rfl

/-- **Cutting at a character loses nothing.** -/
theorem join_splitAt (d : Char) (t : Text) : join [d] (splitAt d t) = t := by
  induction t with
  | nil => rfl
  | cons c rest ih =>
    by_cases h : c = d
    · simp [splitAt, h, join_cons_of_ne_nil _ _ (splitAt_ne_nil d rest), ih]
    · simp [splitAt, h, join_extendFirst, ih]

/-- **Cutting at a pair of characters loses nothing.** -/
theorem join_splitAtPair (d e : Char) (t : Text) : join [d, e] (splitAtPair d e t) = t := by
  fun_induction splitAtPair d e t with
  | case1 => rfl
  | case2 => rfl
  | case3 c c' rest h ih =>
    obtain ⟨rfl, rfl⟩ := h
    simp [join_cons_of_ne_nil _ _ (splitAtPair_ne_nil _ _ rest), ih]
  | case4 c c' rest h ih => simp [join_extendFirst, ih]

/-- Dropping blanks leaves nothing exactly if there were only blanks. -/
theorem trimStart_eq_nil_iff (t : Text) : trimStart t = [] ↔ isBlankOnly t = true := by
  induction t with
  | nil => simp [trimStart, isBlankOnly]
  | cons c rest ih =>
    by_cases h : isBlank c = true
    · have hrest : trimStart (c :: rest) = trimStart rest := by simp [trimStart, h]
      rw [hrest, ih]
      simp [isBlankOnly, h]
    · simp [trimStart, isBlankOnly, h]

/-- The first character that is left is not blank. -/
theorem not_isBlank_of_trimStart {t rest : Text} {c : Char} (h : trimStart t = c :: rest) :
    isBlank c = false := by
  induction t with
  | nil => simp [trimStart] at h
  | cons a t ih =>
    by_cases ha : isBlank a = true
    · exact ih (by simpa [trimStart, List.dropWhile_cons, ha] using h)
    · simp only [trimStart, List.dropWhile_cons, ha] at h
      simp_all

/-- A text is blank exactly if `trim` empties it. -/
theorem trim_eq_nil_iff (t : Text) : trim t = [] ↔ isBlankOnly t = true := by
  rw [← trimStart_eq_nil_iff]
  constructor
  · intro h
    cases hs : trimStart t with
    | nil => rfl
    | cons c rest =>
      have hc := not_isBlank_of_trimStart hs
      have hb : isBlankOnly (c :: rest).reverse = true := by
        rw [trim, hs] at h
        rw [← trimStart_eq_nil_iff]
        simpa [trimEnd, trimStart] using h
      simp [isBlankOnly, hc] at hb
  · intro h
    simp [trim, h, trimEnd]

end Text

end LinearProgram
