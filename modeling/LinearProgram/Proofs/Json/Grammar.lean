/-
  Grammar — structured values, as other programs expect them.

  1. **Grammar** — texts between quotes, values and documents as RFC 8259 has them
     (`Json.IsDocument`).

  2. **Rendering** — the text of a value whose numbers are finite is a document
     (`Json.derives_renderAt`), by recursion on the value as it is rendered.

  3. **Bare text** — the words for what is not finite are no part of the grammar. To tell them from
     the same letters between quotes, a scan leaves out what stands between quotes: outside of it, a
     document has neither an `I` nor an `N`, and the text of a value with such a word has one of
     them. So the text of a value is a document exactly if its numbers are finite
     (`Json.isDocument_render_iff`).
-/

import LinearProgram.Proofs.Json.Number

namespace LinearProgram.Json

/-! ## Grammar -/

/-- A hexadecimal digit. -/
def isHexDigit (c : Char) : Bool :=
  c.isDigit || ('a' ≤ c && c ≤ 'f') || ('A' ≤ c && c ≤ 'F')

/-- The characters that may be escaped by themselves. -/
def escapable : List Char := ['"', '\\', '/', 'b', 'f', 'n', 'r', 't']

/-- What follows an opening quote, the closing one included. -/
inductive IsStringRest : Text → Prop where
  | close : IsStringRest ['"']
  | plain {c : Char} {t : Text} (hc : 0x20 ≤ c.toNat ∧ c ≠ '"' ∧ c ≠ '\\') (h : IsStringRest t) :
      IsStringRest (c :: t)
  | escape {c : Char} {t : Text} (hc : c ∈ escapable) (h : IsStringRest t) :
      IsStringRest ('\\' :: c :: t)
  | unit {ds t : Text} (hlength : ds.length = 4) (hds : ∀ c ∈ ds, isHexDigit c = true)
      (h : IsStringRest t) : IsStringRest ('\\' :: 'u' :: (ds ++ t))

/-- A text between quotes. -/
inductive IsString : Text → Prop where
  | quoted {t : Text} (h : IsStringRest t) : IsString ('"' :: t)

/-- What may stand around a value. -/
def IsGap (t : Text) : Prop := ∀ c ∈ t, c = ' ' ∨ c = '\t' ∨ c = '\n' ∨ c = '\r'

/-- The recursive parts of the grammar. An element is a value with gaps around it. -/
inductive Part where
  | value
  | element
  | elements
  | member
  | members

/-- The texts of each part. -/
inductive Derives : Part → Text → Prop where
  | null : Derives .value "null".toList
  | yes : Derives .value "true".toList
  | no : Derives .value "false".toList
  | number {t : Text} (h : IsNumber t) : Derives .value t
  | string {t : Text} (h : IsString t) : Derives .value t
  | emptyArray {gap : Text} (h : IsGap gap) : Derives .value ('[' :: (gap ++ [']']))
  | array {t : Text} (h : Derives .elements t) : Derives .value ('[' :: (t ++ [']']))
  | emptyObject {gap : Text} (h : IsGap gap) : Derives .value ('\x7b' :: (gap ++ ['\x7d']))
  | object {t : Text} (h : Derives .members t) : Derives .value ('\x7b' :: (t ++ ['\x7d']))
  | element {before value after : Text} (hbefore : IsGap before) (h : Derives .value value)
      (hafter : IsGap after) : Derives .element (before ++ value ++ after)
  | lastElement {t : Text} (h : Derives .element t) : Derives .elements t
  | moreElements {t rest : Text} (h : Derives .element t) (hrest : Derives .elements rest) :
      Derives .elements (t ++ ',' :: rest)
  | member {before name after t : Text} (hbefore : IsGap before) (hname : IsString name)
      (hafter : IsGap after) (h : Derives .element t) :
      Derives .member (before ++ name ++ after ++ ':' :: t)
  | lastMember {t : Text} (h : Derives .member t) : Derives .members t
  | moreMembers {t rest : Text} (h : Derives .member t) (hrest : Derives .members rest) :
      Derives .members (t ++ ',' :: rest)

/-- A document that other programs can read. -/
def IsDocument (t : Text) : Prop := Derives .element t

/-! ## Texts between quotes -/

/-- Numbers to the base sixteen are written with hexadecimal digits. -/
theorem isHexDigit_of_mem_hex {width n : Nat} {c : Char} (h : c ∈ Text.hex width n) :
    isHexDigit c = true := by
  have hall : ∀ m < 16, isHexDigit (Text.hexDigit m) = true := by decide
  induction width generalizing n with
  | zero => cases h
  | succ width ih =>
    rcases List.mem_append.mp h with h | h
    · exact ih h
    · rw [List.mem_singleton.mp h]
      exact hall _ (Nat.mod_lt n (by decide))

theorem isStringRest_unit (n : Nat) {t : Text} (h : IsStringRest t) :
    IsStringRest (unit n ++ t) :=
  .unit (Text.length_hex 4 n) (fun _ hc => isHexDigit_of_mem_hex hc) h

/-- A character is escaped where that is necessary. -/
theorem isStringRest_escaped (c : Char) {t : Text} (h : IsStringRest t) :
    IsStringRest (escaped c ++ t) := by
  unfold escaped
  dsimp only
  by_cases hquote : c = '"' ∨ c = '\\'
  · rw [if_pos hquote]
    refine .escape ?_ h
    rcases hquote with rfl | rfl <;> decide
  · rw [if_neg hquote]
    rw [not_or] at hquote
    split
    · next hplain => exact .plain ⟨hplain.1, hquote⟩ h
    · -- the control characters that have a letter, and then all others by their number
      repeat' split
      · exact .escape (by decide) h
      · exact .escape (by decide) h
      · exact .escape (by decide) h
      · exact .escape (by decide) h
      · exact .escape (by decide) h
      · exact isStringRest_unit _ h
      · rw [List.append_assoc]
        exact isStringRest_unit _ (isStringRest_unit _ h)

/-- **A quoted text is a string**, whatever it quotes. -/
theorem isString_quotedText (t : Text) : IsString (quotedText t) := by
  refine .quoted ?_
  show IsStringRest (t.flatMap escaped ++ ['"'])
  induction t with
  | nil => exact .close
  | cons c t ih =>
    rw [List.flatMap_cons, List.append_assoc]
    exact isStringRest_escaped c ih

/-! ## Rendering -/

theorem isGap_nil : IsGap [] := fun _ h => nomatch h

/-- Line feeds and spaces are all that sets members apart. -/
theorem isGap_newLine (level : Nat) : IsGap (newLine level) := by
  intro c hc
  rcases List.mem_cons.mp hc with rfl | hc
  · exact Or.inr (Or.inr (Or.inl rfl))
  · exact Or.inl (List.eq_of_mem_replicate hc)

/-- **A whole number is a number of the grammar**: it has no zeros in front. -/
theorem isNumber_integer (z : Int) : IsNumber (Decimal.integer z) := by
  have hmagnitude : IsMagnitude (Decimal.digits z.natAbs) := by
    have h := IsMagnitude.parts (Decimal.isWhole_digits z.natAbs) .absent .absent
    rw [List.append_nil, List.append_nil] at h
    exact h
  unfold Decimal.integer
  split
  · exact .negative hmagnitude
  · exact .plain hmagnitude

/-- A member is a name and a value, with gaps around them. -/
theorem derives_member (level : Nat) (name : Text) {value gap : Text}
    (h : Derives .value value) (hgap : IsGap gap) :
    Derives .member (newLine level ++ memberText name value ++ gap) := by
  have hspace : IsGap [' '] := fun c hc => Or.inl (List.mem_singleton.mp hc)
  have hmember := Derives.member (isGap_newLine level) (isString_quotedText name) isGap_nil
    (.element hspace h hgap)
  have htext : newLine level ++ memberText name value ++ gap =
      newLine level ++ quotedText name ++ [] ++ ':' :: ([' '] ++ value ++ gap) := by
    simp [memberText]
  rw [htext]
  exact hmember

mutual

/-- **A value whose numbers are finite is rendered as a value.** -/
theorem derives_renderAt (level : Nat) :
    (value : Json) → value.isFinite = true → Derives .value (renderAt level value)
  | .null, _ => .null
  | .bool true, _ => .yes
  | .bool false, _ => .no
  | .integer z, _ => .number (isNumber_integer z)
  | .number _, h => .number (isNumber_render h)
  | .text t, _ => .string (isString_quotedText t)
  | .array [], _ => .emptyArray isGap_nil
  | .array (e :: es), h => by
    unfold isFinite areFinite at h
    rw [Bool.and_eq_true] at h
    unfold renderAt
    exact .array (derives_renderElements (level + 1) es h.2 (derives_renderAt (level + 1) e h.1)
      (isGap_newLine level))
  | .object [], _ => .emptyObject isGap_nil
  | .object ((name, value) :: rest), h => by
    unfold isFinite membersAreFinite at h
    rw [Bool.and_eq_true] at h
    unfold renderAt
    exact .object (derives_renderMembers (level + 1) rest h.2 name
      (derives_renderAt (level + 1) value h.1) (isGap_newLine level))

/-- The elements behind the first one, `first`. -/
theorem derives_renderElements (level : Nat) :
    (es : List Json) → areFinite es = true → ∀ {first gap : Text}, Derives .value first →
      IsGap gap → Derives .elements (newLine level ++ first ++ renderElements level es ++ gap)
  | [], _, first, gap, hfirst, hgap => by
    unfold renderElements
    rw [List.append_nil]
    exact .lastElement (.element (isGap_newLine level) hfirst hgap)
  | e :: es, h, first, gap, hfirst, hgap => by
    unfold areFinite at h
    rw [Bool.and_eq_true] at h
    have hrest := derives_renderElements level es h.2 (derives_renderAt level e h.1) hgap
    have hfirst' := Derives.element (isGap_newLine level) hfirst isGap_nil
    rw [List.append_nil] at hfirst'
    unfold renderElements
    rw [List.append_assoc]
    exact .moreElements hfirst' hrest

/-- The members behind the first one. -/
theorem derives_renderMembers (level : Nat) :
    (ms : List (Text × Json)) → membersAreFinite ms = true → ∀ (name : Text) {first gap : Text},
      Derives .value first → IsGap gap →
      Derives .members (newLine level ++ memberText name first ++ renderMembers level ms ++ gap)
  | [], _, name, first, gap, hfirst, hgap => by
    unfold renderMembers
    rw [List.append_nil]
    exact .lastMember (derives_member level name hfirst hgap)
  | (name', value) :: ms, h, name, first, gap, hfirst, hgap => by
    unfold membersAreFinite at h
    rw [Bool.and_eq_true] at h
    have hrest := derives_renderMembers level ms h.2 name' (derives_renderAt level value h.1) hgap
    have hfirst' := derives_member level name hfirst isGap_nil
    rw [List.append_nil] at hfirst'
    unfold renderMembers
    rw [List.append_assoc]
    exact .moreMembers hfirst' hrest

end

/-! ## Bare text -/

/-- Where a scan for texts between quotes stands. -/
inductive Stand where
  | outside
  | inside
  | escaping
deriving DecidableEq

namespace Stand

/-- Where the scan stands behind a character. -/
def next : Stand → Char → Stand
  | outside, c => if c = '"' then inside else outside
  | inside, c => if c = '"' then outside else if c = '\\' then escaping else inside
  | escaping, _ => inside

/-- What stands outside of quotes. -/
def bare : Stand → Text → Text
  | _, [] => []
  | s, c :: t => (if s = outside ∧ c ≠ '"' then [c] else []) ++ bare (s.next c) t

/-- What is shown bare of two texts is shown one after the other, the second from where the first
    one stands. -/
theorem bare_append (s : Stand) (t u : Text) :
    s.bare (t ++ u) = s.bare t ++ Stand.bare (t.foldl next s) u := by
  induction t generalizing s with
  | nil => rfl
  | cons c t ih => rw [List.cons_append, bare, bare, ih, List.append_assoc, List.foldl_cons]

/-- Neither a quote nor a backslash: the scan stays between the quotes. -/
theorem inside_of_plain {t : Text} (h : ∀ c ∈ t, c ≠ '"' ∧ c ≠ '\\') :
    t.foldl next inside = inside ∧ inside.bare t = [] := by
  induction t with
  | nil => exact ⟨rfl, rfl⟩
  | cons c t ih =>
    obtain ⟨hquote, hslash⟩ := h c List.mem_cons_self
    have hnext : inside.next c = inside := by rw [next, if_neg hquote, if_neg hslash]
    obtain ⟨hstays, hbare⟩ := ih fun d hd => h d (List.mem_cons_of_mem c hd)
    constructor
    · rw [List.foldl_cons, hnext, hstays]
    · rw [bare, hnext, if_neg nofun, hbare]
      rfl

end Stand

/-- One of the letters that the words for what is not finite begin with. -/
def isInitial (c : Char) : Bool := c == 'I' || c == 'N'

/-- Behind the text no quote is open, and `b` tells whether one of these letters stands outside of
    quotes in it. -/
structure Reveals (t : Text) (b : Bool) : Prop where
  closed : t.foldl Stand.next .outside = .outside
  bare : (Stand.outside.bare t).any isInitial = b

/-- Texts behind which no quote is open may be put one behind the other. -/
theorem Reveals.append {t t' : Text} {b b' : Bool} (h : Reveals t b) (h' : Reveals t' b') :
    Reveals (t ++ t') (b || b') := by
  constructor
  · rw [List.foldl_append, h.closed, h'.closed]
  · rw [Stand.bare_append, h.closed, List.any_append, h.bare, h'.bare]

/-- Behind a text that has none of the letters, a text reveals what it did. -/
theorem Reveals.behind {before t : Text} {b : Bool} (h : Reveals t b)
    (hbefore : Reveals before false) : Reveals (before ++ t) b := by
  have hall := hbefore.append h
  rw [Bool.false_or] at hall
  exact hall

theorem Reveals.inFront {t after : Text} {b : Bool} (h : Reveals t b)
    (hafter : Reveals after false) : Reveals (t ++ after) b := by
  have hall := h.append hafter
  rw [Bool.or_false] at hall
  exact hall

theorem Reveals.between {before t after : Text} {b : Bool} (h : Reveals t b)
    (hbefore : Reveals before false) (hafter : Reveals after false) :
    Reveals (before ++ t ++ after) b :=
  (h.behind hbefore).inFront hafter

/-- Without a quote all of a text is outside of quotes. -/
theorem reveals_of_not_mem {t : Text} (h : '"' ∉ t) : Reveals t (t.any isInitial) := by
  induction t with
  | nil => exact ⟨rfl, rfl⟩
  | cons c t ih =>
    rw [List.mem_cons, not_or] at h
    obtain ⟨hclosed, hbare⟩ := ih h.2
    have hnext : Stand.outside.next c = .outside := if_neg (Ne.symm h.1)
    constructor
    · rw [List.foldl_cons, hnext, hclosed]
    · rw [Stand.bare, hnext, if_pos ⟨rfl, Ne.symm h.1⟩, List.any_append, hbare, ← List.any_append]
      rfl

/-- Neither a quote nor one of the letters. -/
def isPlain (c : Char) : Bool := c != '"' && !isInitial c

theorem reveals_of_plain {t : Text} (h : t.all isPlain = true) : Reveals t false := by
  rw [List.all_eq_true] at h
  have hquote : '"' ∉ t := fun hmem => absurd (h _ hmem) (by decide)
  have hinitial : t.any isInitial = false := by
    rw [List.any_eq_false]
    intro c hc
    have hplain := h c hc
    unfold isPlain at hplain
    rw [Bool.and_eq_true, Bool.not_eq_true'] at hplain
    rw [hplain.2]
    exact Bool.false_ne_true
  have hreveals := reveals_of_not_mem hquote
  rw [hinitial] at hreveals
  exact hreveals

theorem reveals_singleton {c : Char} (hc : isPlain c = true) : Reveals [c] false :=
  reveals_of_plain (by rw [List.all_cons, hc]; rfl)

theorem Reveals.cons {t : Text} {b : Bool} (h : Reveals t b) {c : Char} (hc : isPlain c = true) :
    Reveals (c :: t) b :=
  h.behind (reveals_singleton hc)

/-! ### Texts of the grammar -/

theorem plain_of_isHexDigit {c : Char} (h : isHexDigit c = true) : c ≠ '"' ∧ c ≠ '\\' := by
  constructor
  · rintro rfl
    exact absurd h (by decide)
  · rintro rfl
    exact absurd h (by decide)

/-- What keeps the scan between the quotes may stand in front. -/
theorem Stand.closes_append {front rest : Text}
    (hfront : front.foldl next inside = inside ∧ inside.bare front = [])
    (hrest : rest.foldl next inside = outside ∧ inside.bare rest = []) :
    (front ++ rest).foldl next inside = outside ∧ inside.bare (front ++ rest) = [] := by
  rw [List.foldl_append, bare_append, hfront.1, hrest.1, hfront.2, hrest.2]
  exact ⟨rfl, rfl⟩

/-- **The rest of a string ends the string**, and shows nothing outside of it. -/
theorem Stand.closes_of_isStringRest {t : Text} (h : IsStringRest t) :
    t.foldl next inside = outside ∧ inside.bare t = [] := by
  induction h with
  | close => exact ⟨rfl, rfl⟩
  | plain hc _ ih => exact closes_append (inside_of_plain (List.forall_mem_singleton.mpr hc.2)) ih
  | @escape c _ _ _ ih =>
    have hfront : ['\\', c].foldl next inside = inside ∧ inside.bare ['\\', c] = [] := ⟨rfl, rfl⟩
    exact closes_append hfront ih
  | unit _ hds _ ih =>
    have hfront : ['\\', 'u'].foldl next inside = inside ∧ inside.bare ['\\', 'u'] = [] :=
      ⟨rfl, rfl⟩
    have hdigits := inside_of_plain fun c hc => plain_of_isHexDigit (hds c hc)
    have hclosed := closes_append hfront (closes_append hdigits ih)
    exact hclosed

/-- What stands between quotes does not show. -/
theorem reveals_string {t : Text} (h : IsString t) : Reveals t false := by
  obtain ⟨hrest⟩ := h
  obtain ⟨hclosed, hbare⟩ := Stand.closes_of_isStringRest hrest
  refine ⟨hclosed, ?_⟩
  show (Stand.inside.bare _).any isInitial = false
  rw [hbare]
  rfl

theorem reveals_gap {t : Text} (h : IsGap t) : Reveals t false := by
  refine reveals_of_plain (List.all_eq_true.mpr fun c hc => ?_)
  rcases h c hc with rfl | rfl | rfl | rfl <;> rfl

theorem reveals_digits {t : Text} (h : AreDigits t) : Reveals t false := by
  refine reveals_of_plain (List.all_eq_true.mpr fun c hc => ?_)
  have hdigit := h.2 c hc
  have hne : ∀ d : Char, d.isDigit = false → c ≠ d := by
    rintro d hd rfl
    rw [hd] at hdigit
    cases hdigit
  simp [isPlain, isInitial, hne '"' rfl, hne 'I' rfl, hne 'N' rfl]

theorem reveals_magnitude {t : Text} (h : IsMagnitude t) : Reveals t false := by
  obtain ⟨hwhole, hfraction, hexponent⟩ := h
  refine Reveals.between ?_ ?_ ?_
  · cases hfraction with
    | absent => exact reveals_of_plain rfl
    | digits hds => exact (reveals_digits hds).cons rfl
  · cases hwhole with
    | zero => exact reveals_of_plain rfl
    | digits _ hds => exact reveals_digits hds
  · cases hexponent with
    | absent => exact reveals_of_plain rfl
    | digits hmark hsign hds =>
      refine Reveals.cons (Reveals.behind (reveals_digits hds) ?_) ?_
      · rcases hsign with rfl | rfl | rfl <;> exact reveals_of_plain rfl
      · rcases hmark with rfl | rfl <;> rfl

/-- A number of the grammar has none of the letters. -/
theorem reveals_number {t : Text} (h : IsNumber t) : Reveals t false := by
  cases h with
  | plain h => exact reveals_magnitude h
  | negative h => exact (reveals_magnitude h).cons rfl

theorem reveals_comma {t rest : Text} {b b' : Bool} (h : Reveals t b) (hrest : Reveals rest b') :
    Reveals (t ++ ',' :: rest) (b || b') :=
  h.append (hrest.cons rfl)

/-- Brackets around a text do not show. -/
theorem Reveals.bracketed {t : Text} {b : Bool} (h : Reveals t b) {opening closing : Char}
    (hopening : isPlain opening = true) (hclosing : isPlain closing = true) :
    Reveals (opening :: (t ++ [closing])) b :=
  h.between (reveals_singleton hopening) (reveals_singleton hclosing)

/-- **No part of a document has one of the letters outside of quotes.** -/
theorem reveals_of_derives {part : Part} {t : Text} (h : Derives part t) : Reveals t false := by
  induction h with
  | null => exact reveals_of_plain rfl
  | yes => exact reveals_of_plain rfl
  | no => exact reveals_of_plain rfl
  | number h => exact reveals_number h
  | string h => exact reveals_string h
  | emptyArray h => exact (reveals_gap h).bracketed rfl rfl
  | array _ ih => exact ih.bracketed rfl rfl
  | emptyObject h => exact (reveals_gap h).bracketed rfl rfl
  | object _ ih => exact ih.bracketed rfl rfl
  | element hbefore _ hafter ih => exact ih.between (reveals_gap hbefore) (reveals_gap hafter)
  | lastElement _ ih => exact ih
  | moreElements _ _ ih ihrest => exact reveals_comma ih ihrest
  | member hbefore hname hafter _ ih =>
    have hfront := (reveals_string hname).between (reveals_gap hbefore) (reveals_gap hafter)
    exact (ih.cons rfl).behind hfront
  | lastMember _ ih => exact ih
  | moreMembers _ _ ih ihrest => exact reveals_comma ih ihrest

/-! ### Rendered values -/

/-- **A number that is laid out has one of the letters exactly if it is not finite.** -/
theorem reveals_numberLayout (x : Float) : Reveals (numberLayout.render x) (!x.isFinite) := by
  cases hfinite : x.isFinite with
  | true => exact reveals_number (isNumber_render hfinite)
  | false =>
    rw [Binary64.isFinite_eq, Bool.not_eq_false', Bool.or_eq_true] at hfinite
    unfold Decimal.Layout.render
    by_cases hnan : x.isNaN = true
    · rw [if_pos hnan]
      exact reveals_of_not_mem (t := "NaN".toList) (by decide)
    · have hword : Reveals "Infinity".toList true := reveals_of_not_mem (by decide)
      rw [if_neg hnan, if_pos (hfinite.resolve_left hnan)]
      dsimp only
      split
      · exact hword.cons rfl
      · exact hword

theorem Reveals.onNewLine {t : Text} {b : Bool} (h : Reveals t b) (level : Nat) :
    Reveals (newLine level ++ t) b :=
  h.behind (reveals_gap (isGap_newLine level))

theorem Reveals.closedBy {t : Text} {b : Bool} (h : Reveals t b) (level : Nat) {closing : Char}
    (hclosing : isPlain closing = true) :
    Reveals (t ++ newLine level ++ [closing]) b :=
  (h.inFront (reveals_gap (isGap_newLine level))).inFront (reveals_singleton hclosing)

/-- The name of a member is a string, and its value reveals what it reveals. -/
theorem reveals_memberText (name : Text) {value : Text} {b : Bool} (h : Reveals value b) :
    Reveals (memberText name value) b := by
  have hname := reveals_string (isString_quotedText name)
  have hcolon : Reveals ": ".toList false := reveals_of_plain rfl
  exact h.behind (hname.inFront hcolon)

mutual

/-- **The text of a value shows whether all its numbers are finite.** -/
theorem reveals_renderAt (level : Nat) :
    (value : Json) → Reveals (renderAt level value) (!value.isFinite)
  | .null => reveals_of_derives .null
  | .bool true => reveals_of_derives .yes
  | .bool false => reveals_of_derives .no
  | .integer z => reveals_number (isNumber_integer z)
  | .number x => reveals_numberLayout x
  | .text t => reveals_string (isString_quotedText t)
  | .array [] => reveals_of_derives (.emptyArray isGap_nil)
  | .array (e :: es) => by
    have hfirst := (reveals_renderAt (level + 1) e).onNewLine (level + 1)
    have hall := hfirst.append (reveals_renderElements (level + 1) es)
    unfold renderAt isFinite areFinite
    rw [Bool.not_and]
    exact (hall.cons rfl).closedBy level rfl
  | .object [] => reveals_of_derives (.emptyObject isGap_nil)
  | .object ((name, value) :: rest) => by
    have hfirst := (reveals_memberText name (reveals_renderAt (level + 1) value)).onNewLine
      (level + 1)
    have hall := hfirst.append (reveals_renderMembers (level + 1) rest)
    unfold renderAt isFinite membersAreFinite
    rw [Bool.not_and]
    exact (hall.cons rfl).closedBy level rfl

theorem reveals_renderElements (level : Nat) :
    (es : List Json) → Reveals (renderElements level es) (!areFinite es)
  | [] => reveals_of_plain rfl
  | e :: es => by
    have hfirst := (reveals_renderAt level e).onNewLine level
    unfold renderElements areFinite
    rw [Bool.not_and]
    exact (hfirst.append (reveals_renderElements level es)).cons rfl

theorem reveals_renderMembers (level : Nat) :
    (ms : List (Text × Json)) → Reveals (renderMembers level ms) (!membersAreFinite ms)
  | [] => reveals_of_plain rfl
  | (name, value) :: rest => by
    have hfirst := (reveals_memberText name (reveals_renderAt level value)).onNewLine level
    unfold renderMembers membersAreFinite
    rw [Bool.not_and]
    exact (hfirst.append (reveals_renderMembers level rest)).cons rfl

end

/-- **The text of a value is a document exactly if its numbers are finite**, whatever gap stands
    behind it. -/
theorem isDocument_render_iff (value : Json) {gap : Text} (hgap : IsGap gap) :
    IsDocument (value.render ++ gap) ↔ value.isFinite = true := by
  constructor
  · intro h
    have hdocument := (reveals_of_derives h).bare
    have hrendered := ((reveals_renderAt 0 value).inFront (reveals_gap hgap)).bare
    exact Bool.not_eq_eq_eq_not.mp (hrendered.symm.trans hdocument)
  · intro h
    exact .element isGap_nil (derives_renderAt 0 value h) hgap

end LinearProgram.Json
