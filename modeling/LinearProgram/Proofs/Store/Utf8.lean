/-
  Utf8 — decoding what was encoded.

  1. **Characters** — the first octet of an encoded character announces the octets that follow it,
     and all together spell the number of the character (`exists_spell`). So the character is decoded
     whatever follows, and a part of it is left pending.

  2. **Stretches** — a stretch from the start of an encoded text is decoded up to its last whole
     character. The octets that are left belong to the next character (`decodeFrom_encode`).

  3. **Blocks** — in whatever blocks the octets are read, what is pending from one block is completed
     by the next ones, so that the text comes out again (`read_encode`).
-/

import LinearProgram.Store.Utf8
import Mathlib.Data.List.Forall2

namespace LinearProgram.Utf8

/-- The octets that encode a text. -/
def encode (t : Text) : Octets := t.flatMap String.utf8EncodeChar

/-! ## Characters -/

/-- The number that has been read of a character, with further octets of it. -/
def valueWith (value : Nat) (octets : Octets) : Nat :=
  octets.foldl (fun value octet => 64 * value + (octet.toNat - 0x80)) value

theorem valueWith_cons (value : Nat) (octet : UInt8) (octets : Octets) :
    valueWith value (octet :: octets) =
      valueWith (64 * value + (octet.toNat - 0x80)) octets := by
  unfold valueWith
  rw [List.foldl_cons]

/-- Each octet lies in its range. -/
def Continue (ranges : List OctetRange) (octets : Octets) : Prop :=
  List.Forall₂ (fun range octet => OctetRange.holds range octet = true) ranges octets

theorem toNat_ofNat {n : Nat} (h : n < 256) : (UInt8.ofNat n).toNat = n := by
  rw [UInt8.toNat_ofNat']
  exact Nat.mod_eq_of_lt h

theorem holds_ofNat {range : OctetRange} {n : Nat} (h : n < 256) (hlow : range.1 ≤ n)
    (hhigh : n ≤ range.2) : range.holds (UInt8.ofNat n) = true := by
  unfold OctetRange.holds
  rw [toNat_ofNat h, Bool.and_eq_true, decide_eq_true_eq, decide_eq_true_eq]
  exact ⟨hlow, hhigh⟩

/-- An octet that carries six bits of a number. -/
theorem tail_holds (n : Nat) : tail.holds (UInt8.ofNat (n % 64 + 0x80)) = true :=
  holds_ofNat (by omega) (Nat.le_add_left _ _) (by show _ ≤ 0xBF; omega)

/-- A first octet announces the octets behind it, and all together make up a number. -/
def Spell (n : Nat) (first : UInt8) (later : Octets) : Prop :=
  ∃ value ranges, announced? first = some (value, ranges) ∧ Continue ranges later ∧
    valueWith value later = n

theorem spell_one {n : Nat} (h : n < 0x80) : Spell n (UInt8.ofNat n) [] := by
  refine ⟨n, [], ?_, .nil, rfl⟩
  unfold announced?
  rw [toNat_ofNat (by omega), if_pos h]

theorem spell_two {n : Nat} (hlow : 0x80 ≤ n) (hhigh : n < 0x800) :
    Spell n (UInt8.ofNat (n / 64 + 0xC0)) [UInt8.ofNat (n % 64 + 0x80)] := by
  refine ⟨n / 64, [tail], ?_, .cons (tail_holds n) .nil, ?_⟩
  · unfold announced?
    rw [toNat_ofNat (by omega), if_neg (by omega), if_neg (by omega), if_pos (by omega),
      Nat.add_sub_cancel]
  · rw [valueWith_cons, toNat_ofNat (by omega)]
    show 64 * (n / 64) + (n % 64 + 0x80 - 0x80) = n
    omega

/-- Of three octets the second has a range of its own in front of overlong forms and of
    surrogates. -/
theorem spell_three {n : Nat} (hlow : 0x800 ≤ n) (hhigh : n < 0x10000)
    (hvalid : n < 0xD800 ∨ 0xDFFF < n) :
    Spell n (UInt8.ofNat (n / 4096 + 0xE0))
      [UInt8.ofNat (n / 64 % 64 + 0x80), UInt8.ofNat (n % 64 + 0x80)] := by
  have hvalue : valueWith (n / 4096)
      [UInt8.ofNat (n / 64 % 64 + 0x80), UInt8.ofNat (n % 64 + 0x80)] = n := by
    rw [valueWith_cons, valueWith_cons, toNat_ofNat (by omega), toNat_ofNat (by omega)]
    show 64 * (64 * (n / 4096) + (n / 64 % 64 + 0x80 - 0x80)) + (n % 64 + 0x80 - 0x80) = n
    omega
  have hfirst : (UInt8.ofNat (n / 4096 + 0xE0)).toNat = n / 4096 + 0xE0 := toNat_ofNat (by omega)
  have hlast : Continue [tail] [UInt8.ofNat (n % 64 + 0x80)] := .cons (tail_holds n) .nil
  by_cases hshort : n / 4096 = 0
  · rw [hshort] at hvalue
    refine ⟨0, [(0xA0, 0xBF), tail], ?_, .cons ?_ hlast, hvalue⟩
    · unfold announced?
      rw [hfirst, if_neg (by omega), if_neg (by omega), if_neg (by omega), if_pos (by omega)]
    · exact holds_ofNat (by omega) (by show 0xA0 ≤ _; omega) (by show _ ≤ 0xBF; omega)
  by_cases hsurrogates : n / 4096 = 0xD
  · rw [hsurrogates] at hvalue
    refine ⟨0xD, [(0x80, 0x9F), tail], ?_, .cons ?_ hlast, hvalue⟩
    · unfold announced?
      rw [hfirst, if_neg (by omega), if_neg (by omega), if_neg (by omega), if_neg (by omega),
        if_pos (by omega)]
    · exact holds_ofNat (by omega) (Nat.le_add_left _ _) (by show _ ≤ 0x9F; omega)
  · refine ⟨n / 4096, [tail, tail], ?_, .cons (tail_holds (n / 64)) hlast, hvalue⟩
    unfold announced?
    rw [hfirst, if_neg (by omega), if_neg (by omega), if_neg (by omega), if_neg (by omega),
      if_neg (by omega), if_pos (by omega), Nat.add_sub_cancel]

/-- Of four octets the second has a range of its own in front of overlong forms and of numbers that
    are too large. -/
theorem spell_four {n : Nat} (hlow : 0x10000 ≤ n) (hhigh : n < 0x110000) :
    Spell n (UInt8.ofNat (n / 262144 + 0xF0))
      [UInt8.ofNat (n / 4096 % 64 + 0x80), UInt8.ofNat (n / 64 % 64 + 0x80),
        UInt8.ofNat (n % 64 + 0x80)] := by
  have hvalue : valueWith (n / 262144)
      [UInt8.ofNat (n / 4096 % 64 + 0x80), UInt8.ofNat (n / 64 % 64 + 0x80),
        UInt8.ofNat (n % 64 + 0x80)] = n := by
    rw [valueWith_cons, valueWith_cons, valueWith_cons, toNat_ofNat (by omega),
      toNat_ofNat (by omega), toNat_ofNat (by omega)]
    show 64 * (64 * (64 * (n / 262144) + (n / 4096 % 64 + 0x80 - 0x80)) +
      (n / 64 % 64 + 0x80 - 0x80)) + (n % 64 + 0x80 - 0x80) = n
    omega
  have hfirst : (UInt8.ofNat (n / 262144 + 0xF0)).toNat = n / 262144 + 0xF0 :=
    toNat_ofNat (by omega)
  have hlast : Continue [tail, tail]
      [UInt8.ofNat (n / 64 % 64 + 0x80), UInt8.ofNat (n % 64 + 0x80)] :=
    .cons (tail_holds (n / 64)) (.cons (tail_holds n) .nil)
  by_cases hshort : n / 262144 = 0
  · rw [hshort] at hvalue
    refine ⟨0, [(0x90, 0xBF), tail, tail], ?_, .cons ?_ hlast, hvalue⟩
    · unfold announced?
      rw [hfirst, if_neg (by omega), if_neg (by omega), if_neg (by omega), if_neg (by omega),
        if_neg (by omega), if_neg (by omega), if_pos (by omega)]
    · exact holds_ofNat (by omega) (by show 0x90 ≤ _; omega) (by show _ ≤ 0xBF; omega)
  by_cases hlarge : n / 262144 = 4
  · rw [hlarge] at hvalue
    refine ⟨4, [(0x80, 0x8F), tail, tail], ?_, .cons ?_ hlast, hvalue⟩
    · unfold announced?
      rw [hfirst, if_neg (by omega), if_neg (by omega), if_neg (by omega), if_neg (by omega),
        if_neg (by omega), if_neg (by omega), if_neg (by omega), if_neg (by omega),
        if_pos (by omega)]
    · exact holds_ofNat (by omega) (Nat.le_add_left _ _) (by show _ ≤ 0x8F; omega)
  · refine ⟨n / 262144, [tail, tail, tail], ?_, .cons (tail_holds (n / 4096)) hlast, hvalue⟩
    unfold announced?
    rw [hfirst, if_neg (by omega), if_neg (by omega), if_neg (by omega), if_neg (by omega),
      if_neg (by omega), if_neg (by omega), if_neg (by omega), if_pos (by omega),
      Nat.add_sub_cancel]

/-- **The octets of a character spell its number.** -/
theorem exists_spell (c : Char) :
    ∃ first later, String.utf8EncodeChar c = first :: later ∧ Spell c.toNat first later := by
  have hvalid : c.toNat < 0xD800 ∨ (0xDFFF < c.toNat ∧ c.toNat < 0x110000) := c.valid
  unfold String.utf8EncodeChar
  rw [show c.val.toNat = c.toNat from rfl]
  generalize c.toNat = n at hvalid
  -- the first octet carries the rest of the number, which is smaller than the encoder allows for
  have hfirst : ∀ m k offset : Nat, m < k → UInt8.ofNat (m % k + offset) = UInt8.ofNat (m + offset) :=
    fun m k offset h => by rw [Nat.mod_eq_of_lt h]
  dsimp only
  by_cases h₁ : n ≤ 0x7F
  · rw [if_pos h₁]
    exact ⟨_, _, rfl, spell_one (by omega)⟩
  by_cases h₂ : n ≤ 0x7FF
  · rw [if_neg h₁, if_pos h₂, hfirst _ _ _ (by omega)]
    exact ⟨_, _, rfl, spell_two (by omega) (by omega)⟩
  by_cases h₃ : n ≤ 0xFFFF
  · rw [if_neg h₁, if_neg h₂, if_pos h₃, hfirst _ _ _ (by omega)]
    exact ⟨_, _, rfl, spell_three (by omega) (by omega) (by omega)⟩
  · rw [if_neg h₁, if_neg h₂, if_neg h₃, hfirst _ _ _ (by omega)]
    exact ⟨_, _, rfl, spell_four (by omega) (by omega)⟩

/-- The octets that a character is owed complete it. -/
theorem decodeFrom_continue {next : OctetRange} {later : List OctetRange} {octets : Octets}
    (h : Continue (next :: later) octets) (position value : Nat) (begun rest : Octets) :
    decodeFrom position (some ⟨begun, value, next, later⟩) (octets ++ rest) =
      (decodeFrom (position + begun.length + octets.length) none rest).push
        (Char.ofNat (valueWith value octets)) := by
  induction later generalizing next octets value begun with
  | nil =>
    cases h with
    | @cons _ octet _ octets hoctet hnil =>
      cases hnil
      rw [List.singleton_append, decodeFrom]
      dsimp only
      rw [if_pos hoctet, List.length_append, List.length_singleton, Nat.add_assoc]
      rfl
  | cons next' later ih =>
    cases h with
    | @cons _ octet _ octets hoctet hrest =>
      have hlength : position + (begun ++ [octet]).length + octets.length =
          position + begun.length + (octet :: octets).length := by
        rw [List.length_append, List.length_singleton, List.length_cons]
        omega
      rw [List.cons_append, decodeFrom]
      dsimp only
      rw [if_pos hoctet, ih hrest, hlength, valueWith_cons]

/-- As long as octets are owed, those that are there are left pending. -/
theorem decodeFrom_pending {next : OctetRange} {later : List OctetRange} {octets owed : Octets}
    (h : Continue (next :: later) (octets ++ owed)) (howed : owed ≠ [])
    (position value : Nat) (begun : Octets) :
    decodeFrom position (some ⟨begun, value, next, later⟩) octets =
      { pending := begun ++ octets } := by
  induction octets generalizing next later value begun with
  | nil =>
    rw [List.append_nil]
    rfl
  | cons octet octets ih =>
    cases h with
    | cons hoctet hrest =>
      cases later with
      | nil =>
        -- the last octet that is owed is there
        have hnil : octets ++ owed = [] := List.forall₂_nil_left_iff.mp hrest
        exact absurd (List.append_eq_nil_iff.mp hnil).2 howed
      | cons next' later =>
        rw [decodeFrom]
        dsimp only
        rw [if_pos hoctet, ih hrest, List.append_assoc]
        rfl

/-- **A character's octets are decoded to the character**, whatever follows. -/
theorem decodeFrom_encodeChar (c : Char) (position : Nat) (rest : Octets) :
    decodeFrom position none (String.utf8EncodeChar c ++ rest) =
      (decodeFrom (position + (String.utf8EncodeChar c).length) none rest).push c := by
  obtain ⟨first, later, hencode, value, ranges, hannounced, hcontinue, hvalue⟩ := exists_spell c
  rw [hencode, List.cons_append, decodeFrom, hannounced]
  cases ranges with
  | nil =>
    cases hcontinue
    rw [← Char.ofNat_toNat c, ← hvalue]
    rfl
  | cons next ranges =>
    dsimp only
    rw [decodeFrom_continue hcontinue, hvalue, Char.ofNat_toNat, List.length_singleton,
      List.length_cons, Nat.add_assoc, Nat.add_comm 1]

/-- A part of a character's octets is left pending. -/
theorem decodeFrom_partOfChar {c : Char} {octets owed : Octets}
    (h : String.utf8EncodeChar c = octets ++ owed) (howed : owed ≠ []) (position : Nat) :
    decodeFrom position none octets = { pending := octets } := by
  obtain ⟨first, later, hencode, value, ranges, hannounced, hcontinue, -⟩ := exists_spell c
  cases octets with
  | nil => rfl
  | cons octet octets =>
    rw [hencode, List.cons_append] at h
    obtain ⟨rfl, rfl⟩ := List.cons.inj h
    rw [decodeFrom, hannounced]
    cases ranges with
    | nil =>
      have hnil : octets ++ owed = [] := List.forall₂_nil_left_iff.mp hcontinue
      exact absurd (List.append_eq_nil_iff.mp hnil).2 howed
    | cons next ranges => exact decodeFrom_pending hcontinue howed position value [first]

/-! ## Stretches -/

/-- The octets are fewer than the first character of the text takes. -/
def StartsIn (octets : Octets) (t : Text) : Prop :=
  ∀ c rest, t = c :: rest → octets.length < (String.utf8EncodeChar c).length

theorem encode_cons (c : Char) (t : Text) :
    encode (c :: t) = String.utf8EncodeChar c ++ encode t := rfl

/-- **The start of an encoded text** is decoded up to its last whole character; what is left is the
    start of the next one. -/
theorem decodeFrom_encode {t : Text} {octets rest : Octets} (h : encode t = octets ++ rest)
    (position : Nat) :
    ∃ front back pending, t = front ++ back ∧
      decodeFrom position none octets = { text := front, pending } ∧
      encode back = pending ++ rest ∧ StartsIn pending back := by
  induction t generalizing octets position with
  | nil =>
    obtain ⟨rfl, rfl⟩ := List.append_eq_nil_iff.mp h.symm
    exact ⟨[], [], [], rfl, rfl, rfl, nofun⟩
  | cons c t ih =>
    have hchar : ∀ octets', octets = String.utf8EncodeChar c ++ octets' →
        encode t = octets' ++ rest → ∃ front back pending, c :: t = front ++ back ∧
          decodeFrom position none octets = { text := front, pending } ∧
          encode back = pending ++ rest ∧ StartsIn pending back := by
      rintro octets' rfl htail
      obtain ⟨front, back, pending, rfl, hdecode, hback, hstarts⟩ :=
        ih htail (position + (String.utf8EncodeChar c).length)
      refine ⟨c :: front, back, pending, rfl, ?_, hback, hstarts⟩
      rw [decodeFrom_encodeChar, hdecode]
      rfl
    rw [encode_cons] at h
    rcases List.append_eq_append_iff.mp h with ⟨octets', hoctets, htail⟩ | ⟨owed, hencode, hrest⟩
    · exact hchar octets' hoctets htail
    · by_cases howed : owed = []
      · subst howed
        rw [List.append_nil] at hencode
        exact hchar [] (by rw [List.append_nil, hencode]) hrest.symm
      · refine ⟨[], c :: t, octets, rfl, decodeFrom_partOfChar hencode howed position, ?_, ?_⟩
        · rw [encode_cons, hencode, hrest, List.append_assoc]
        · rintro c' rest' heq
          obtain ⟨rfl, -⟩ := List.cons.inj heq
          have hpos := List.length_pos_iff.mpr howed
          rw [hencode, List.length_append]
          omega

/-! ## Blocks -/

theorem flatten_blocks (octets : Octets) : (blocks octets).flatten = octets := by
  fun_induction blocks octets with
  | case1 octets h => exact List.append_nil octets
  | case2 octets h ih => rw [List.flatten_cons, ih, List.take_append_drop]

/-- What is pending is completed by the blocks that follow. -/
theorem decodeBlocks_encode {t : Text} {pending : Octets} {blocks : List Octets}
    (h : encode t = pending ++ blocks.flatten) (hstarts : StartsIn pending t) :
    decodeBlocks pending blocks = (t, none) := by
  induction blocks generalizing t pending with
  | nil =>
    rw [List.flatten_nil, List.append_nil] at h
    cases t with
    | nil =>
      subst h
      rfl
    | cons c t =>
      -- no part of a character is a whole text
      have hlength := hstarts c t rfl
      rw [← h, encode_cons, List.length_append] at hlength
      omega
  | cons block blocks ih =>
    rw [List.flatten_cons, ← List.append_assoc] at h
    obtain ⟨front, back, pending', rfl, hdecode, hback, hstarts'⟩ := decodeFrom_encode h 0
    have hrest := ih hback hstarts'
    rw [decodeBlocks, decode, hdecode]
    dsimp only
    rw [hrest]

/-- **Reading gives back the text that was encoded.** -/
theorem read_encode (t : Text) : read (encode t) = (t, none) := by
  refine decodeBlocks_encode ?_ fun c rest _ => ?_
  · rw [flatten_blocks, List.nil_append]
  · exact List.length_pos_iff.mpr String.utf8EncodeChar_ne_nil

end LinearProgram.Utf8
