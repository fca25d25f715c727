/-
  Basic — expressions that are spread over lines.

  1. **Lines** — each line lays out a row of pieces. The first line may begin with a name and a
     colon, and the last one may end with an operator and a value. None of these lines is a keyword
     (`Lays.not_keyword`).

  2. **Rows** — what the rows say, one after the other, is what all of them say at once, if each is
     taken as it is heard. So whatever reads row after row, and may add terms of different variables
     in portions, reads all of them (`Spread.reads`): the induction is on the rows, and each step
     hands the terms of its row on to the state in which the next row is read. The other way round,
     what reads all of them at once reads row after row, if each row can be read alone
     (`Spread.of_reads`).
-/

import LinearProgram.Proofs.Document.Body
import LinearProgram.Proofs.Written.Layout

namespace LinearProgram.Written

/-! ## Lines -/

/-- What may stand in front of an expression on its first line: nothing, or something that ends with
    a colon. -/
def IsHead (head : Text) : Prop :=
  head = [] ∨ ∃ front : Text, head = front ++ [':'] ∧ ∀ c ∈ front, isStructural c = false

/-- The lines lay out the rows, one row each. `head` stands in front of the first row, `tail` behind
    the last one. -/
inductive Spread (tail : Text) : Text → List (List Piece) → List Text → Prop where
  | last {head t : Text} {row : List Piece} (h : Lays row t) :
      Spread tail head [row] [head ++ (t ++ tail)]
  | cons {head t : Text} {row : List Piece} {rows : List (List Piece)} {lines : List Text}
      (h : Lays row t) (hrows : Spread tail [] rows lines) :
      Spread tail head (row :: rows) ((head ++ t) :: lines)

theorem IsHead.plain {head : Text} (hhead : IsHead head) : Plain head := by
  rcases hhead with rfl | ⟨front, rfl, hfront⟩
  · exact fun c hc => absurd hc List.not_mem_nil
  · apply (plain_of_not_isStructural hfront).append
    intro c hc
    rw [List.mem_singleton.mp hc]
    decide

/-- What the head says does not depend on what follows it. -/
theorem splitName_head {head : Text} (hhead : IsHead head) {u : Text} (hu : ':' ∉ u)
    (htrim : Text.IsTrimmed (head ++ u)) :
    ConstraintLine.splitName (head ++ u) =
      (ConstraintLine.splitName head).map fun split => (split.1, u.trim) := by
  rcases hhead with rfl | ⟨front, rfl, hfront⟩
  · have hnone : ConstraintLine.splitName u = .ok (none, u) := by
      unfold ConstraintLine.splitName
      rw [Text.cutAt?_of_not_mem hu]
    rw [List.nil_append] at htrim ⊢
    rw [hnone]
    show _ = Except.ok (none, u.trim)
    rw [htrim.trim_eq]
  · have hcolon : ':' ∉ front := fun hmem => absurd (hfront ':' hmem) (by decide)
    have hoccurs := (plain_of_not_isStructural hfront).not_occursIn
    have hsplit : ∀ u : Text, ConstraintLine.splitName (front ++ ':' :: u) =
        (Name.read front).map fun name => (some name, u.trim) := by
      intro u
      unfold ConstraintLine.splitName
      rw [Text.cutAt?_append u hcolon]
      dsimp only
      rw [hoccurs]
      cases Name.read front with
      | error cause => rfl
      | ok name => rfl
    rw [List.append_assoc, List.singleton_append, hsplit, hsplit]
    cases Name.read front with
    | error cause => rfl
    | ok name => rfl

/-- Nothing stands behind the name of the head. -/
theorem splitName_head_nil {head : Text} (hhead : IsHead head) {name? : Option Text} {body : Text}
    (h : ConstraintLine.splitName head = .ok (name?, body)) : body = [] := by
  rcases hhead with rfl | ⟨front, rfl, hfront⟩
  · cases h
    rfl
  · have hcolon : ':' ∉ front := fun hmem => absurd (hfront ':' hmem) (by decide)
    unfold ConstraintLine.splitName at h
    rw [Text.cutAt?_append [] hcolon] at h
    dsimp only at h
    rw [(plain_of_not_isStructural hfront).not_occursIn, if_neg Bool.false_ne_true] at h
    split at h
    · cases h
      rfl
    · cases h

/-! ### Keywords -/

/-- Signs, digits, colons and relational characters. -/
def isForeign (c : Char) : Bool :=
  c.isDigit || (Sign.ofChar? c).isSome || c == ':' || Relation.isRelational c

/-- **A line with a sign, a digit, a colon or a relational character is no keyword.** -/
theorem not_keyword_of_isForeign {c : Char} {line : Text} (hc : c ∈ line)
    (h : isForeign c = true) :
    Keyword.opensConstraints line = false ∧ Keyword.section? line = none := by
  have hascii : c.toNat < 0x80 := by
    unfold isForeign at h
    simp only [Bool.or_eq_true, beq_iff_eq, or_assoc] at h
    rcases h with h | h | rfl | h
    · have := (digit_bounds h).2
      omega
    · unfold Sign.ofChar? at h
      split at h
      · next heq =>
        rw [heq]
        decide
      · split at h
        · next heq =>
          rw [heq]
          decide
        · cases h
    · decide
    · unfold Relation.isRelational at h
      simp only [Bool.or_eq_true, beq_iff_eq, or_assoc] at h
      rcases h with rfl | rfl | rfl <;> decide
  have hspec : ¬ (0x41 ≤ c.toNat ∧ c.toNat ≤ 0x5A) ∧ Text.isBlank c = false ∧
      Keyword.isKeywordChar c = false := by
    clear hc
    revert h
    exact Text.forall_ascii hascii (by decide)
  obtain ⟨hcapital, hblank, hkeyword⟩ := hspec
  exact Keyword.not_keyword_of_mem
    (Keyword.mem_normal (Text.isCaseless_of_ascii hascii hcapital) hblank hc) hkeyword

theorem Numeral.exists_isDigit (n : Numeral) : ∃ c ∈ n.text, c.isDigit = true := by
  have hne := n.ne_nil
  have hfraction := n.isDigits_fraction
  cases hw : n.whole with
  | cons c t =>
    refine ⟨c, ?_, n.isDigits_whole c (hw ▸ List.mem_cons_self)⟩
    unfold Numeral.text
    rw [hw]
    exact List.mem_append_left _ List.mem_cons_self
  | nil =>
    rw [hw, List.nil_append] at hne
    cases hf : n.fraction? with
    | none =>
      rw [hf] at hne
      exact absurd rfl hne
    | some f =>
      rw [hf, Option.getD_some] at hne hfraction
      cases f with
      | nil => exact absurd rfl hne
      | cons c t =>
        refine ⟨c, ?_, hfraction c List.mem_cons_self⟩
        unfold Numeral.text Numeral.fractionText
        rw [hf]
        exact List.mem_append_right _ (List.mem_append_left _ (by simp))

/-- **A line of an expression is no keyword.** -/
theorem Lays.not_keyword {ps : List Piece} {head t : Text} (h : Lays ps t) (ho : Orderly ps)
    (hhead : IsHead head) (hne : head ++ t ≠ []) (htrim : Text.IsTrimmed (head ++ t)) :
    Keyword.opensConstraints (head ++ t) = false ∧ Keyword.section? (head ++ t) = none := by
  have hforeign : ∀ p ∈ ps, ∀ c ∈ p.text, isForeign c = true →
      Keyword.opensConstraints (head ++ t) = false ∧ Keyword.section? (head ++ t) = none :=
    fun p hp c hc => not_keyword_of_isForeign (List.mem_append_right _ (h.mem_of_mem hp hc))
  rcases hhead with rfl | ⟨front, rfl, -⟩
  · cases h with
    | nil hgap =>
      -- a line without pieces is blank
      rw [List.nil_append] at hne htrim
      rw [← htrim.trim_eq, (Text.trim_eq_nil_iff _).mpr hgap] at hne
      exact absurd rfl hne
    | @cons p ps gap t hgap hapart h =>
      cases p with
      | sign s =>
        refine hforeign _ List.mem_cons_self s.toChar (List.mem_singleton.mpr rfl) ?_
        cases s <;> decide
      | literal n =>
        obtain ⟨c, hc, hdigit⟩ := n.exists_isDigit
        refine hforeign _ List.mem_cons_self c hc ?_
        unfold isForeign
        rw [hdigit]
        rfl
      | name x =>
        cases ps with
        | cons q ps =>
          obtain ⟨s, rfl⟩ := ho.head_of_name q rfl
          refine hforeign _ (List.mem_cons_of_mem _ List.mem_cons_self) s.toChar
            (List.mem_singleton.mpr rfl) ?_
          cases s <;> decide
        | nil =>
          -- nothing but a name
          have hline : gap ++ (x.text ++ t) = x.text := by
            have hwhole : Text.trim (gap ++ (x.text ++ t)) = gap ++ (x.text ++ t) := htrim.trim_eq
            rw [← hwhole, x.isWord.trim_append, (Text.trimStart_eq_nil_iff gap).mpr hgap,
              Text.trimEnd_of_blankOnly h.blankOnly, List.append_nil, List.nil_append]
          show Keyword.opensConstraints (gap ++ (x.text ++ t)) = false ∧
            Keyword.section? (gap ++ (x.text ++ t)) = none
          rw [hline]
          exact x.opensNothing
  · exact not_keyword_of_isForeign (List.mem_append_left _ (List.mem_append_right _
      (List.mem_singleton.mpr rfl))) (by decide : isForeign ':' = true)

/-! ## Rows -/

/-- What is heard of a row and of the rows behind it, with the terms that both say. -/
theorem terms_append_of_rows {row : List Piece} {rows : List (List Piece)} {ts us : List Term}
    (ho : Orderly (row :: rows).flatten) (hd : (mentions (row :: rows).flatten).Nodup)
    (hts : terms row = (ts, none)) (hus : terms (heardRows rows) = (us, none)) :
    terms (heardRows (row :: rows)) = (ts ++ us, none) ∧ ((ts ++ us).map Term.name).Nodup := by
  have hboth := terms_heardRows_cons ho hts
  rw [hus] at hboth
  refine ⟨hboth, ?_⟩
  rw [map_name_termsFrom hboth, mentions_congr (map_plussed_heardRows _)]
  exact hd

theorem terms_eq_nil {ps : List Piece} {ts : List Term} (h : terms ps = (ts, none)) :
    ps = [] → ts = [] := by
  rintro rfl
  cases h
  rfl

/-- The first of several rows and the others, taken apart. -/
theorem of_flatten_cons {row : List Piece} {rows : List (List Piece)}
    (ho : Orderly (row :: rows).flatten) (hd : (mentions (row :: rows).flatten).Nodup) :
    Orderly row ∧ Orderly rows.flatten ∧ (mentions rows.flatten).Nodup := by
  rw [List.flatten_cons] at ho hd
  unfold mentions at hd ⊢
  rw [List.filterMap_append] at hd
  exact ⟨ho.left_of_append, ho.right_of_append, (List.nodup_append.mp hd).2.1⟩

/-- **Reading row after row is reading all of them at once**, as they are heard, for any part of a
    document: `enters` says what becomes of a state at a head, `reads` what becomes of it at pieces;
    `P` holds while rows are left, and `Q` behind the last one. -/
theorem Spread.reads {σ : Type} (enters : Text → σ → σ → Prop)
    (reads : σ → List Piece → List Term → σ) {P Q : σ → List Line → Prop} {tail : Text}
    {n : Nat}
    (hP : ∀ {head t : Text} {row : List Piece} {s : σ} {rest : List Line}, Lays row t →
      Orderly row → IsHead head → head ++ t ≠ [] → Text.IsTrimmed (head ++ t) →
      P s (⟨n, head ++ t⟩ :: rest) →
      ∃ s' ts, enters head s s' ∧ terms row = (ts, none) ∧ P (reads s' row ts) rest)
    (hQ : ∀ {head t : Text} {row : List Piece} {s : σ} {rest : List Line}, Lays row t →
      Orderly row → IsHead head → head ++ (t ++ tail) ≠ [] → Text.IsTrimmed (head ++ (t ++ tail)) →
      P s (⟨n, head ++ (t ++ tail)⟩ :: rest) →
      ∃ s' ts, enters head s s' ∧ terms row = (ts, none) ∧ Q (reads s' row ts) rest)
    (hnil : ∀ {s s' : σ}, enters [] s s' → s' = s)
    (hreads : ∀ {s : σ} {ps qs rs : List Piece} {ts us : List Term}, (ps = [] → ts = []) →
      (qs = [] → us = []) → rs.isEmpty = (ps ++ qs).isEmpty → ((ts ++ us).map Term.name).Nodup →
      reads (reads s ps ts) qs us = reads s rs (ts ++ us))
    (hidle : ∀ s : σ, reads s [] [] = s)
    {head : Text} {rows : List (List Piece)} {lines : List Text} (h : Spread tail head rows lines)
    (hhead : IsHead head) (hlines : ∀ t ∈ lines, t ≠ [] ∧ t.IsTrimmed) (ho : Orderly rows.flatten)
    (hd : (mentions rows.flatten).Nodup) {s : σ} {rest : List Line}
    (hs : P s (lines.map (Line.mk n) ++ rest)) :
    ∃ s' ts, enters head s s' ∧ terms (heardRows rows) = (ts, none) ∧
      Q (reads s' (heardRows rows) ts) rest := by
  induction rows generalizing head lines s with
  | nil => cases h
  | cons row rows ih =>
    obtain ⟨horow, horows, hdrows⟩ := of_flatten_cons ho hd
    -- the terms of the row and of the rows behind it, added one behind the other
    have hjoin : ∀ {s' : σ} {ts us : List Term}, terms row = (ts, none) →
        terms (heardRows rows) = (us, none) → terms (heardRows (row :: rows)) = (ts ++ us, none) ∧
        reads (reads s' row ts) (heardRows rows) us =
          reads s' (heardRows (row :: rows)) (ts ++ us) := by
      intro s' ts us hts hus
      obtain ⟨hterms, hnodup⟩ := terms_append_of_rows ho hd hts hus
      exact ⟨hterms, hreads (terms_eq_nil hts) (terms_eq_nil hus) (isEmpty_heardRows_cons row rows)
        hnodup⟩
    cases h with
    | last h =>
      obtain ⟨hne, htrim⟩ := hlines _ List.mem_cons_self
      obtain ⟨s', ts, henters, hts, hbehind⟩ := hQ h horow hhead hne htrim hs
      obtain ⟨hterms, hsame⟩ := hjoin hts rfl
      refine ⟨s', ts ++ [], henters, hterms, ?_⟩
      rw [← hsame]
      show Q (reads (reads s' row ts) [] []) rest
      rw [hidle]
      exact hbehind
    | cons h hrows =>
      obtain ⟨hne, htrim⟩ := hlines _ List.mem_cons_self
      obtain ⟨s', ts, henters, hts, hnext⟩ := hP h horow hhead hne htrim hs
      obtain ⟨s'', us, hsame, hus, hbehind⟩ := ih hrows (Or.inl rfl)
        (fun t ht => hlines t (List.mem_cons_of_mem _ ht)) horows hdrows hnext
      obtain rfl := hnil hsame
      obtain ⟨hterms, hsame⟩ := hjoin hts hus
      exact ⟨_, ts ++ us, henters, hterms, hsame ▸ hbehind⟩

/-- Rows that end neither with a minus nor with a literal can be read alone. -/
def Detached (rows : List (List Piece)) : Prop :=
  ∀ row ∈ rows, row.getLast? ≠ some (.sign .minus) ∧ ∀ n, row.getLast? ≠ some (.literal n)

/-- **Rows that can be read alone are read one after the other** where all of them are read at
    once. -/
theorem Spread.of_reads {σ : Type} (enters : Text → σ → σ → Prop)
    (reads : σ → List Piece → List Term → σ) {P Q : σ → List Line → Prop} {tail : Text}
    {n : Nat}
    (hP : ∀ {head t : Text} {row : List Piece} {s s' : σ} {ts : List Term} {rest : List Line},
      Lays row t → Orderly row → IsHead head → head ++ t ≠ [] → Text.IsTrimmed (head ++ t) →
      enters head s s' → terms row = (ts, none) → P (reads s' row ts) rest →
      P s (⟨n, head ++ t⟩ :: rest))
    (hQ : ∀ {head t : Text} {row : List Piece} {s s' : σ} {ts : List Term} {rest : List Line},
      Lays row t → Orderly row → IsHead head → head ++ (t ++ tail) ≠ [] →
      Text.IsTrimmed (head ++ (t ++ tail)) → enters head s s' → terms row = (ts, none) →
      Q (reads s' row ts) rest → P s (⟨n, head ++ (t ++ tail)⟩ :: rest))
    (hnil : ∀ s : σ, enters [] s s)
    (hreads : ∀ {s : σ} {ps qs rs : List Piece} {ts us : List Term}, (ps = [] → ts = []) →
      (qs = [] → us = []) → rs.isEmpty = (ps ++ qs).isEmpty → ((ts ++ us).map Term.name).Nodup →
      reads (reads s ps ts) qs us = reads s rs (ts ++ us))
    (hidle : ∀ s : σ, reads s [] [] = s)
    {head : Text} {rows : List (List Piece)} {lines : List Text} (h : Spread tail head rows lines)
    (hhead : IsHead head) (hlines : ∀ t ∈ lines, t ≠ [] ∧ t.IsTrimmed) (ho : Orderly rows.flatten)
    (hd : (mentions rows.flatten).Nodup) (hrows : Detached rows) {s s' : σ} {ts : List Term}
    {rest : List Line} (henters : enters head s s') (hts : terms rows.flatten = (ts, none))
    (hs : Q (reads s' rows.flatten ts) rest) : P s (lines.map (Line.mk n) ++ rest) := by
  induction rows generalizing head lines s s' ts with
  | nil => cases h
  | cons row rows ih =>
    obtain ⟨horow, horows, hdrows⟩ := of_flatten_cons ho hd
    obtain ⟨hminus, hliteral⟩ := hrows row List.mem_cons_self
    obtain ⟨us, vs, hus, hvs, rfl⟩ := exists_terms_of_flatten_cons ho hminus hliteral hts
    have hnodup : ((us ++ vs).map Term.name).Nodup := by
      rw [map_name_termsFrom hts]
      exact hd
    rw [List.flatten_cons, ← hreads (terms_eq_nil hus) (terms_eq_nil hvs) rfl hnodup] at hs
    cases h with
    | last h =>
      obtain ⟨hne, htrim⟩ := hlines _ List.mem_cons_self
      cases hvs
      rw [List.flatten_nil, hidle] at hs
      exact hQ h horow hhead hne htrim henters hus hs
    | cons h hlines' =>
      obtain ⟨hne, htrim⟩ := hlines _ List.mem_cons_self
      exact hP h horow hhead hne htrim henters hus (ih hlines' (Or.inl rfl)
        (fun t ht => hlines t (List.mem_cons_of_mem _ ht)) horows hdrows
        (fun row hrow => hrows row (List.mem_cons_of_mem _ hrow)) (hnil _) hvs hs)

end LinearProgram.Written
