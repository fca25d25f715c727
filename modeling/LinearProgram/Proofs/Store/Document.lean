/-
  Document — readings of stored documents.

  1. **Line ends** — if each carriage return has its line feed, a text and what storing it makes of
     its line ends have the same lines but for the returns, and a return is a blank at the end of its
     line: the contents are the same (`Text.contents_withLineFeeds`).

  2. **Sources** — a reading sees the contents of lines and nothing else of them. So stored octets
     that encode a text have the model, or the fault, of the text (`Source.model_ofOctets`).

  3. **Readings** — every path has a reading, whatever the store holds there, but for a path that the
     store is never asked about, as it holds the character zero (`Store.reading_isShown`).
-/

import LinearProgram.Proofs.Document.Breaking
import LinearProgram.Proofs.Reading
import LinearProgram.Proofs.Store.Tree
import LinearProgram.Proofs.Store.Utf8
import LinearProgram.Proofs.Text.Content
import LinearProgram.Store.Document

namespace LinearProgram

/-! ## Line ends -/

namespace Text

/-- Each carriage return has a line feed right behind it. -/
def ReturnsArePaired (t : Text) : Prop :=
  ∀ front back, t = front ++ '\r' :: back → back.head? = some '\n'

theorem returnsArePaired_cons_iff {c : Char} {t : Text} :
    ReturnsArePaired (c :: t) ↔ (c = '\r' → t.head? = some '\n') ∧ ReturnsArePaired t := by
  constructor
  · intro h
    refine ⟨?_, ?_⟩
    · rintro rfl
      exact h [] t rfl
    · rintro front back rfl
      exact h (c :: front) back rfl
  · rintro ⟨hfirst, ht⟩ (_ | ⟨d, front⟩) back heq
    · obtain ⟨rfl, rfl⟩ := List.cons.inj heq
      exact hfirst rfl
    · obtain ⟨-, rfl⟩ := List.cons.inj heq
      exact ht front back rfl

instance decidableReturnsArePaired : (t : Text) → Decidable (ReturnsArePaired t)
  | [] => .isTrue fun front back h => by cases front <;> cases h
  | _ :: t =>
    have := decidableReturnsArePaired t
    decidable_of_iff _ returnsArePaired_cons_iff.symm

/-- A line, and the same line with a carriage return behind it or without one. -/
def MayReturn (raw line : Text) : Prop := raw = line ∨ raw = line ++ ['\r']

theorem MayReturn.content_eq {raw line : Text} (h : raw.MayReturn line) :
    raw.content = line.content := by
  obtain rfl | rfl := h
  · rfl
  · exact @content_padded [] ['\r'] line rfl ⟨['\r'], [], by decide, .inl rfl⟩

theorem mayReturn_extendFirst {raws ls : List Text} (c : Char)
    (h : List.Forall₂ MayReturn raws ls) :
    List.Forall₂ MayReturn (extendFirst c raws) (extendFirst c ls) := by
  cases h with
  | nil => exact .cons (.inl rfl) .nil
  | cons hfirst hrest =>
    refine .cons ?_ hrest
    obtain rfl | rfl := hfirst
    · exact .inl rfl
    · exact .inr rfl

/-- Nothing but its carriage return is taken from a line. -/
theorem lines_withLineFeeds {t : Text} (h : t.ReturnsArePaired) :
    List.Forall₂ MayReturn t.lines t.withLineFeeds.lines := by
  fun_induction withLineFeeds t with
  | case1 => exact .nil
  | case2 rest ih =>
    rw [lines_cons_of_ne (by decide), lines_cons, if_pos rfl, lines_cons, if_pos rfl]
    have hrest := (returnsArePaired_cons_iff.mp (returnsArePaired_cons_iff.mp h).2).2
    exact .cons (.inr rfl) (ih hrest)
  | case3 c rest hpair ih =>
    obtain ⟨hfirst, hrest⟩ := returnsArePaired_cons_iff.mp h
    have hc : c ≠ '\r' := by
      rintro rfl
      obtain ⟨rest', rfl⟩ := List.head?_eq_some_iff.mp (hfirst rfl)
      exact hpair rest' rfl rfl
    rw [if_neg hc]
    by_cases hfeed : c = '\n'
    · rw [lines_cons, if_pos hfeed, lines_cons, if_pos hfeed]
      exact .cons (.inl rfl) (ih hrest)
    · rw [lines_cons_of_ne hfeed, lines_cons_of_ne hfeed]
      exact mayReturn_extendFirst c (ih hrest)

/-- **Line ends do not change the contents of lines**, unless a carriage return ends a line alone. -/
theorem contents_withLineFeeds {t : Text} (h : t.ReturnsArePaired) :
    t.lines.map content = t.withLineFeeds.lines.map content := by
  rw [← List.forall₂_eq_eq_eq, List.forall₂_map_left_iff, List.forall₂_map_right_iff]
  exact (lines_withLineFeeds h).imp fun _ _ => MayReturn.content_eq

end Text

/-! ## Sources -/

theorem Line.numbered_congr {raws raws' : List Text}
    (h : raws.map Text.content = raws'.map Text.content) (n : Nat) :
    numbered n raws = numbered n raws' := by
  induction raws generalizing raws' n with
  | nil =>
    rw [List.map_eq_nil_iff.mp h.symm]
  | cons raw raws ih =>
    cases raws' with
    | nil => cases h
    | cons raw' raws' =>
      obtain ⟨hraw, hraws⟩ := List.cons.inj h
      unfold numbered
      rw [hraw, ih hraws]

namespace Source

/-- **The contents of its lines make a source's model.** -/
theorem model_congr {source source' : Source} (hending : source.ending = source'.ending)
    (h : source.lines.map Text.content = source'.lines.map Text.content) :
    source.model = source'.model := by
  have hlength : source.lines.length = source'.lines.length := by
    rw [← List.length_map Text.content, h, List.length_map]
  have hnumbered : source.numbered = source'.numbered := Line.numbered_congr h 0
  rw [model_eq_outcome, model_eq_outcome, hending, hlength, hnumbered]

theorem ofOctets_encode (t : Text) : ofOctets (Utf8.encode t) = ofText t.withLineFeeds := by
  unfold ofOctets
  rw [Utf8.read_encode]

/-- **A stored text has the model or the fault of the text.** -/
theorem model_ofOctets {t : Text} (h : t.ReturnsArePaired) :
    (ofOctets (Utf8.encode t)).model = (ofText t).model := by
  have hcontents : (ofText t.withLineFeeds).lines.map Text.content =
      (ofText t).lines.map Text.content := (Text.contents_withLineFeeds h).symm
  rw [ofOctets_encode]
  exact model_congr rfl hcontents

theorem ofOctets_ending_ne_absent (octets : Octets) : (ofOctets octets).ending ≠ .absent := by
  unfold ofOctets
  split <;> nofun

end Source

/-! ## Readings -/

namespace Store

/-- The document at a path cannot be opened, or it cannot be read as far as its reading asks for
    lines. -/
inductive Withholds (store : Store) (path : Text) : Prop where
  | unopened (refusal : Refusal) (h : store path = .error refusal)
  | unread (octets : Octets) (reason : Text) (h : store path = .ok octets)
      (hbreaks : (Source.ofOctets octets).Breaks reason)

variable {store : Store} {channel : String} {path : Text}

theorem reading_of_octets {octets : Octets} (h : store path = .ok octets) :
    store.reading channel path = .ok (.ofSource channel path (.ofOctets octets)) := by
  unfold reading
  rw [h]

/-- A reading is one of the octets at the path, or of a path that was refused. -/
theorem reading_cases {r : Reading} (h : store.reading channel path = .ok r) :
    (∃ octets, store path = .ok octets ∧ r = .ofSource channel path (.ofOctets octets)) ∨
      ∃ refusal, store path = .error refusal ∧ refusal ≠ .zeroInPath ∧
        r = .unopened channel path (refusal.message path).toList := by
  unfold reading at h
  split at h
  · next octets hstore => exact .inl ⟨octets, hstore, (Except.ok.inj h).symm⟩
  · cases h
  · next refusal hzero hstore => exact .inr ⟨refusal, hstore, hzero, (Except.ok.inj h).symm⟩

/-- The paths without a reading are those that the store is not asked about. -/
theorem exists_reading_iff :
    (∃ r, store.reading channel path = .ok r) ↔ store path ≠ .error .zeroInPath := by
  constructor
  · rintro ⟨r, hr⟩ hzero
    rcases reading_cases hr with ⟨octets, hstore, -⟩ | ⟨refusal, hstore, hrefusal, -⟩
    · rw [hzero] at hstore
      cases hstore
    · rw [hzero] at hstore
      exact hrefusal (Except.error.inj hstore).symm
  · intro h
    unfold reading
    split
    · exact ⟨_, rfl⟩
    · next hzero => exact absurd hzero h
    · exact ⟨_, rfl⟩

/-- A reading of a path shows its outcome. -/
theorem isShown_of_reading {r : Reading} (h : store.reading channel path = .ok r) :
    r.origin = path ∧ r.IsShown := by
  rcases reading_cases h with ⟨octets, -, rfl⟩ | ⟨refusal, -, -, rfl⟩
  · have hending := Source.ofOctets_ending_ne_absent octets
    exact ⟨Reading.origin_ofSource .., Reading.ofSource_isShown channel path hending⟩
  · exact ⟨rfl, Reading.unopened_isShown ..⟩

/-- **The reading of a stored text** has the outcome of the text. -/
theorem exists_reading_of_text {t : Text} (hreturns : t.ReturnsArePaired)
    (h : store path = .ok (Utf8.encode t)) (channel : String) :
    ∃ r, store.reading channel path = .ok r ∧ r.origin = path ∧
      r.outcome = (Source.ofText t).model := by
  refine ⟨_, reading_of_octets h, Reading.origin_ofSource .., ?_⟩
  rw [Reading.outcome_ofSource, Source.model_ofOctets hreturns]

/-- A break that is met is the fault that the reading shows. -/
theorem showsFault_of_breaks {source : Source} {reason : Text} (h : source.Breaks reason)
    (channel : String) (origin : Text) :
    ∃ f, (Reading.ofSource channel origin source).ShowsFault f ∧ f.cause = .unreadable reason := by
  have hending : source.ending ≠ .absent := by
    intro habsent
    have hcause := h.cause
    rw [habsent] at hcause
    cases hcause
  have hshown := Reading.ofSource_isShown channel origin hending
  exact ⟨_, hshown.showsFault ((Reading.outcome_ofSource ..).trans h.model), rfl⟩

/-- Where the document is withheld, the reading shows that it is. -/
theorem Withholds.showsFault (hwithholds : store.Withholds path) {r : Reading}
    (h : store.reading channel path = .ok r) :
    ∃ f, r.ShowsFault f ∧ f.cause.kind = .unreadable := by
  rcases reading_cases h with ⟨octets, hstore, rfl⟩ | ⟨refusal, -, -, rfl⟩
  · cases hwithholds with
    | unopened refusal hrefusal =>
      rw [hstore] at hrefusal
      cases hrefusal
    | unread octets' reason hoctets hbreaks =>
      rw [hstore] at hoctets
      obtain rfl := Except.ok.inj hoctets
      obtain ⟨f, hf, hcause⟩ := showsFault_of_breaks hbreaks channel path
      exact ⟨f, hf, hcause ▸ rfl⟩
  · exact ⟨_, (Reading.unopened_isShown ..).showsFault rfl, rfl⟩

/-- **Every path has a reading**, whatever a store holds there, unless the path holds the character
    zero, so that the store is not asked about it. The reading shows its outcome; where the document
    cannot be opened, or not be read as far as lines are asked for, that is a fault for this reason.
    The same is true of every other source, and of every other reason not to open one. -/
theorem reading_isShown (store : Store) (channel : String) (path : Text) :
    ((∃ r, store.reading channel path = .ok r) ↔ store path ≠ .error .zeroInPath) ∧
      (∀ t : Tree, t.store path = .error .zeroInPath ↔ '\x00' ∈ path) ∧
      (∀ r, store.reading channel path = .ok r →
        r.origin = path ∧ r.IsShown ∧
          (∀ octets, store path = .ok octets → r.outcome = (Source.ofOctets octets).model) ∧
          (store.Withholds path → ∃ f, r.ShowsFault f ∧ f.cause.kind = .unreadable)) ∧
      (∀ source, source.ending ≠ .absent → (Reading.ofSource channel path source).IsShown ∧
        ∀ reason, source.Breaks reason →
          ∃ f, (Reading.ofSource channel path source).ShowsFault f ∧ f.cause.kind = .unreadable) ∧
      ∀ reason, ∃ f, (Reading.unopened channel path reason).ShowsFault f ∧
        f.cause.kind = .unreadable := by
  refine ⟨exists_reading_iff, fun t => t.store_eq_zeroInPath_iff path, fun r hr => ?_,
    fun source hending => ?_, fun reason => ?_⟩
  · obtain ⟨horigin, hshown⟩ := isShown_of_reading hr
    refine ⟨horigin, hshown, fun octets hoctets => ?_, fun h => h.showsFault hr⟩
    rw [reading_of_octets hoctets] at hr
    obtain rfl := Except.ok.inj hr
    exact Reading.outcome_ofSource ..
  · refine ⟨Reading.ofSource_isShown channel path hending, fun reason hbreaks => ?_⟩
    obtain ⟨f, hf, hcause⟩ := showsFault_of_breaks hbreaks channel path
    exact ⟨f, hf, hcause ▸ rfl⟩
  · exact ⟨_, (Reading.unopened_isShown ..).showsFault rfl, rfl⟩

/-- A path with the character zero has no reading, not even in an empty tree. -/
theorem not_reading_zero :
    ¬ ∃ r, ({} : Tree).store.reading Log.documentChannel "a\x00b".toList = .ok r := by
  rw [exists_reading_iff, not_not, Tree.store_eq_zeroInPath_iff]
  decide

end Store

end LinearProgram
