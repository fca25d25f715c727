/-
  Inspection — what the tools find of one document, handed over as a text or kept in a store.

  **Agreement** — a finding is made of the outcome of a reading. So of a text that is stored in
  UTF-8, with no carriage return but in front of a line feed, the tool for files finds what the tool
  for documents finds of the text itself (`Inspection.file_agrees`). Not every file can be inspected
  by its own path, though, even if it can be read (`Inspection.not_file_agrees_blank_or_tilde`): a
  tool that is called with a blank text finds nothing, and a path with a tilde in front leads to a
  home directory.
-/

import LinearProgram.Inspection
import LinearProgram.Proofs.Store.Document

namespace LinearProgram.Inspection

/-- Two findings say the same, but that the first one is of a document from `origin`. -/
structure Finding.Agrees (found found' : Finding) (origin : Text) : Prop where
  summary : found.summary = found'.summary
  structured : found.structured = found'.structured.updated "source" (.text origin)

/-- Both outcomes are findings, and these agree. -/
def Outcome.Agrees (o o' : Outcome) (origin : Text) : Prop :=
  ∃ found found', o.result = .ok found ∧ o'.result = .ok found' ∧ found.Agrees found' origin

/-- The findings of readings with the same outcome agree. -/
theorem ofReading_agrees {r r' : Reading} (h : r.outcome = r'.outcome) :
    (ofReading r).Agrees (ofReading r') r.origin := by
  have hpayload := (Reading.agrees_of_outcome h).payload
  unfold ofReading
  rw [h]
  cases r'.outcome with
  | ok m => exact ⟨_, _, rfl, rfl, rfl, hpayload⟩
  | error f => exact ⟨_, _, rfl, rfl, rfl, hpayload⟩

/-- A document that is not blank is read. -/
theorem result_document {t : Text} (h : t.isBlankOnly = false) :
    (document t).result = (ofReading (.ofText Log.documentChannel textOrigin t)).result := by
  unfold document
  rw [h]
  rfl

/-- A path that is not blank is read where it expands to. -/
theorem result_file {store : Store} {homes : Homes} {path place : Text} {r : Reading}
    (h : path.isBlankOnly = false) (hplace : Path.expanded homes path = .ok place)
    (hr : store.reading Log.documentChannel place = .ok r) :
    (file store homes path).result = (ofReading r).result := by
  unfold file
  rw [h, hplace]
  dsimp only
  rw [hr]
  rfl

/-- Stored where the path expands to, a text is found to be the same. -/
theorem file_agrees_of_expanded {store : Store} {homes : Homes} {path place t : Text}
    (hreturns : t.ReturnsArePaired) (hpath : path.isBlankOnly = false)
    (ht : t.isBlankOnly = false) (hplace : Path.expanded homes path = .ok place)
    (hstored : store place = .ok (Utf8.encode t)) :
    (file store homes path).Agrees (document t) place := by
  obtain ⟨r, hr, horigin, houtcome⟩ :=
    Store.exists_reading_of_text hreturns hstored Log.documentChannel
  have hsame : r.outcome = (Reading.ofText Log.documentChannel textOrigin t).outcome :=
    houtcome.trans (Reading.outcome_ofSource ..).symm
  have hagrees := ofReading_agrees hsame
  unfold Outcome.Agrees at hagrees ⊢
  rw [result_file hpath hplace hr, result_document ht, ← horigin]
  exact hagrees

/-- **A stored text is read like the text.** The text has a line feed behind each of its carriage
    returns, and it is stored in UTF-8. Then the reading of its path agrees with the reading of the
    text; and if neither is blank, the finding of the path agrees with the finding of the text, in
    every store with the text where the path expands to. A tree with the text at the path is one,
    unless the path begins in a home directory. -/
theorem file_agrees {t : Text} (hreturns : t.ReturnsArePaired) :
    (∀ (store : Store) (path : Text), store path = .ok (Utf8.encode t) →
        ∀ channel channel' origin, ∃ r, store.reading channel path = .ok r ∧ r.origin = path ∧
          r.Agrees (.ofText channel' origin t)) ∧
      (∀ (store : Store) (homes : Homes) (path place : Text),
        Path.expanded homes path = .ok place → store place = .ok (Utf8.encode t) →
        path.isBlankOnly = false → t.isBlankOnly = false →
          (file store homes path).Agrees (document t) place) ∧
      ∀ (tree : Store.Tree) (homes : Homes) (path : Text), Path.user? path = none →
        tree.store path = .ok (Utf8.encode t) → path.isBlankOnly = false →
        t.isBlankOnly = false →
          (file tree.store homes path).Agrees (document t) (Path.normal path) := by
  refine ⟨fun store path hstored channel channel' origin => ?_,
    fun store homes path place hplace hstored hpath ht =>
      file_agrees_of_expanded hreturns hpath ht hplace hstored,
    fun tree homes path huser hstored hpath ht =>
      file_agrees_of_expanded hreturns hpath ht (Path.expanded_of_user? huser homes)
        (Store.Tree.store_normal hstored)⟩
  obtain ⟨r, hr, horigin, houtcome⟩ := Store.exists_reading_of_text hreturns hstored channel
  exact ⟨r, hr, horigin,
    Reading.agrees_of_outcome (houtcome.trans (Reading.outcome_ofSource ..).symm)⟩

/-- The tree with one text in it. -/
def treeOf (path t : Text) : Store.Tree := ({} : Store.Tree).addFile path (Utf8.encode t)

/-- A text with a carriage return is read, and found, in a file, also by a path that begins in a home
    directory. -/
theorem file_agrees_return :
    (∃ r, (treeOf "m.lp".toList "max x\r\nend".toList).store.reading Log.documentChannel
        "./m.lp".toList = .ok r ∧ r.origin = "./m.lp".toList ∧
          r.Agrees (.ofText Log.documentChannel textOrigin "max x\r\nend".toList)) ∧
      (file (treeOf "h/m.lp".toList "max x\r\nend".toList).store (fun _ => some "h/".toList)
        "~/m.lp".toList).Agrees (document "max x\r\nend".toList) "h/m.lp".toList ∧
      (file (treeOf "m.lp".toList "max x\r\nend".toList).store (fun _ => none)
        "./m.lp".toList).Agrees (document "max x\r\nend".toList) "m.lp".toList := by
  have hstored : (treeOf "m.lp".toList "max x\r\nend".toList).store "./m.lp".toList =
      .ok (Utf8.encode "max x\r\nend".toList) := by
    decide +kernel
  have hagrees := @file_agrees "max x\r\nend".toList (by decide)
  exact ⟨hagrees.1 _ _ hstored Log.documentChannel Log.documentChannel textOrigin,
    hagrees.2.1 _ _ _ _ (by decide +kernel) (by decide +kernel) (by decide) (by decide),
    hagrees.2.2 _ _ _ (by decide) hstored (by decide) (by decide)⟩

/-- A file with a blank name, or with a tilde in front of it, is stored like any other, but not
    inspected by this name. -/
theorem not_file_agrees_blank_or_tilde :
    Text.ReturnsArePaired "max x\nend".toList ∧
      ((treeOf " ".toList "max x\nend".toList).store " ".toList =
          .ok (Utf8.encode "max x\nend".toList) ∧
        (file (treeOf " ".toList "max x\nend".toList).store (fun _ => none) " ".toList).result =
          .error (.blankInput "path")) ∧
      ((treeOf "~m.lp".toList "max x\nend".toList).store "~m.lp".toList =
          .ok (Utf8.encode "max x\nend".toList) ∧
        (file (treeOf "~m.lp".toList "max x\nend".toList).store (fun _ => none)
          "~m.lp".toList).result = .error .homeUnknown) ∧
      ∃ found, (document "max x\nend".toList).result = .ok found := by
  refine ⟨by decide, ⟨by decide +kernel, rfl⟩, ⟨by decide +kernel, rfl⟩, ?_⟩
  obtain ⟨found, -, hfound, -⟩ :=
    ofReading_agrees (r := .ofText Log.documentChannel textOrigin "max x\nend".toList) rfl
  exact ⟨found, (result_document (by decide)).trans hfound⟩

end LinearProgram.Inspection
