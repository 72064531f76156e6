import OpenPeer.DiffProcess
import OpenPeer.PublicationContent

/-!
# Differences that cannot be applied

The items of a difference are applied one after the other, and the first that is refused
ends it, with what the ones before it did. An update counts the version up and drops the
data before it looks at the difference, so a difference that fails always changes the
publication; a fetched one that fails leaves it alone when it is for another version, or
there is no document, or there was nothing to change.
-/
namespace OpenPeer.Publishing.Publication

open Xml Std Diff

section Stopping

/-- The items before the one that is refused, with the document they have made. -/
structure StopsAt (items before : List Element) (document result : Document) : Prop where
  applied : Applied before document result
  refused : ∃ itemEl after, items = before ++ itemEl :: after ∧ processItem itemEl result = .ok none

theorem processItems_stopped {items : List Element} {document result : Document}
    (h : processItems items document = .ok (false, result)) : ∃ before, StopsAt items before document result := by
  induction items generalizing document with
  | nil => simp [processItems] at h
  | cons itemEl items ih =>
    rw [processItems] at h
    cases hitem : processItem itemEl document with
    | error t => simp [hitem] at h
    | ok found =>
      cases found with
      | none =>
        simp only [hitem, Except.ok.injEq, Prod.mk.injEq, true_and] at h
        subst h
        exact ⟨[], .nil document, itemEl, items, rfl, hitem⟩
      | some document' =>
        simp only [hitem] at h
        obtain ⟨before, happlied, itemEl', after, hitems, hrefused⟩ := ih h
        exact ⟨itemEl :: before, .cons hitem happlied, itemEl', after, congrArg (itemEl :: ·) hitems, hrefused⟩

theorem StopsAt.processItems {items before : List Element} {document result : Document}
    (h : StopsAt items before document result) : processItems items document = .ok (false, result) := by
  obtain ⟨happlied, itemEl, after, rfl, hrefused⟩ := h
  induction happlied with
  | nil document => simp [Diff.processItems, hrefused]
  | cons hitem hitems ih => simp [Diff.processItems, hitem, ih hrefused]

/-- Whatever the items before one that is refused make of the document, it is the document again. -/
def Spared (diff document : Document) : Prop :=
  ∀ before result, StopsAt (itemsOf diff) before document result → result = document

theorem spared_iff {diff document result : Document} (h : process document diff = .ok (false, result))
    (hdiff : isDiff diff = true) : Spared diff document ↔ result = document := by
  have hitems : processItems (itemsOf diff) document = .ok (false, result) := by
    unfold process at h
    unfold itemsOf
    cases helem : (elementsNamed "diff" diff).head? with
    | none => simp [isDiff, helem] at hdiff
    | some diffElem => simpa [helem] using h
  constructor
  · intro hspared
    obtain ⟨before, hstops⟩ := processItems_stopped hitems
    exact hspared before result hstops
  · intro hresult before result' hstops
    have hsame := hstops.processItems.symm.trans hitems
    simp only [Except.ok.injEq, Prod.mk.injEq, true_and] at hsame
    exact hsame.trans hresult

end Stopping

section Failures

/-- The difference is refused, or there is no document it could be applied to. -/
def Fails (originalDocument : Option Document) (diff : Document) : Prop :=
  processOn originalDocument diff = .error .thrown ∨
    ∃ document, processOn originalDocument diff = .ok (false, document)

structure Unchanged (p p' : Publication) : Prop where
  mVersion : p'.mVersion = p.mVersion
  mDocument : p'.mDocument = p.mDocument
  mData : p'.mData = p.mData
  mDiffDocuments : p'.mDiffDocuments = p.mDiffDocuments

theorem Unchanged.refl (p : Publication) : Unchanged p p := ⟨rfl, rfl, rfl, rfl⟩

theorem processOn_thrown {originalDocument : Option Document} {diff : Document}
    (h : processOn originalDocument diff = .error .thrown) : originalDocument = none := by
  cases originalDocument with
  | none => rfl
  | some document =>
    have hnull := (process_returns document diff).2 .thrown h
    cases hnull

theorem Fails.refused {document diff : Document} (h : Fails (some document) diff) :
    ∃ result, process document diff = .ok (false, result) := by
  rcases h with hthrown | ⟨result, hresult⟩
  · cases processOn_thrown hthrown
  · exact ⟨result, hresult⟩

variable {fetchedPublication p : Publication} {diff : Document}

theorem updateFromFetched_mismatched (hdata : fetchedPublication.mData = none)
    (hdocument : fetchedPublication.mDocument = some diff) (hdiff : isDiff diff = true)
    (hbase : fetchedPublication.mBaseVersion ≠ p.mVersion + 1) (noThrow : Bool) :
    p.updateFromFetchedPublication fetchedPublication noThrow = (p, .mismatched !noThrow) := by
  simp [updateFromFetchedPublication, hdata, hdocument, hdiff, hbase]

theorem updateFromFetched_error {t : Trap} (hdata : fetchedPublication.mData = none)
    (hdocument : fetchedPublication.mDocument = some diff) (hdiff : isDiff diff = true)
    (hbase : fetchedPublication.mBaseVersion = p.mVersion + 1) (hprocess : processOn p.mDocument diff = .error t)
    (noThrow : Bool) : p.updateFromFetchedPublication fetchedPublication noThrow = (p, .trapped t) := by
  simp [updateFromFetchedPublication, hdata, hdocument, hdiff, hbase, hprocess]

theorem updateFromFetched_processed {success : Bool} {document : Document} (hdata : fetchedPublication.mData = none)
    (hdocument : fetchedPublication.mDocument = some diff) (hdiff : isDiff diff = true)
    (hbase : fetchedPublication.mBaseVersion = p.mVersion + 1)
    (hprocess : processOn p.mDocument diff = .ok (success, document)) (noThrow : Bool) :
    p.updateFromFetchedPublication fetchedPublication noThrow =
      (takeMetaData { p with mDocument := some document } fetchedPublication, .updated) := by
  simp [updateFromFetchedPublication, hdata, hdocument, hdiff, hbase, hprocess]

theorem unchanged_takeMetaData_iff {document result : Document} (hp : p.mDocument = some document) :
    Unchanged p (takeMetaData { p with mDocument := some result } fetchedPublication) ↔
      fetchedPublication.mVersion = p.mVersion ∧ p.mDiffDocuments = ∅ ∧ result = document := by
  constructor
  · rintro ⟨hversion, hdocument, -, hdiffs⟩
    exact ⟨hversion, hdiffs.symm, Option.some.inj (hdocument.trans hp)⟩
  · rintro ⟨hversion, hdiffs, rfl⟩
    exact ⟨hversion, hp.symm, rfl, hdiffs.symm⟩

/-- A difference that fails changes the publication it is given to, for that counts a version. A fetched one leaves
the publication alone exactly when it is for another version, when there is no document, or when all that it takes over
is there already. -/
theorem failing_difference (p : Publication) (diff : Document) (hdiff : isDiff diff = true)
    (hfails : Fails p.mDocument diff) :
    ¬Unchanged p (p.updateDocument diff).1 ∧
    ∀ fetchedPublication : Publication, fetchedPublication.mData = none → fetchedPublication.mDocument = some diff →
      ∀ noThrow, Unchanged p (p.updateFromFetchedPublication fetchedPublication noThrow).1 ↔
        fetchedPublication.mBaseVersion ≠ p.mVersion + 1 ∨ p.mDocument = none ∨
          fetchedPublication.mVersion = p.mVersion ∧ p.mDiffDocuments = ∅ ∧
            ∀ document, p.mDocument = some document → Spared diff document := by
  constructor
  · intro hunchanged
    have hversion := hunchanged.mVersion
    rw [updateDocument_mVersion] at hversion
    omega
  intro fetchedPublication hdata hdocument noThrow
  by_cases hbase : fetchedPublication.mBaseVersion = p.mVersion + 1
  case neg =>
    rw [updateFromFetched_mismatched hdata hdocument hdiff hbase]
    simp [hbase, Unchanged.refl]
  cases hp : p.mDocument with
  | none =>
    have hprocess : processOn p.mDocument diff = .error .thrown := by rw [hp]; rfl
    rw [updateFromFetched_error hdata hdocument hdiff hbase hprocess]
    simp [Unchanged.refl]
  | some document =>
    rw [hp] at hfails
    obtain ⟨result, hresult⟩ := hfails.refused
    have hprocess : processOn p.mDocument diff = .ok (false, result) := by rw [hp]; exact hresult
    rw [updateFromFetched_processed hdata hdocument hdiff hbase hprocess, unchanged_takeMetaData_iff hp,
      ← spared_iff hresult hdiff]
    simp [hbase]

/-- A publication of one element, and differences that remove an element it has not. -/
def plainPublication : Publication :=
  createDocument ⟨1, 0, 5, "", "name", "json/text", [], "", 0⟩ [.element (Tag.create "a")]

def missingDiff : Document :=
  [.element ⟨"diff", [], [.element (((Tag.create "item").setAttribute "do" "-").setAttribute "path" "/b")]⟩]

def halfMissingDiff : Document :=
  [.element ⟨"diff", [],
    [.element (((Tag.create "item").setAttribute "do" "-").setAttribute "path" "/a"),
     .element (((Tag.create "item").setAttribute "do" "-").setAttribute "path" "/b")]⟩]

def fetchedDiff (diff : Document) : Publication :=
  { plainPublication with mVersion := 2, mBaseVersion := 2, mDocument := some diff }

theorem failing_difference_sample :
    ¬Unchanged plainPublication (plainPublication.updateDocument missingDiff).1 ∧
    Unchanged plainPublication
      (plainPublication.updateFromFetchedPublication { fetchedDiff missingDiff with mBaseVersion := 7 } true).1 := by
  have h := failing_difference plainPublication missingDiff rfl (.inr ⟨_, rfl⟩)
  exact ⟨h.1, (h.2 { fetchedDiff missingDiff with mBaseVersion := 7 } rfl rfl true).mpr (.inl (by decide))⟩

/-- The version is counted up for a difference that is refused, and what its first item removes stays removed;
both when it is given and when it is fetched. -/
theorem failing_difference_kept :
    isDiff halfMissingDiff = true ∧ Fails plainPublication.mDocument halfMissingDiff ∧
    ¬Unchanged plainPublication (plainPublication.updateDocument halfMissingDiff).1 ∧
    ¬Unchanged plainPublication
      (plainPublication.updateFromFetchedPublication (fetchedDiff halfMissingDiff) false).1 := by
  constructor
  · rfl
  constructor
  · exact .inr ⟨[], rfl⟩
  constructor
  · rintro ⟨hversion, -, -, -⟩
    cases hversion
  · rintro ⟨hversion, -, -, -⟩
    cases hversion

end Failures

end OpenPeer.Publishing.Publication
