import OpenPeer.PublicationFetchers

/-!
# One fetch at a time

Of the fetchers of one publication only the first has a request outstanding. Each fetcher is
pending until its delegate is told, once, that it has completed.
-/
namespace OpenPeer.Fetching

open Caching (CacheMetaData PublicationObject cacheCompare_eq_eq cacheCompare)
open Std (OrientedCmp ReflCmp TransCmp)
open Turns Repository

namespace Repository

variable (r : Repository)

@[simp] theorem modify_fetchers_self (i : Nat) (f : Fetcher → Fetcher) :
    (r.modify i f).fetchers i = f (r.fetchers i) := by simp [modify]

@[simp] theorem modify_fetchers_of_ne {i j : Nat} (f : Fetcher → Fetcher) (h : j ≠ i) :
    (r.modify i f).fetchers j = r.fetchers j := by simp [modify, h]

@[simp] theorem modify_caches (i : Nat) (f : Fetcher → Fetcher) : (r.modify i f).caches = r.caches := rfl

@[simp] theorem modify_created (i : Nat) (f : Fetcher → Fetcher) : (r.modify i f).created = r.created := rfl

@[simp] theorem modify_mPendingFetchers (i : Nat) (f : Fetcher → Fetcher) :
    (r.modify i f).mPendingFetchers = r.mPendingFetchers := rfl

theorem leave_fetchers_of_ne {i j : Nat} (h : j ≠ i) : (r.leave i).fetchers j = r.fetchers j :=
  r.modify_fetchers_of_ne Fetcher.complete h

theorem leave_fetchers_self (i : Nat) : (r.leave i).fetchers i = (r.fetchers i).complete :=
  r.modify_fetchers_self i Fetcher.complete

/-- What a fetcher fetches is never changed. -/
def SameMetaData (r r' : Repository) : Prop :=
  ∀ i, (r'.fetchers i).mPublicationMetaData = (r.fetchers i).mPublicationMetaData

theorem modify_sameMetaData {i : Nat} {f : Fetcher → Fetcher}
    (hf : (f (r.fetchers i)).mPublicationMetaData = (r.fetchers i).mPublicationMetaData) :
    r.SameMetaData (r.modify i f) := by
  intro j
  by_cases h : j = i
  · subst h
    simpa using hf
  · simp [h]

theorem SameMetaData.isMatching {r r' : Repository} (h : r.SameMetaData r') : r'.isMatching = r.isMatching := by
  funext i j
  simp only [Repository.isMatching, h i, h j]

theorem classes : Turns.Classes r.isMatching where
  refl i := cacheCompare_eq_eq.mp ReflCmp.compare_self
  eq_of_same {i j} hij := by
    funext k
    have heq := cacheCompare_eq_eq.mpr hij
    rw [Bool.eq_iff_iff]
    simp only [isMatching, ← cacheCompare_eq_eq]
    constructor
    · exact TransCmp.eq_trans (OrientedCmp.eq_symm heq)
    · exact TransCmp.eq_trans heq

/-- The fetcher has a request outstanding. -/
def Active (i : Nat) : Prop := (r.fetchers i).mMonitor = true

end Repository

/-- What the books look at is as before. -/
structure Fetcher.SameBooks (f f' : Fetcher) : Prop where
  mMonitor : f'.mMonitor = f.mMonitor
  mDelegate : f'.mDelegate = f.mDelegate
  told : f'.told = f.told
  asked : f'.asked = f.asked
  mVersion : f'.mVersion = f.mVersion

/-- A fetcher that exists is pending until its delegate was told, and only one that is pending has a monitor. One whose
turn has not come has the version in its meta data that was asked for. -/
structure Kept (r : Repository) : Prop where
  nodup : r.mPendingFetchers.Nodup
  exist : ∀ i ∈ r.mPendingFetchers, i < r.created
  pending : ∀ i < r.created, i ∈ r.mPendingFetchers ↔ (r.fetchers i).mDelegate = true
  monitored : ∀ i < r.created, (r.fetchers i).mMonitor = true → (r.fetchers i).mDelegate = true
  told : ∀ i < r.created, (r.fetchers i).told = if (r.fetchers i).mDelegate then 0 else 1
  unsent : ∀ i ∈ r.mPendingFetchers, (r.fetchers i).mMonitor = false → (r.fetchers i).mVersion = (r.fetchers i).asked

structure Books (r : Repository) : Prop extends Kept r where
  turns : Turns.Fair r.isMatching r.Active r.mPendingFetchers

/-- Nobody has the turn of the publication of `m`, which is no longer pending, or is the first of it. -/
structure Waiting (r : Repository) (m : Nat) : Prop extends Kept r where
  turns : FairBut r.isMatching r.Active r.mPendingFetchers m
  ended : m ∈ r.mPendingFetchers → r.mPendingFetchers.find? (r.isMatching m) = some m

namespace Kept

variable {r : Repository}

theorem modify (h : Kept r) {i : Nat} {f : Fetcher → Fetcher} (hf : (r.fetchers i).SameBooks (f (r.fetchers i))) :
    Kept (r.modify i f) := by
  have hkept : ∀ j, (r.fetchers j).SameBooks ((r.modify i f).fetchers j) := by
    intro j
    by_cases hj : j = i
    · subst hj
      simpa using hf
    · rw [r.modify_fetchers_of_ne f hj]
      exact ⟨rfl, rfl, rfl, rfl, rfl⟩
  constructor
  · exact h.nodup
  · exact h.exist
  · intro j hj
    rw [(hkept j).mDelegate]
    exact h.pending j hj
  · intro j hj
    rw [(hkept j).mMonitor, (hkept j).mDelegate]
    exact h.monitored j hj
  · intro j hj
    rw [(hkept j).mDelegate, (hkept j).told]
    exact h.told j hj
  · intro j hj
    rw [(hkept j).mMonitor, (hkept j).mVersion, (hkept j).asked]
    exact h.unsent j hj

theorem leave (h : Kept r) {i : Nat} (hi : i ∈ r.mPendingFetchers) : Kept (r.leave i) := by
  have hmem : ∀ j, j ∈ (r.leave i).mPendingFetchers ↔ j ≠ i ∧ j ∈ r.mPendingFetchers := fun j => h.nodup.mem_erase_iff
  have hdelegate : (r.fetchers i).mDelegate = true := (h.pending i (h.exist i hi)).mp hi
  have htold := h.told i (h.exist i hi)
  constructor
  · exact h.nodup.erase i
  · intro j hj
    exact h.exist j ((hmem j).mp hj).2
  · intro j hj
    rw [hmem]
    by_cases hji : j = i
    · subst hji
      simp [leave_fetchers_self, Fetcher.complete]
    · rw [r.leave_fetchers_of_ne hji]
      simpa [hji] using h.pending j hj
  · intro j hj
    by_cases hji : j = i
    · subst hji
      simp [leave_fetchers_self, Fetcher.complete]
    · rw [r.leave_fetchers_of_ne hji]
      exact h.monitored j hj
  · intro j hj
    by_cases hji : j = i
    · subst hji
      simp [leave_fetchers_self, Fetcher.complete, hdelegate, htold]
    · rw [r.leave_fetchers_of_ne hji]
      exact h.told j hj
  · intro j hj
    obtain ⟨hji, hj⟩ := (hmem j).mp hj
    rw [r.leave_fetchers_of_ne hji]
    exact h.unsent j hj

end Kept

/-! ## Activation -/

namespace Repository

variable (r : Repository)

/-- The state in which the request of `i` was sent, with a version for the meta data of `m`. -/
def sendWith (m i version : Nat) : Repository :=
  { (r.modify m fun f => f.setVersion version).modify i Fetcher.setMonitor with
    sent := r.sent ++ [((r.fetchers m).mPublicationMetaData, version)] }

theorem sendRequest_eq (m i version : Nat) :
    (r.modify m fun f => f.setVersion version).sendRequest m i =
      if r.caches.mAccount.isSome then .ok (r.sendWith m i version) else .error .undefined := by
  simp only [sendRequest, modify_caches, modify_fetchers_self, sendWith, Fetcher.setVersion]
  cases r.caches.mAccount <;> rfl

theorem serve_fetchers_of_ne {i j : Nat} (existing : PublicationObject) (h : j ≠ i) :
    (r.serve i existing).fetchers j = r.fetchers j := by
  rw [serve, leave_fetchers_of_ne _ h, modify_fetchers_of_ne _ _ h]

theorem serve_sameMetaData (i : Nat) (existing : PublicationObject) : r.SameMetaData (r.serve i existing) := by
  intro j
  by_cases h : j = i
  · subst h
    simp [serve, leave_fetchers_self, Fetcher.complete, Fetcher.succeed, Fetcher.setPublication]
  · rw [r.serve_fetchers_of_ne existing h]

theorem sendWith_fetchers_self (m i version : Nat) :
    (r.sendWith m i version).fetchers i =
      if i = m then ((r.fetchers i).setVersion version).setMonitor else (r.fetchers i).setMonitor := by
  split
  case isTrue h =>
    subst h
    simp [sendWith, modify]
  case isFalse h => simp [sendWith, modify, h]

theorem sendWith_fetchers_of_ne {m i j : Nat} (version : Nat) (h : j ≠ i) :
    (r.sendWith m i version).fetchers j = if j = m then (r.fetchers j).setVersion version else r.fetchers j := by
  split
  case isTrue hm =>
    subst hm
    simp [sendWith, modify, h]
  case isFalse hm => simp [sendWith, modify, h, hm]

theorem sendWith_sameMetaData (m i version : Nat) : r.SameMetaData (r.sendWith m i version) := by
  intro j
  by_cases h : j = i
  · subst h
    rw [sendWith_fetchers_self]
    split <;> rfl
  · rw [sendWith_fetchers_of_ne r version h]
    split <;> rfl

/-- What holds where an activation begins, through each fetcher that is served, holds of what it ends with. -/
theorem activateFetcher_induct {P : Repository → Nat → Prop} {Q : Repository → Prop}
    (hnone : ∀ r m, P r m → r.mPendingFetchers.find? (r.isMatching m) = none → Q r)
    (hactive : ∀ r m i, P r m → r.mPendingFetchers.find? (r.isMatching m) = some i → r.Active i → Q r)
    (hserve : ∀ r m i existing, P r m → r.mPendingFetchers.find? (r.isMatching m) = some i → ¬r.Active i →
      r.findRemote m = some existing → (r.fetchers m).mVersion ≤ existing.publication.mVersion →
      P (r.serve i existing) i)
    (hsend : ∀ r m i version, P r m → r.mPendingFetchers.find? (r.isMatching m) = some i → ¬r.Active i →
      Q (r.sendWith m i version))
    {pending : Nat} {r r' : Repository} {m : Nat} (hpending : r.mPendingFetchers.length ≤ pending) (h : P r m)
    (hr : activateFetcher pending r m = .ok r') : Q r' := by
  induction pending generalizing r m with
  | zero =>
    obtain rfl := Except.ok.inj hr
    have hempty : r.mPendingFetchers = [] := List.length_eq_zero_iff.mp (by omega)
    exact hnone r m h (by simp [hempty])
  | succ pending ih =>
    simp only [activateFetcher] at hr
    split at hr
    case h_1 hfind =>
      obtain rfl := Except.ok.inj hr
      exact hnone r m h hfind
    case h_2 i hfind =>
    split at hr
    case isTrue hmonitor =>
      obtain rfl := Except.ok.inj hr
      exact hactive r m i h hfind hmonitor
    case isFalse hmonitor =>
    split at hr
    case h_1 =>
      rw [sendRequest_eq] at hr
      split at hr
      · obtain rfl := Except.ok.inj hr
        exact hsend r m i 0 h hfind hmonitor
      · cases hr
    case h_2 existing hremote =>
      split at hr
      case isTrue hversion =>
        have hi := List.mem_of_find?_eq_some hfind
        have hlength : (r.serve i existing).mPendingFetchers.length ≤ pending := by
          have herase := List.length_erase_of_mem hi
          have hpos := List.length_pos_of_mem hi
          change (r.mPendingFetchers.erase i).length ≤ pending
          omega
        exact ih hlength (hserve r m i existing h hfind hmonitor hremote hversion) hr
      case isFalse =>
        rw [sendRequest_eq] at hr
        split at hr
        · obtain rfl := Except.ok.inj hr
          exact hsend r m i _ h hfind hmonitor
        · cases hr

end Repository

variable {r : Repository} {i : Nat}

theorem Kept.serve (h : Kept r) (hi : i ∈ r.mPendingFetchers) (existing : PublicationObject) :
    Kept (r.serve i existing) :=
  (h.modify (f := fun f => (f.setPublication existing).succeed) ⟨rfl, rfl, rfl, rfl, rfl⟩).leave hi

variable {m : Nat}

/-- The version in the meta data is overwritten for a fetcher that is sent, or that is no longer pending. -/
theorem Kept.sendWith (h : Kept r) (hi : i ∈ r.mPendingFetchers) (hm : m ∈ r.mPendingFetchers → m = i)
    (version : Nat) : Kept (r.sendWith m i version) := by
  have hself := r.sendWith_fetchers_self m i version
  have hdelegate : (r.fetchers i).mDelegate = true := (h.pending i (h.exist i hi)).mp hi
  have hkept : ∀ j, ((r.sendWith m i version).fetchers j).mDelegate = (r.fetchers j).mDelegate ∧
      ((r.sendWith m i version).fetchers j).told = (r.fetchers j).told := by
    intro j
    by_cases hj : j = i
    · subst hj
      rw [hself]
      split <;> exact ⟨rfl, rfl⟩
    · rw [r.sendWith_fetchers_of_ne version hj]
      split <;> exact ⟨rfl, rfl⟩
  constructor
  · exact h.nodup
  · exact h.exist
  · intro j hj
    rw [(hkept j).1]
    exact h.pending j hj
  · intro j hj hmonitor
    rw [(hkept j).1]
    by_cases hji : j = i
    · rw [hji]
      exact hdelegate
    · rw [r.sendWith_fetchers_of_ne version hji] at hmonitor
      refine h.monitored j hj ?_
      split at hmonitor
      · exact hmonitor
      · exact hmonitor
  · intro j hj
    rw [(hkept j).1, (hkept j).2]
    exact h.told j hj
  · intro j hj hmonitor
    by_cases hji : j = i
    · subst hji
      rw [hself] at hmonitor
      split at hmonitor <;> cases hmonitor
    · have hjm : j ≠ m := fun heq => hji (heq ▸ hm (heq ▸ hj))
      rw [r.sendWith_fetchers_of_ne version hji, if_neg hjm] at hmonitor ⊢
      exact h.unsent j hj hmonitor

theorem serve_waiting {existing : PublicationObject} (h : Waiting r m)
    (hfind : r.mPendingFetchers.find? (r.isMatching m) = some i) : Waiting (r.serve i existing) i where
  toKept := h.toKept.serve (List.mem_of_find?_eq_some hfind) existing
  turns := by
    rw [(r.serve_sameMetaData i existing).isMatching]
    refine (h.turns.erase r.classes (List.find?_some hfind)).congr fun j hj => ?_
    have hji : j ≠ i := fun heq => h.nodup.not_mem_erase (heq ▸ hj)
    simp only [Repository.Active, r.serve_fetchers_of_ne existing hji]
  ended hi := absurd hi h.nodup.not_mem_erase

theorem sendWith_books (h : Waiting r m) (hfind : r.mPendingFetchers.find? (r.isMatching m) = some i)
    (version : Nat) : Books (r.sendWith m i version) where
  toKept := by
    refine h.toKept.sendWith (List.mem_of_find?_eq_some hfind) (fun hm => ?_) version
    rw [h.ended hm] at hfind
    exact Option.some.inj hfind
  turns := by
    rw [(r.sendWith_sameMetaData m i version).isMatching]
    refine (h.turns.give r.classes hfind).congr fun j hj => ?_
    by_cases hji : j = i
    · subst hji
      simp only [Repository.Active, r.sendWith_fetchers_self, true_or, iff_true]
      split <;> rfl
    · simp only [Repository.Active, r.sendWith_fetchers_of_ne version hji, hji, false_or]
      split <;> rfl

variable {r' : Repository}

theorem Waiting.activate (h : Waiting r m) (hr : r.activate m = .ok r') : Books r' := by
  apply activateFetcher_induct (P := Waiting) ?_ ?_ ?_ ?_ (Nat.le_refl _) h hr
  · intro r m h hnone
    exact ⟨h.toKept, h.turns.fair_of_none hnone⟩
  · intro r m i h hfind hactive
    have hwaits := h.turns i (List.mem_of_find?_eq_some hfind)
    rw [if_pos (List.find?_some hfind)] at hwaits
    exact absurd hactive hwaits
  · intro r m i existing h hfind _ _ _
    exact serve_waiting h hfind
  · intro r m i version h hfind _
    exact sendWith_books h hfind version

theorem Books.activateFetcher (h : Books r) (pending m : Nat) :
    Repository.activateFetcher pending r m = .ok r := by
  cases pending with
  | zero => rfl
  | succ pending =>
    simp only [Repository.activateFetcher]
    split
    case h_1 => rfl
    case h_2 i hfind =>
      have hactive : r.Active i := h.turns.active_of_find r.classes hfind
      exact if_pos hactive

/-! ## The events -/

theorem leave_isMatching (r : Repository) (i : Nat) : (r.leave i).isMatching = r.isMatching :=
  (r.modify_sameMetaData (f := Fetcher.complete) rfl).isMatching

theorem Kept.leave_active (h : Kept r) (i : Nat) :
    ∀ j ∈ r.mPendingFetchers.erase i, (r.leave i).Active j ↔ r.Active j := by
  intro j hj
  have hji : j ≠ i := fun heq => h.nodup.not_mem_erase (heq ▸ hj)
  simp only [Repository.Active, r.leave_fetchers_of_ne hji]

theorem Books.leave_of_active (h : Books r) (hi : i ∈ r.mPendingFetchers) (hturn : r.Active i) :
    Waiting (r.leave i) i where
  toKept := h.toKept.leave hi
  turns := by
    rw [leave_isMatching]
    exact (h.turns.erase_active r.classes h.nodup hi hturn).congr (h.leave_active i)
  ended hleft := absurd hleft h.nodup.not_mem_erase

theorem Books.leave_of_waiting (h : Books r) (hi : i ∈ r.mPendingFetchers) (hwaits : ¬r.Active i) :
    Books (r.leave i) where
  toKept := h.toKept.leave hi
  turns := by
    rw [leave_isMatching]
    exact (h.turns.erase_waiting r.classes hi hwaits).congr (h.leave_active i)

theorem Books.modify (h : Books r) {f : Fetcher → Fetcher}
    (hf : (r.fetchers i).SameBooks (f (r.fetchers i)))
    (hmetaData : (f (r.fetchers i)).mPublicationMetaData = (r.fetchers i).mPublicationMetaData) :
    Books (r.modify i f) where
  toKept := h.toKept.modify hf
  turns := by
    rw [(r.modify_sameMetaData hmetaData).isMatching]
    refine h.turns.congr fun j _ => ?_
    by_cases hj : j = i
    · subst hj
      simp only [Repository.Active, r.modify_fetchers_self, hf.mMonitor]
    · simp only [Repository.Active, r.modify_fetchers_of_ne f hj]

theorem Books.complete (h : Books r) (hi : i < r.created) (hleft : i ∉ r.mPendingFetchers) :
    Books (r.modify i Fetcher.complete) := by
  have hdelegate : (r.fetchers i).mDelegate = false := by
    have hpending := h.pending i hi
    simp_all
  have hmonitor : (r.fetchers i).mMonitor = false := by
    have hmonitored := h.monitored i hi
    simp_all
  have hsame : (r.fetchers i).SameBooks (r.fetchers i).complete := by
    constructor <;> simp [Fetcher.complete, hdelegate, hmonitor]
  exact h.modify hsame rfl

theorem Books.cancelFetcher (h : Books r) (hi : i < r.created) (hr : r.cancelFetcher i = .ok r') : Books r' := by
  simp only [Repository.cancelFetcher] at hr
  split at hr
  case isTrue hmem =>
    by_cases hturn : r.Active i
    · exact (h.leave_of_active hmem hturn).activate hr
    · have hleave := h.leave_of_waiting hmem hturn
      rw [activate, hleave.activateFetcher] at hr
      cases hr
      exact hleave
  case isFalse hmem =>
    cases hr
    exact h.complete hi hmem

section Fetch

variable {r : Repository} {metaData : CacheMetaData} {version : Nat}

theorem create_fetchers_of_lt {i : Nat} (hi : i < r.created) :
    (r.create metaData version).fetchers i = r.fetchers i := by
  simp [create, Nat.ne_of_lt hi]

theorem create_fetchers_self : (r.create metaData version).fetchers r.created =
    { mPublicationMetaData := metaData, mVersion := version, asked := version } := by
  simp [create]

/-- A new fetcher that is pending. -/
def enqueue (r : Repository) (metaData : CacheMetaData) (version : Nat) : Repository :=
  { r.create metaData version with mPendingFetchers := r.mPendingFetchers ++ [r.created] }

theorem enqueue_kept (h : Kept r) : Kept (enqueue r metaData version) := by
  have hfresh : r.created ∉ r.mPendingFetchers := fun hmem => Nat.lt_irrefl _ (h.exist _ hmem)
  have hmem : ∀ i, i ∈ (enqueue r metaData version).mPendingFetchers ↔ i ∈ r.mPendingFetchers ∨ i = r.created := by
    simp [enqueue]
  have hself : (enqueue r metaData version).fetchers r.created =
      { mPublicationMetaData := metaData, mVersion := version, asked := version } := create_fetchers_self
  have hold : ∀ i < r.created, (enqueue r metaData version).fetchers i = r.fetchers i := fun i hi =>
    create_fetchers_of_lt hi
  have hcases : ∀ i, i < (enqueue r metaData version).created → i < r.created ∨ i = r.created := fun i hi =>
    Nat.lt_or_eq_of_le (Nat.lt_succ_iff.mp hi)
  constructor
  · refine List.nodup_append.mpr ⟨h.nodup, List.nodup_singleton _, fun a ha b hb => ?_⟩
    rw [List.mem_singleton.mp hb]
    exact Nat.ne_of_lt (h.exist a ha)
  · intro i hi
    refine Nat.lt_succ_iff.mpr ?_
    rcases (hmem i).mp hi with hi | rfl
    · exact Nat.le_of_lt (h.exist i hi)
    · exact Nat.le_refl _
  · intro i hi
    rw [hmem]
    rcases hcases i hi with hi | rfl
    · rw [hold i hi, ← h.pending i hi]
      exact or_iff_left (Nat.ne_of_lt hi)
    · simp [hself]
  · intro i hi
    rcases hcases i hi with hi | rfl
    · rw [hold i hi]
      exact h.monitored i hi
    · simp [hself]
  · intro i hi
    rcases hcases i hi with hi | rfl
    · rw [hold i hi]
      exact h.told i hi
    · simp [hself]
  · intro i hi
    rcases (hmem i).mp hi with hi | rfl
    · rw [hold i (h.exist i hi)]
      exact h.unsent i hi
    · simp [hself]

theorem enqueue_turns (h : Books r) :
    Turns.Fair (enqueue r metaData version).isMatching (enqueue r metaData version).Active r.mPendingFetchers := by
  have hold : ∀ i ∈ r.mPendingFetchers, (enqueue r metaData version).fetchers i = r.fetchers i := fun i hi =>
    create_fetchers_of_lt (h.exist i hi)
  have hsame : Turns.Fair (enqueue r metaData version).isMatching r.Active r.mPendingFetchers := by
    refine h.turns.congr_same fun i hi j hj => ?_
    simp only [Repository.isMatching, hold i hi, hold j hj]
  refine hsame.congr fun i hi => ?_
  simp only [Repository.Active, hold i hi]

/-- A new fetcher waits behind one of the same publication, or it is the first of it. -/
theorem enqueue_spec (h : Books r) :
    Books (enqueue r metaData version) ∨ Waiting (enqueue r metaData version) r.created ∧
      ∀ i ∈ r.mPendingFetchers, ¬(enqueue r metaData version).isMatching r.created i = true := by
  have hfresh : r.created ∉ r.mPendingFetchers := fun hmem => Nat.lt_irrefl _ (h.exist _ hmem)
  have hwaits : ¬(enqueue r metaData version).Active r.created := by
    have hself : (enqueue r metaData version).fetchers r.created =
      { mPublicationMetaData := metaData, mVersion := version, asked := version } := create_fetchers_self
    simp [Repository.Active, hself]
  have hturns := @enqueue_turns r metaData version h
  cases hfind : r.mPendingFetchers.find? ((enqueue r metaData version).isMatching r.created) with
  | some i =>
    refine .inl ⟨enqueue_kept h.toKept, hturns.append_waiting (Repository.classes _) hfresh hwaits ?_⟩
    simp [hfind]
  | none =>
    refine .inr ⟨⟨enqueue_kept h.toKept, hturns.append_first (Repository.classes _) hwaits hfind, fun _ => ?_⟩,
      List.find?_eq_none.mp hfind⟩
    change (r.mPendingFetchers ++ [r.created]).find? _ = _
    rw [find?_append_singleton, hfind, (Repository.classes _).refl, if_pos rfl]
    rfl

/-- A fetcher that completes at once. -/
theorem create_complete_books (h : Books r) (f : Fetcher → Fetcher)
    (hf : ∀ x, (f x).mMonitor = x.mMonitor ∧ (f x).mDelegate = x.mDelegate ∧ (f x).told = x.told) :
    Books ((r.create metaData version).modify r.created fun x => (f x).complete) := by
  have hold : ∀ i < r.created, ((r.create metaData version).modify r.created fun x => (f x).complete).fetchers i =
      r.fetchers i := by
    intro i hi
    rw [modify_fetchers_of_ne _ _ (Nat.ne_of_lt hi), create_fetchers_of_lt hi]
  have hself := (r.create metaData version).modify_fetchers_self r.created fun x => (f x).complete
  have hcases : ∀ i, i < r.created + 1 → i < r.created ∨ i = r.created := fun i hi =>
    Nat.lt_or_eq_of_le (Nat.lt_succ_iff.mp hi)
  have hfresh : r.created ∉ r.mPendingFetchers := fun hmem => Nat.lt_irrefl _ (h.exist _ hmem)
  constructor
  · constructor
    · exact h.nodup
    · intro i hi
      exact Nat.lt_succ_of_lt (h.exist i hi)
    · intro i hi
      rcases hcases i hi with hi | rfl
      · rw [hold i hi]
        exact h.pending i hi
      · rw [hself]
        exact iff_of_false hfresh (by simp [Fetcher.complete])
    · intro i hi
      rcases hcases i hi with hi | rfl
      · rw [hold i hi]
        exact h.monitored i hi
      · simp [Fetcher.complete]
    · intro i hi
      rcases hcases i hi with hi | rfl
      · rw [hold i hi]
        exact h.told i hi
      · simp [Fetcher.complete, hf, create_fetchers_self]
    · intro i hi
      rw [hold i (h.exist i hi)]
      exact h.unsent i hi
  · have hsame : Turns.Fair ((r.create metaData version).modify r.created fun x => (f x).complete).isMatching r.Active
        r.mPendingFetchers := by
      refine h.turns.congr_same fun i hi j hj => ?_
      simp only [Repository.isMatching, hold i (h.exist i hi), hold j (h.exist j hj)]
    refine hsame.congr fun i hi => ?_
    simp only [Repository.Active, hold i (h.exist i hi)]

end Fetch

theorem fetch_books (h : Books r) {inMetaData : CacheMetaData} {publishedLocation : Location}
    {version : Nat} (hr : r.fetch inMetaData publishedLocation version = .ok r') : Books r' := by
  simp only [fetch] at hr
  split at hr
  case isTrue =>
    split at hr
    case h_1 =>
      cases hr
      exact create_complete_books h _ fun _ => ⟨rfl, rfl, rfl⟩
    case h_2 =>
      cases hr
      exact create_complete_books h id fun _ => ⟨rfl, rfl, rfl⟩
  case isFalse =>
    rcases @enqueue_spec r { inMetaData with mPublishedLocation := some publishedLocation } version h
      with hbooks | ⟨hwaiting, -⟩
    · have hkept : r' = enqueue r _ version :=
        Except.ok.inj (hr.symm.trans (hbooks.activateFetcher (r.mPendingFetchers ++ [r.created]).length r.created))
      rw [hkept]
      exact hbooks
    · exact hwaiting.activate hr

theorem Books.withCaches (h : Books r) (caches : Caching.Repository) : Books { r with caches } :=
  ⟨{ h with }, h.turns⟩

theorem foldl_complete_fetchers (l : List Nat) (r : Repository) (i : Nat) :
    (l.foldl (fun r i => r.modify i Fetcher.complete) r).fetchers i =
      if i ∈ l then (r.fetchers i).complete else r.fetchers i := by
  have htwice : ∀ f : Fetcher, f.complete.complete = f.complete := by simp [Fetcher.complete]
  induction l generalizing r with
  | nil => rfl
  | cons j l ih =>
    rw [List.foldl_cons, ih]
    by_cases hij : i = j
    · subst hij
      simp [htwice]
    · simp [hij]

theorem foldl_complete_frame (l : List Nat) (r : Repository) :
    (l.foldl (fun r i => r.modify i Fetcher.complete) r).created = r.created ∧
      (l.foldl (fun r i => r.modify i Fetcher.complete) r).mPendingFetchers = r.mPendingFetchers := by
  induction l generalizing r with
  | nil => exact ⟨rfl, rfl⟩
  | cons i l ih => exact ih (r.modify i Fetcher.complete)

/-- After the repository is cancelled every fetcher has completed. -/
theorem cancel_books (h : Books r) : Books r.cancel := by
  obtain ⟨hcreated, hpending⟩ := foldl_complete_frame r.mPendingFetchers
    { r with caches := r.caches.cancel, mPendingFetchers := [] }
  have hfetchers : ∀ i, r.cancel.fetchers i =
      if i ∈ r.mPendingFetchers then (r.fetchers i).complete else r.fetchers i :=
    foldl_complete_fetchers r.mPendingFetchers { r with caches := r.caches.cancel, mPendingFetchers := [] }
  have hnone : ∀ i, i ∉ r.cancel.mPendingFetchers := by
    intro i hi
    rw [cancel, hpending] at hi
    cases hi
  have hdelegate : ∀ i < r.created, (r.cancel.fetchers i).mDelegate = false := by
    intro i hi
    rw [hfetchers]
    split
    case isTrue => rfl
    case isFalse hleft =>
      have hpending := h.pending i hi
      simp_all
  have hexist : ∀ i, i < r.cancel.created → i < r.created := by
    intro i hi
    rwa [cancel, hcreated] at hi
  constructor
  · constructor
    · rw [cancel, hpending]
      exact List.nodup_nil
    · exact fun i hi => absurd hi (hnone i)
    · intro i hi
      exact iff_of_false (hnone i) (by simp [hdelegate i (hexist i hi)])
    · intro i hi hmonitor
      rw [hfetchers] at hmonitor
      split at hmonitor
      case isTrue => cases hmonitor
      case isFalse hleft => exact absurd ((h.pending i (hexist i hi)).mpr (h.monitored i (hexist i hi) hmonitor)) hleft
    · intro i hi
      have hi := hexist i hi
      have htold := h.told i hi
      rw [hdelegate i hi, hfetchers]
      split
      case isTrue hmem =>
        have hwaits := (h.pending i hi).mp hmem
        simp [Fetcher.complete, htold, hwaits]
      case isFalse hleft =>
        have hdone : (r.fetchers i).mDelegate = false := by
          have hpending := h.pending i hi
          simp_all
        simpa [hdone] using htold
    · exact fun i hi => absurd hi (hnone i)
  · exact fun i hi => absurd hi (hnone i)

theorem onResult_books (h : Books r) (hi : i < r.created) {publication : PublicationObject}
    (hr : r.onResult i publication = .ok r') : Books r' := by
  simp only [onResult] at hr
  split at hr
  case isTrue =>
    split at hr
    case h_1 => cases hr
    case h_2 carried _ =>
      have hcaches := h.withCaches (r.caches.notifyFetched (r.fetchers i).mPublicationMetaData publication)
      have hcarried := hcaches.modify (i := i) (f := fun f => f.succeed.setPublication carried)
        ⟨rfl, rfl, rfl, rfl, rfl⟩ rfl
      exact hcarried.cancelFetcher hi hr
  case isFalse =>
    cases hr
    exact h

theorem onError_books (h : Books r) (hi : i < r.created) {errorCode : Nat} {errorReason : String}
    (hr : r.onError i errorCode errorReason = .ok r') : Books r' := by
  simp only [onError] at hr
  split at hr
  case isTrue =>
    exact (h.modify (f := fun f => f.fail errorCode errorReason) ⟨rfl, rfl, rfl, rfl, rfl⟩ rfl).cancelFetcher hi hr
  case isFalse =>
    cases hr
    exact h

theorem onMessageMonitorTimedOut_books (h : Books r) (hi : i < r.created)
    (hr : r.onMessageMonitorTimedOut i = .ok r') : Books r' := by
  simp only [onMessageMonitorTimedOut] at hr
  split at hr
  case isTrue => exact h.cancelFetcher hi hr
  case isFalse =>
    cases hr
    exact h

theorem told_ok {x : Except Halt Repository} (hr : told r i x = .ok r') :
    r' = r ∨ i < r.created ∧ x = .ok r' := by
  simp only [told] at hr
  split at hr
  case isTrue hi => exact .inr ⟨hi, hr⟩
  case isFalse => exact .inl (Except.ok.inj hr).symm

theorem step_books (h : Books r) (e : Event) (hr : step r e = .ok r') : Books r' := by
  cases e with
  | fetch inMetaData publishedLocation version => exact fetch_books h hr
  | result i publication =>
    rcases told_ok hr with rfl | ⟨hi, hr⟩
    · exact h
    · exact onResult_books h hi hr
  | notFound i =>
    rcases told_ok hr with rfl | ⟨hi, hr⟩
    · exact h
    · exact onError_books h hi hr
  | error i errorCode errorReason =>
    rcases told_ok hr with rfl | ⟨hi, hr⟩
    · exact h
    · exact onError_books h hi hr
  | timedOut i =>
    rcases told_ok hr with rfl | ⟨hi, hr⟩
    · exact h
    · exact onMessageMonitorTimedOut_books h hi hr
  | cancelFetcher i =>
    rcases told_ok hr with rfl | ⟨hi, hr⟩
    · exact h
    · exact h.cancelFetcher hi hr
  | cache e =>
    cases hr
    exact h.withCaches _
  | cancel =>
    cases hr
    exact cancel_books h

/-- A repository with these caches, before anything is fetched. -/
def init (caches : Caching.Repository) (fetchers : Nat → Fetcher) : Repository := { caches, fetchers }

theorem init_books (caches : Caching.Repository) (fetchers : Nat → Fetcher) : Books (init caches fetchers) := by
  constructor
  · constructor <;> simp [init]
  · simp [Turns.Fair, init]

theorem Books.one_outstanding (h : Books r) {j : Nat} (hi : i < r.created) (hj : j < r.created)
    (hactive : r.Active i) (hactive' : r.Active j) (hij : r.isMatching i j = true) : i = j := by
  have hpending : ∀ k < r.created, r.Active k → k ∈ r.mPendingFetchers := fun k hk hk' =>
    (h.pending k hk).mpr (h.monitored k hk hk')
  exact h.turns.unique r.classes (hpending i hi hactive) (hpending j hj hactive') hactive hactive' hij

end OpenPeer.Fetching
