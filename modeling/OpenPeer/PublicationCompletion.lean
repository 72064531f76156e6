import OpenPeer.PublicationFetchCompletion
import OpenPeer.PublicationOperations

/-!
# How operations complete

Each publisher, fetcher and remover is told once that it has completed, in the runs in which no
remover is answered with an error, no publication of this location is removed, and nobody is to
be sent once the account is gone.
-/
namespace OpenPeer.Operations

open Caching (CacheMetaData PublicationObject)
open Turns Repository

/-- The delegate was told once if it is gone, and then there is no monitor. -/
structure Operation.Settled (o : Operation) : Prop where
  told : o.told = if o.mDelegate then 0 else 1
  left : o.mDelegate = false → o.mMonitor = none

theorem Operation.Settled.complete {o : Operation} (h : o.Settled) : o.complete.Settled where
  told := by
    have htold := h.told
    cases hdelegate : o.mDelegate <;> simp_all [Operation.complete]
  left _ := rfl

namespace Repository

variable (r : Repository)

@[simp] theorem modifyPublisher_self (k : Nat) (f : Operation → Operation) :
    (r.modifyPublisher k f).publishers k = f (r.publishers k) := by simp [modifyPublisher]

@[simp] theorem modifyPublisher_of_ne {k j : Nat} (f : Operation → Operation) (h : j ≠ k) :
    (r.modifyPublisher k f).publishers j = r.publishers j := by simp [modifyPublisher, h]

@[simp] theorem modifyRemover_self (k : Nat) (f : Operation → Operation) :
    (r.modifyRemover k f).removers k = f (r.removers k) := by simp [modifyRemover]

@[simp] theorem modifyRemover_of_ne {k j : Nat} (f : Operation → Operation) (h : j ≠ k) :
    (r.modifyRemover k f).removers j = r.removers j := by simp [modifyRemover, h]

/-- The publishers `k` and `j` publish the same publication. -/
def samePublication (k j : Nat) : Bool := r.publishes (r.publishers k).mPublication j

/-- The publisher has a request outstanding. -/
def Active (k : Nat) : Prop := (r.publishers k).mMonitor.isSome = true

theorem classes : Turns.Classes r.samePublication where
  refl k := by simp [samePublication, publishes]
  eq_of_same {k j} h := by
    funext i
    simp only [samePublication, publishes, decide_eq_true_eq] at h ⊢
    rw [h]

end Repository

/-- A publisher that exists is pending until its delegate was told, and its monitor is one of a publish request. -/
structure PublishersKept (r : Repository) : Prop where
  nodup : r.mPendingPublishers.Nodup
  exist : ∀ k ∈ r.mPendingPublishers, k < r.publishersCreated
  pending : ∀ k < r.publishersCreated, k ∈ r.mPendingPublishers ↔ (r.publishers k).mDelegate = true
  settled : ∀ k < r.publishersCreated, (r.publishers k).Settled
  requests : ∀ k < r.publishersCreated, ∀ monitor, (r.publishers k).mMonitor = some monitor →
    monitor.waits = true ∧ ∃ version, publishedTo (some monitor) = some version

structure PublisherBooks (r : Repository) : Prop extends PublishersKept r where
  turns : Turns.Fair r.samePublication r.Active r.mPendingPublishers

/-- A remover that exists is told once, and waits for a result until then. -/
def RemoverBooks (r : Repository) : Prop :=
  ∀ k < r.removersCreated, (r.removers k).Settled ∧
    ((r.removers k).mDelegate = true → (r.removers k).monitored = true)

structure Books (r : Repository) : Prop where
  fetching : Fetching.Books r.fetching
  publishers : PublisherBooks r
  removers : RemoverBooks r

/-! ## Activation -/

/-- A publisher leaves the list and is told. -/
def leave (r : Repository) (k : Nat) : Repository :=
  { r.modifyPublisher k Operation.complete with mPendingPublishers := r.mPendingPublishers.erase k }

/-- The request of a publisher is sent. -/
def send (r : Repository) (k : Nat) (request : Request) : Repository :=
  { r.modifyPublisher k fun o => o.setMonitor request with sent := r.sent ++ [request] }

variable {k : Nat}

theorem leave_of_ne (r : Repository) {j : Nat} (h : j ≠ k) : (leave r k).publishers j = r.publishers j :=
  r.modifyPublisher_of_ne Operation.complete h

theorem leave_self (r : Repository) (k : Nat) : (leave r k).publishers k = (r.publishers k).complete :=
  r.modifyPublisher_self k Operation.complete

theorem send_of_ne (r : Repository) {j : Nat} (request : Request) (h : j ≠ k) :
    (send r k request).publishers j = r.publishers j :=
  r.modifyPublisher_of_ne (fun o => o.setMonitor request) h

theorem send_self (r : Repository) (k : Nat) (request : Request) :
    (send r k request).publishers k = (r.publishers k).setMonitor request :=
  r.modifyPublisher_self k fun o => o.setMonitor request

variable {r r' : Repository}

theorem samePublication_congr (h : ∀ k, (r'.publishers k).mPublication = (r.publishers k).mPublication) :
    r'.samePublication = r.samePublication := by
  funext k j
  simp only [samePublication, publishes, h]

theorem leave_samePublication (r : Repository) (k : Nat) : (leave r k).samePublication = r.samePublication := by
  apply samePublication_congr
  intro j
  by_cases h : j = k
  · subst h
    rw [leave_self]
    rfl
  · rw [leave_of_ne r h]

theorem send_samePublication (r : Repository) (k : Nat) (request : Request) :
    (send r k request).samePublication = r.samePublication := by
  apply samePublication_congr
  intro j
  by_cases h : j = k
  · subst h
    rw [send_self]
    rfl
  · rw [send_of_ne r request h]

theorem PublishersKept.leave {r : Repository} (h : PublishersKept r) {k : Nat} (hk : k ∈ r.mPendingPublishers) :
    PublishersKept (leave r k) := by
  have hmem : ∀ j, j ∈ (Operations.leave r k).mPendingPublishers ↔ j ≠ k ∧ j ∈ r.mPendingPublishers :=
    fun j => h.nodup.mem_erase_iff
  constructor
  · exact h.nodup.erase k
  · intro j hj
    exact h.exist j ((hmem j).mp hj).2
  · intro j hj
    rw [hmem]
    by_cases hjk : j = k
    · subst hjk
      simp [leave_self, Operation.complete]
    · rw [leave_of_ne r hjk]
      simpa [hjk] using h.pending j hj
  · intro j hj
    by_cases hjk : j = k
    · subst hjk
      rw [leave_self]
      exact (h.settled j hj).complete
    · rw [leave_of_ne r hjk]
      exact h.settled j hj
  · intro j hj monitor hmonitor
    by_cases hjk : j = k
    · subst hjk
      rw [leave_self] at hmonitor
      cases hmonitor
    · rw [leave_of_ne r hjk] at hmonitor
      exact h.requests j hj monitor hmonitor

theorem PublishersKept.send {r : Repository} (h : PublishersKept r) {k : Nat} (hk : k ∈ r.mPendingPublishers)
    {request : Request} (hrequest : ∃ version, publishedTo (some { request }) = some version) :
    PublishersKept (send r k request) := by
  have hdelegate : (r.publishers k).mDelegate = true := (h.pending k (h.exist k hk)).mp hk
  constructor
  · exact h.nodup
  · exact h.exist
  · intro j hj
    by_cases hjk : j = k
    · subst hjk
      rw [send_self]
      exact h.pending j hj
    · rw [send_of_ne r request hjk]
      exact h.pending j hj
  · intro j hj
    by_cases hjk : j = k
    · subst hjk
      rw [send_self]
      exact ⟨(h.settled j hj).told, fun hgone => by simp_all [Operation.setMonitor]⟩
    · rw [send_of_ne r request hjk]
      exact h.settled j hj
  · intro j hj monitor hmonitor
    by_cases hjk : j = k
    · subst hjk
      rw [send_self] at hmonitor
      obtain rfl := Option.some.inj hmonitor
      exact ⟨rfl, hrequest⟩
    · rw [send_of_ne r request hjk] at hmonitor
      exact h.requests j hj monitor hmonitor

/-- Where the first publisher of each publication is sent but for that of one, an activation sends that. -/
theorem activatePublisher_books {m : Nat} (hkept : PublishersKept r)
    (hturns : FairBut r.samePublication r.Active r.mPendingPublishers m)
    (hr : r.activatePublisher (r.publishers m).mPublication = .ok r') : PublisherBooks r' := by
  simp only [Repository.activatePublisher] at hr
  split at hr
  case h_1 hfind =>
    obtain rfl := Except.ok.inj hr
    exact ⟨hkept, hturns.fair_of_none hfind⟩
  case h_2 k hfind =>
    have hk := List.mem_of_find?_eq_some hfind
    have hsame : r.samePublication m k = true := List.find?_some hfind
    have hwaits := hturns k hk
    rw [if_pos hsame] at hwaits
    split at hr
    case h_1 => cases hr
    case h_2 =>
      split at hr
      case isTrue hactive => exact absurd hactive hwaits
      case isFalse =>
        obtain rfl := Except.ok.inj hr
        have hsent := @PublishersKept.send r hkept k hk (r.publishRequest (r.publishers m).mPublication) ⟨_, rfl⟩
        refine ⟨hsent, ?_⟩
        change Turns.Fair (send r k _).samePublication _ _
        rw [send_samePublication]
        refine (hturns.give r.classes hfind).congr fun j hj => ?_
        by_cases hjk : j = k
        · subst hjk
          simp [Repository.Active, Operation.setMonitor]
        · simp [Repository.Active, hjk]

theorem PublisherBooks.activatePublisher (h : PublisherBooks r) (m : Nat)
    (haccount : r.caches.mAccount ≠ none ∨ r.mPendingPublishers.find? (r.samePublication m) = none) :
    r.activatePublisher (r.publishers m).mPublication = .ok r := by
  simp only [Repository.activatePublisher]
  split
  case h_1 => rfl
  case h_2 k hfind =>
    have hactive : r.Active k := h.turns.active_of_find r.classes hfind
    split
    case h_1 hgone =>
      rcases haccount with haccount | hnone
      · exact absurd hgone haccount
      · exact absurd (hnone.symm.trans hfind) (by simp)
    case h_2 => exact if_pos hactive

/-- Only the publishers and what is sent for them have changed. -/
structure SameElse (r r' : Repository) : Prop where
  fetching : r'.fetching = r.fetching
  removers : r'.removers = r.removers
  removersCreated : r'.removersCreated = r.removersCreated

theorem SameElse.trans {a b c : Repository} (hab : SameElse a b) (hbc : SameElse b c) : SameElse a c :=
  ⟨hbc.fetching.trans hab.fetching, hbc.removers.trans hab.removers, hbc.removersCreated.trans hab.removersCreated⟩

theorem leave_sameElse (r : Repository) (k : Nat) : SameElse r (leave r k) := ⟨rfl, rfl, rfl⟩

theorem activatePublisher_frame {publication : Nat} (hr : r.activatePublisher publication = .ok r') :
    SameElse r r' ∧ ∀ k, (r'.publishers k).mDelegate = (r.publishers k).mDelegate := by
  simp only [Repository.activatePublisher] at hr
  split at hr
  case h_1 =>
    cases hr
    exact ⟨⟨rfl, rfl, rfl⟩, fun _ => rfl⟩
  case h_2 k _ =>
    split at hr
    case h_1 => cases hr
    case h_2 =>
      split at hr
      case isTrue =>
        cases hr
        exact ⟨⟨rfl, rfl, rfl⟩, fun _ => rfl⟩
      case isFalse =>
        cases hr
        refine ⟨⟨rfl, rfl, rfl⟩, fun j => ?_⟩
        by_cases hjk : j = k
        · subst hjk
          simp [Operation.setMonitor]
        · simp [hjk]

theorem activatePublisher_ok {r : Repository} {publication : Nat}
    (h : r.caches.mAccount ≠ none ∨ r.mPendingPublishers.find? (r.publishes publication) = none) :
    ∃ r', r.activatePublisher publication = .ok r' := by
  simp only [Repository.activatePublisher]
  split
  case h_1 => exact ⟨r, rfl⟩
  case h_2 k hfind =>
    split
    case h_1 hgone =>
      rcases h with haccount | hnone
      · exact absurd hgone haccount
      · exact absurd (hnone.symm.trans hfind) (by simp)
    case h_2 =>
      split
      · exact ⟨r, rfl⟩
      · exact ⟨_, rfl⟩

/-- The account is there for the others of the publication of `k`, or there are none. -/
def OthersProvided (r : Repository) (k : Nat) : Prop :=
  r.caches.mAccount ≠ none ∨ ∀ j ∈ r.mPendingPublishers, j ≠ k → r.samePublication k j = false

/-- The others are provided for as before when only what `k` has become is changed. -/
theorem OthersProvided.modify (h : OthersProvided r k) (f : Operation → Operation)
    (hr : r'.publishers = r.publishers ∧ r'.mPendingPublishers = r.mPendingPublishers ∧ r'.caches.mAccount = r.caches.mAccount)
    (hf : ∀ o, (f o).mPublication = o.mPublication) : OthersProvided (r'.modifyPublisher k f) k := by
  have hsame : (r'.modifyPublisher k f).samePublication = r.samePublication := by
    apply samePublication_congr
    intro j
    by_cases hjk : j = k
    · subst hjk
      rw [modifyPublisher_self, hf, hr.1]
    · rw [modifyPublisher_of_ne _ _ hjk, hr.1]
  refine h.imp (fun haccount => hr.2.2 ▸ haccount) fun halone j hj hjk => ?_
  rw [hsame]
  exact halone j (hr.2.1 ▸ hj) hjk

theorem leave_provided (hkept : PublishersKept r) (h : OthersProvided r k) :
    (leave r k).caches.mAccount ≠ none ∨
      (leave r k).mPendingPublishers.find? ((leave r k).samePublication k) = none := by
  refine h.imp id fun halone => List.find?_eq_none.mpr fun j hj => ?_
  have hjk : j ≠ k := fun heq => hkept.nodup.not_mem_erase (heq ▸ hj)
  rw [leave_samePublication, halone j (List.mem_of_mem_erase hj) hjk]
  exact Bool.false_ne_true

theorem complete_eq {o : Operation} (h : o.Settled) (hleft : o.mDelegate = false) : o.complete = o := by
  have hmonitor := h.left hleft
  obtain ⟨_, _, _, _, _, _, _⟩ := o
  simp_all [Operation.complete]

variable {f : Operation → Operation}

theorem modifyPublisher_eq (h : f (r.publishers k) = r.publishers k) : r.modifyPublisher k f = r := by
  have hsame : Function.update r.publishers k (f (r.publishers k)) = r.publishers := by simp [h]
  simp only [modifyPublisher, hsame]

theorem cancelPublisher_spec (h : PublisherBooks r) (hk : k < r.publishersCreated)
    (hprovided : k ∈ r.mPendingPublishers → OthersProvided r k) :
    ∃ r', r.cancelPublisher k = .ok r' ∧ PublisherBooks r' ∧ (r'.publishers k).mDelegate = false ∧ SameElse r r' := by
  by_cases hmem : k ∈ r.mPendingPublishers
  · have hleft := leave_provided h.toPublishersKept (hprovided hmem)
    have hsame : (leave r k).samePublication k = (leave r k).publishes (r.publishers k).mPublication := by
      funext j
      simp only [samePublication, leave_self, Operation.complete]
    obtain ⟨r', hr⟩ := @activatePublisher_ok _ (r.publishers k).mPublication (hsame ▸ hleft)
    have hcancel : r.cancelPublisher k = .ok r' := by
      rw [cancelPublisher, if_pos hmem]
      exact hr
    obtain ⟨hframe, hdelegate⟩ := activatePublisher_frame hr
    have hcomplete : (r'.publishers k).mDelegate = false := by
      rw [hdelegate, leave_self]
      rfl
    have hpublication : ((leave r k).publishers k).mPublication = (r.publishers k).mPublication := by
      rw [leave_self]
      rfl
    rw [← hpublication] at hr
    have hactive : ∀ j ∈ r.mPendingPublishers.erase k, (leave r k).Active j ↔ r.Active j := by
      intro j hj
      have hjk : j ≠ k := fun heq => h.nodup.not_mem_erase (heq ▸ hj)
      simp only [Repository.Active, leave_of_ne r hjk]
    refine ⟨r', hcancel, ?_, hcomplete, (leave_sameElse r k).trans hframe⟩
    by_cases hturn : r.Active k
    · have hbut := (h.turns.erase_active r.classes h.nodup hmem hturn).congr hactive
      rw [← leave_samePublication r k] at hbut
      exact activatePublisher_books (h.toPublishersKept.leave hmem) hbut hr
    · have hfair := (h.turns.erase_waiting r.classes hmem hturn).congr hactive
      rw [← leave_samePublication r k] at hfair
      have hbooks : PublisherBooks (leave r k) := ⟨h.toPublishersKept.leave hmem, hfair⟩
      rw [hbooks.activatePublisher k hleft] at hr
      cases hr
      exact hbooks
  · have hdelegate : (r.publishers k).mDelegate = false := by
      have hpending := h.pending k hk
      simp_all
    have hsame := modifyPublisher_eq (complete_eq (h.settled k hk) hdelegate)
    refine ⟨r, ?_, h, hdelegate, ⟨rfl, rfl, rfl⟩⟩
    rw [cancelPublisher, if_neg hmem, hsame]

/-- A publisher is changed in what the books do not look at. -/
theorem PublisherBooks.modify (h : PublisherBooks r) (k : Nat)
    (hf : ∀ o, (f o).mPublication = o.mPublication ∧ (f o).mMonitor = o.mMonitor ∧ (f o).mDelegate = o.mDelegate ∧ (f o).told = o.told) :
    PublisherBooks (r.modifyPublisher k f) := by
  have hkept : ∀ j, ((r.modifyPublisher k f).publishers j).mPublication = (r.publishers j).mPublication ∧
      ((r.modifyPublisher k f).publishers j).mMonitor = (r.publishers j).mMonitor ∧
      ((r.modifyPublisher k f).publishers j).mDelegate = (r.publishers j).mDelegate ∧
      ((r.modifyPublisher k f).publishers j).told = (r.publishers j).told := by
    intro j
    by_cases hjk : j = k
    · subst hjk
      simpa using hf (r.publishers j)
    · simp [hjk]
  constructor
  · constructor
    · exact h.nodup
    · exact h.exist
    · intro j hj
      rw [(hkept j).2.2.1]
      exact h.pending j hj
    · intro j hj
      have hsettled := h.settled j hj
      constructor
      · rw [(hkept j).2.2.2, (hkept j).2.2.1]
        exact hsettled.told
      · rw [(hkept j).2.1, (hkept j).2.2.1]
        exact hsettled.left
    · intro j hj
      rw [(hkept j).2.1]
      exact h.requests j hj
  · rw [samePublication_congr fun j => (hkept j).1]
    exact h.turns.congr fun j _ => by simp only [Repository.Active, (hkept j).2.1]

theorem PublisherBooks.withFetching (h : PublisherBooks r) (fetching : Fetching.Repository) :
    PublisherBooks { r with fetching } :=
  ⟨{ h with }, h.turns⟩

theorem Books.withCaches (h : Books r) (caches : Caching.Repository) : Books (r.withCaches caches) :=
  ⟨h.fetching.withCaches caches, h.publishers.withFetching _, h.removers⟩

theorem Books.of_publishers (h : Books r) (hpublishers : PublisherBooks r') (helse : SameElse r r') : Books r' where
  fetching := helse.fetching ▸ h.fetching
  publishers := hpublishers
  removers := by
    intro k hk
    rw [helse.removers]
    exact h.removers k (helse.removersCreated ▸ hk)

/-! ## Publishing -/

section Publish

variable {r : Repository} {i : Nat}

theorem createPublisher_of_lt {k : Nat} (hk : k < r.publishersCreated) :
    (r.createPublisher i).publishers k = r.publishers k := by
  simp [createPublisher, Nat.ne_of_lt hk]

theorem createPublisher_self : (r.createPublisher i).publishers r.publishersCreated = { mPublication := i } := by
  simp [createPublisher]

/-- A new publisher that is pending. -/
def enqueue (r : Repository) (i : Nat) : Repository :=
  { r.createPublisher i with mPendingPublishers := r.mPendingPublishers ++ [r.publishersCreated] }

theorem enqueue_of_lt {k : Nat} (hk : k < r.publishersCreated) : (enqueue r i).publishers k = r.publishers k :=
  createPublisher_of_lt hk

theorem enqueue_self : (enqueue r i).publishers r.publishersCreated = { mPublication := i } := createPublisher_self

theorem lt_or_eq_of_lt_succ {k n : Nat} (h : k < n + 1) : k < n ∨ k = n := Nat.lt_or_eq_of_le (Nat.lt_succ_iff.mp h)

theorem enqueue_kept (h : PublishersKept r) : PublishersKept (enqueue r i) := by
  have hmem : ∀ k, k ∈ (enqueue r i).mPendingPublishers ↔ k ∈ r.mPendingPublishers ∨ k = r.publishersCreated := by
    simp [enqueue]
  have hself : (enqueue r i).publishers r.publishersCreated = { mPublication := i } := enqueue_self
  have hold : ∀ k < r.publishersCreated, (enqueue r i).publishers k = r.publishers k := fun k hk => enqueue_of_lt hk
  constructor
  · refine List.nodup_append.mpr ⟨h.nodup, List.nodup_singleton _, fun a ha b hb => ?_⟩
    rw [List.mem_singleton.mp hb]
    exact Nat.ne_of_lt (h.exist a ha)
  · intro k hk
    refine Nat.lt_succ_iff.mpr ?_
    rcases (hmem k).mp hk with hk | rfl
    · exact Nat.le_of_lt (h.exist k hk)
    · exact Nat.le_refl _
  · intro k hk
    rw [hmem]
    rcases lt_or_eq_of_lt_succ hk with hk | rfl
    · rw [hold k hk, ← h.pending k hk]
      exact or_iff_left (Nat.ne_of_lt hk)
    · simp [hself]
  · intro k hk
    rcases lt_or_eq_of_lt_succ hk with hk | rfl
    · rw [hold k hk]
      exact h.settled k hk
    · rw [hself]
      exact ⟨rfl, fun _ => rfl⟩
  · intro k hk monitor hmonitor
    rcases lt_or_eq_of_lt_succ hk with hk | rfl
    · rw [hold k hk] at hmonitor
      exact h.requests k hk monitor hmonitor
    · rw [hself] at hmonitor
      cases hmonitor

theorem enqueue_turns (h : PublisherBooks r) :
    Turns.Fair (enqueue r i).samePublication (enqueue r i).Active r.mPendingPublishers := by
  have hold : ∀ k ∈ r.mPendingPublishers, (enqueue r i).publishers k = r.publishers k := fun k hk =>
    enqueue_of_lt (h.exist k hk)
  have hsame : Turns.Fair (enqueue r i).samePublication r.Active r.mPendingPublishers := by
    refine h.turns.congr_same fun k hk j hj => ?_
    simp only [samePublication, publishes, hold k hk, hold j hj]
  refine hsame.congr fun k hk => ?_
  simp only [Repository.Active, hold k hk]

/-- A publisher of another location waits for its turn, or is sent. -/
theorem enqueue_activate (h : PublisherBooks r) (haccount : r.caches.mAccount ≠ none) :
    ∃ r', (enqueue r i).activatePublisher i = .ok r' ∧ PublisherBooks r' ∧ SameElse (enqueue r i) r' := by
  have hself : (enqueue r i).publishers r.publishersCreated = { mPublication := i } := enqueue_self
  have hfresh : r.publishersCreated ∉ r.mPendingPublishers := fun hmem => Nat.lt_irrefl _ (h.exist _ hmem)
  have hwaits : ¬(enqueue r i).Active r.publishersCreated := by simp [Repository.Active, hself]
  have hturns := enqueue_turns (i := i) h
  obtain ⟨r', hr⟩ := @activatePublisher_ok (enqueue r i) i (.inl haccount)
  refine ⟨r', hr, ?_, (activatePublisher_frame hr).1⟩
  have hpublication : ((enqueue r i).publishers r.publishersCreated).mPublication = i := by rw [hself]
  have hr' : (enqueue r i).activatePublisher ((enqueue r i).publishers r.publishersCreated).mPublication = .ok r' := by
    rw [hpublication]
    exact hr
  cases hfind : r.mPendingPublishers.find? ((enqueue r i).samePublication r.publishersCreated) with
  | some k =>
    have hfair := hturns.append_waiting (classes _) hfresh hwaits (by simp [hfind])
    have hbooks : PublisherBooks (enqueue r i) := ⟨enqueue_kept h.toPublishersKept, hfair⟩
    rw [hbooks.activatePublisher r.publishersCreated (.inl haccount)] at hr'
    cases hr'
    exact hbooks
  | none =>
    have hbut := hturns.append_first (classes _) hwaits hfind
    exact activatePublisher_books (enqueue_kept h.toPublishersKept) hbut hr'

/-- A publisher that completes at once. -/
theorem createPublisher_complete_books (h : PublisherBooks r) :
    PublisherBooks ((r.createPublisher i).modifyPublisher r.publishersCreated fun o => o.succeed.complete) := by
  have hold : ∀ k < r.publishersCreated, ((r.createPublisher i).modifyPublisher r.publishersCreated
      fun o => o.succeed.complete).publishers k = r.publishers k := by
    intro k hk
    rw [modifyPublisher_of_ne _ _ (Nat.ne_of_lt hk), createPublisher_of_lt hk]
  have hself : ((r.createPublisher i).modifyPublisher r.publishersCreated
      fun o => o.succeed.complete).publishers r.publishersCreated =
      (Operation.succeed { mPublication := i }).complete := by
    rw [modifyPublisher_self, createPublisher_self]
  have hfresh : r.publishersCreated ∉ r.mPendingPublishers := fun hmem => Nat.lt_irrefl _ (h.exist _ hmem)
  constructor
  · constructor
    · exact h.nodup
    · intro k hk
      exact Nat.lt_succ_of_lt (h.exist k hk)
    · intro k hk
      rcases lt_or_eq_of_lt_succ hk with hk | rfl
      · rw [hold k hk]
        exact h.pending k hk
      · rw [hself]
        exact iff_of_false hfresh (by simp [Operation.complete])
    · intro k hk
      rcases lt_or_eq_of_lt_succ hk with hk | rfl
      · rw [hold k hk]
        exact h.settled k hk
      · rw [hself]
        exact ⟨rfl, fun _ => rfl⟩
    · intro k hk monitor hmonitor
      rcases lt_or_eq_of_lt_succ hk with hk | rfl
      · rw [hold k hk] at hmonitor
        exact h.requests k hk monitor hmonitor
      · rw [hself] at hmonitor
        cases hmonitor
  · have hsame : Turns.Fair ((r.createPublisher i).modifyPublisher r.publishersCreated
        fun o => o.succeed.complete).samePublication r.Active r.mPendingPublishers := by
      refine h.turns.congr_same fun k hk j hj => ?_
      simp only [samePublication, publishes, hold k (h.exist k hk), hold j (h.exist j hj)]
    refine hsame.congr fun k hk => ?_
    simp only [Repository.Active, hold k (h.exist k hk)]

end Publish

/-- No request was sent, and what was created has completed. -/
structure DoneAtOnce (r r' : Repository) : Prop where
  sent : r'.sent = r.sent
  fetchesSent : r'.fetching.sent = r.fetching.sent
  publishers : ∀ k, r.publishersCreated ≤ k → k < r'.publishersCreated → (r'.publishers k).mDelegate = false
  fetchers : ∀ i, r.fetching.created ≤ i → i < r'.fetching.created → (r'.fetching.fetchers i).mDelegate = false
  removers : ∀ k, r.removersCreated ≤ k → k < r'.removersCreated → (r'.removers k).mDelegate = false

theorem DoneAtOnce.refl (r : Repository) : DoneAtOnce r r :=
  ⟨rfl, rfl, fun _ hle hlt => absurd hlt (Nat.not_lt.mpr hle), fun _ hle hlt => absurd hlt (Nat.not_lt.mpr hle),
    fun _ hle hlt => absurd hlt (Nat.not_lt.mpr hle)⟩

theorem publish_spec (h : Books r) (i : Nat) :
    ∃ r', r.publish i = .ok r' ∧ Books r' ∧
      (Caching.Repository.isLocal (r.caches.publications i).mPublishedLocation = true → DoneAtOnce r r') := by
  simp only [publish]
  split
  case h_1 => exact ⟨r, rfl, h, fun _ => .refl r⟩
  case h_2 haccount =>
    have hthere : r.caches.mAccount ≠ none := by simp [haccount]
    split
    case isTrue =>
      refine ⟨_, rfl, ⟨?_, ?_, h.removers⟩, fun _ => ⟨rfl, rfl, fun k hle hlt => ?_, fun i hle hlt => ?_,
        fun k hle hlt => ?_⟩⟩
      · exact h.fetching.withCaches _
      · have hbooks := createPublisher_complete_books (i := i) h.publishers
        exact ⟨{ hbooks with }, hbooks.turns⟩
      · obtain rfl : k = r.publishersCreated := Nat.le_antisymm (Nat.lt_succ_iff.mp hlt) hle
        rw [modifyPublisher_self]
        rfl
      · exact absurd hlt (Nat.not_lt.mpr hle)
      · exact absurd hlt (Nat.not_lt.mpr hle)
    case isFalse hremote =>
      obtain ⟨r', hr, hbooks, helse⟩ := enqueue_activate (i := i) h.publishers hthere
      refine ⟨r', hr, ?_, fun hlocal => absurd hlocal hremote⟩
      exact ⟨helse.fetching ▸ h.fetching, hbooks, fun k hk => by
        rw [helse.removers]
        exact h.removers k (helse.removersCreated ▸ hk)⟩

theorem onPublishResult_spec (h : Books r) (hk : k < r.publishersCreated)
    (hprovided : (r.publishers k).handles = true → OthersProvided r k) :
    ∃ r', r.onPublishResult k = .ok r' ∧ Books r' ∧
      ((r.publishers k).handles = true → (r'.publishers k).mDelegate = false) := by
  simp only [onPublishResult]
  split
  case isTrue hhandles =>
    obtain ⟨version, hversion⟩ : ∃ version, publishedTo (r.publishers k).mMonitor = some version := by
      cases hmonitor : (r.publishers k).mMonitor with
      | none => simp [Operation.handles, Operation.monitored, hmonitor] at hhandles
      | some monitor => exact (h.publishers.requests k hk monitor hmonitor).2
    rw [hversion]
    have hbase : Books (r.setBaseVersion (r.publishers k).mPublication (version + 1)) := h.withCaches _
    have hsucceeded := hbase.publishers.modify k (f := Operation.succeed) fun _ => ⟨rfl, rfl, rfl, rfl⟩
    obtain ⟨r', hr, hbooks, hcomplete, helse⟩ := cancelPublisher_spec hsucceeded hk fun _ =>
      (hprovided hhandles).modify _ ⟨rfl, rfl, rfl⟩ fun _ => rfl
    exact ⟨r', hr, hbase.of_publishers hbooks { helse with },
      fun _ => hcomplete⟩
  case isFalse hnot => exact ⟨r, rfl, h, fun hhandles => absurd hhandles hnot⟩

theorem onPublishError_spec (h : Books r) (hk : k < r.publishersCreated) (errorCode : Nat)
    (errorReason : String) (hprovided : (r.publishers k).handles = true → OthersProvided r k) :
    ∃ r', r.onPublishError k errorCode errorReason = .ok r' ∧ Books r' ∧
      ((r.publishers k).handles = true → (r'.publishers k).mDelegate = false) := by
  simp only [onPublishError]
  split
  case isTrue hhandles =>
    have hfailed := h.publishers.modify k (f := fun o => o.fail errorCode errorReason) fun _ => ⟨rfl, rfl, rfl, rfl⟩
    obtain ⟨r', hr, hbooks, hcomplete, helse⟩ := cancelPublisher_spec hfailed hk fun _ =>
      (hprovided hhandles).modify _ ⟨rfl, rfl, rfl⟩ fun _ => rfl
    exact ⟨r', hr, h.of_publishers hbooks { helse with }, fun _ => hcomplete⟩
  case isFalse hnot => exact ⟨r, rfl, h, fun hhandles => absurd hhandles hnot⟩

theorem onPublishTimedOut_spec (h : Books r) (hk : k < r.publishersCreated)
    (hprovided : (r.publishers k).monitored = true → OthersProvided r k) :
    ∃ r', r.onPublishTimedOut k = .ok r' ∧ Books r' ∧
      ((r.publishers k).handles = true → (r'.publishers k).mDelegate = false) := by
  simp only [onPublishTimedOut]
  split
  case isTrue hmonitored =>
    obtain ⟨r', hr, hbooks, hcomplete, helse⟩ := cancelPublisher_spec h.publishers hk fun _ => hprovided hmonitored
    exact ⟨r', hr, h.of_publishers hbooks helse, fun _ => hcomplete⟩
  case isFalse hnot =>
    refine ⟨r, rfl, h, fun hhandles => absurd ?_ hnot⟩
    simp only [Operation.handles, Bool.and_eq_true] at hhandles
    exact hhandles.2

/-! ## Removing -/

theorem RemoverBooks.modify (h : RemoverBooks r) (k : Nat)
    (hf : k < r.removersCreated → (f (r.removers k)).Settled ∧ ((f (r.removers k)).mDelegate = true → (f (r.removers k)).monitored = true)) :
    RemoverBooks (r.modifyRemover k f) := by
  intro j hj
  by_cases hjk : j = k
  · subst hjk
    rw [r.modifyRemover_self]
    exact hf hj
  · rw [r.modifyRemover_of_ne f hjk]
    exact h j hj

theorem RemoverBooks.complete (h : RemoverBooks r) (k : Nat) :
    RemoverBooks (r.modifyRemover k Operation.complete) :=
  h.modify k fun hk => ⟨(h k hk).1.complete, fun hdelegate => absurd hdelegate Bool.false_ne_true⟩

variable {i : Nat}

theorem createRemover_of_lt (hk : k < r.removersCreated) : (r.createRemover i).removers k = r.removers k := by
  simp [createRemover, Nat.ne_of_lt hk]

theorem createRemover_self : (r.createRemover i).removers r.removersCreated = { mPublication := i } := by
  simp [createRemover]

theorem createRemover_books (h : RemoverBooks r)
    (hf : (f { mPublication := i }).Settled ∧ ((f { mPublication := i }).mDelegate = true → (f { mPublication := i }).monitored = true)) :
    RemoverBooks ((r.createRemover i).modifyRemover r.removersCreated f) := by
  intro k hk
  rcases lt_or_eq_of_lt_succ hk with hk | rfl
  · rw [modifyRemover_of_ne _ _ (Nat.ne_of_lt hk), createRemover_of_lt hk]
    exact h k hk
  · rw [modifyRemover_self, createRemover_self]
    exact hf

theorem Books.of_removers (h : Books r) (hfetching : r'.fetching = r.fetching)
    (hpublishers : r'.publishers = r.publishers ∧ r'.publishersCreated = r.publishersCreated ∧ r'.mPendingPublishers = r.mPendingPublishers)
    (hremovers : RemoverBooks r') : Books r' := by
  obtain ⟨hpublishers, hcreated, hpending⟩ := hpublishers
  cases r'
  subst hfetching hpublishers hcreated hpending
  exact ⟨h.fetching, ⟨⟨h.publishers.nodup, h.publishers.exist, h.publishers.pending, h.publishers.settled,
    h.publishers.requests⟩, h.publishers.turns⟩, hremovers⟩

theorem remove_spec (h : Books r) (i : Nat)
    (horderly : Caching.Repository.isLocal (r.caches.publications i).mPublishedLocation = true → r.caches.mAccount = none) :
    Books (r.remove i) ∧
      (Caching.Repository.isLocal (r.caches.publications i).mPublishedLocation = true →
        DoneAtOnce r (r.remove i)) := by
  simp only [remove]
  split
  case h_1 =>
    refine ⟨h.of_removers rfl ⟨rfl, rfl, rfl⟩ ?_, fun _ => ⟨rfl, rfl, fun k hle hlt => ?_, fun i hle hlt => ?_,
      fun k hle hlt => ?_⟩⟩
    · refine createRemover_books h.removers ⟨⟨rfl, fun _ => rfl⟩, fun hdelegate => absurd hdelegate Bool.false_ne_true⟩
    · exact absurd hlt (Nat.not_lt.mpr hle)
    · exact absurd hlt (Nat.not_lt.mpr hle)
    · obtain rfl : k = r.removersCreated := Nat.le_antisymm (Nat.lt_succ_iff.mp hlt) hle
      rw [modifyRemover_self]
      rfl
  case h_2 haccount =>
    have hthere : r.caches.mAccount ≠ none := by
      intro hgone
      exact absurd (hgone.symm.trans haccount) (by simp)
    split
    case isTrue hlocal => exact absurd (horderly hlocal) hthere
    case isFalse hremote =>
      refine ⟨h.of_removers rfl ⟨rfl, rfl, rfl⟩ ?_, fun hlocal => absurd hlocal hremote⟩
      have hnew : ∀ request, (({ mPublication := i } : Operation).setMonitor request).Settled ∧
          ((({ mPublication := i } : Operation).setMonitor request).mDelegate = true →
            (({ mPublication := i } : Operation).setMonitor request).monitored = true) :=
        fun request => ⟨⟨rfl, fun hgone => absurd hgone.symm Bool.false_ne_true⟩, fun _ => rfl⟩
      exact createRemover_books h.removers (f := fun o => o.setMonitor _) (hnew _)

theorem onDeleteResult_books (h : Books r) (k : Nat) :
    Books (r.onDeleteResult k) ∧
      ((r.removers k).handles = true → ((r.onDeleteResult k).removers k).mDelegate = false) := by
  simp only [onDeleteResult]
  split
  case isTrue =>
    have hcaches := h.withCaches (r.caches.notifyRemoved (r.removers k).mPublication)
    refine ⟨hcaches.of_removers rfl ⟨rfl, rfl, rfl⟩ ?_, fun _ => ?_⟩
    · refine hcaches.removers.modify k fun hk => ⟨?_, fun hdelegate => absurd hdelegate Bool.false_ne_true⟩
      have hsettled := (h.removers k hk).1
      have hsucceeded : ((r.removers k).succeed).Settled := ⟨hsettled.told, hsettled.left⟩
      exact hsucceeded.complete
    · rw [modifyRemover_self]
      rfl
  case isFalse hnot => exact ⟨h, fun hhandles => absurd hhandles hnot⟩

theorem onDeleteTimedOut_books (h : Books r) (k : Nat) :
    Books (r.onDeleteTimedOut k) ∧
      ((r.removers k).handles = true → ((r.onDeleteTimedOut k).removers k).mDelegate = false) := by
  simp only [onDeleteTimedOut]
  split
  case isTrue =>
    refine ⟨h.of_removers rfl ⟨rfl, rfl, rfl⟩ (h.removers.complete k), fun _ => ?_⟩
    rw [modifyRemover_self]
    rfl
  case isFalse hnot =>
    refine ⟨h, fun hhandles => absurd ?_ hnot⟩
    simp only [Operation.handles, Bool.and_eq_true] at hhandles
    exact hhandles.2

/-! ## Cancelling -/

theorem foldl_complete (l : List Nat) (r : Repository) :
    SameElse r (l.foldl (fun r k => r.modifyPublisher k Operation.complete) r) ∧
      (l.foldl (fun r k => r.modifyPublisher k Operation.complete) r).publishersCreated = r.publishersCreated ∧
      (l.foldl (fun r k => r.modifyPublisher k Operation.complete) r).mPendingPublishers = r.mPendingPublishers ∧
      ∀ k, (l.foldl (fun r k => r.modifyPublisher k Operation.complete) r).publishers k =
        if k ∈ l then (r.publishers k).complete else r.publishers k := by
  have htwice : ∀ o : Operation, o.complete.complete = o.complete := by simp [Operation.complete]
  induction l generalizing r with
  | nil => exact ⟨⟨rfl, rfl, rfl⟩, rfl, rfl, fun _ => rfl⟩
  | cons j l ih =>
    obtain ⟨helse, hcreated, hpending, hpublishers⟩ := ih (r.modifyPublisher j Operation.complete)
    refine ⟨{ helse with }, hcreated, hpending, fun k => ?_⟩
    rw [List.foldl_cons, hpublishers]
    by_cases hkj : k = j
    · subst hkj
      simp [htwice]
    · simp [hkj]

/-- After the repository is cancelled every publisher has completed. -/
theorem cancel_books (h : Books r) : Books r.cancel := by
  obtain ⟨helse, hcreated, hpending, hpublishers⟩ := foldl_complete r.mPendingPublishers
    { r with fetching := r.fetching.cancel, mPendingPublishers := [] }
  have hnone : ∀ k, k ∉ r.cancel.mPendingPublishers := by
    intro k hk
    rw [cancel, hpending] at hk
    cases hk
  have hexist : ∀ k, k < r.cancel.publishersCreated → k < r.publishersCreated := by
    intro k hk
    rwa [cancel, hcreated] at hk
  have hsettled : ∀ k < r.publishersCreated, (r.cancel.publishers k).Settled ∧
      (r.cancel.publishers k).mDelegate = false := by
    intro k hk
    rw [cancel, hpublishers]
    split
    case isTrue => exact ⟨(h.publishers.settled k hk).complete, rfl⟩
    case isFalse hleft =>
      have hpending := h.publishers.pending k hk
      exact ⟨h.publishers.settled k hk, by simp_all⟩
  refine ⟨?_, ⟨⟨?_, fun k hk => absurd hk (hnone k), ?_, ?_, ?_⟩, fun k hk => absurd hk (hnone k)⟩, ?_⟩
  · exact helse.fetching ▸ Fetching.cancel_books h.fetching
  · rw [cancel, hpending]
    exact List.nodup_nil
  · intro k hk
    exact iff_of_false (hnone k) (by simp [(hsettled k (hexist k hk)).2])
  · intro k hk
    exact (hsettled k (hexist k hk)).1
  · intro k hk monitor hmonitor
    obtain ⟨hdone, hdelegate⟩ := hsettled k (hexist k hk)
    rw [hdone.left hdelegate] at hmonitor
    cases hmonitor
  · intro k hk
    have hremovers : r.cancel.removers = r.removers := helse.removers
    rw [hremovers]
    exact h.removers k (helse.removersCreated ▸ hk)

end OpenPeer.Operations
