import OpenPeer.PublicationNotifications

/-!
# Updates and what is gone

In a run each event tells the subscribers of what they are to be told of, while the event is
one at which the subscriptions of applications and the permissions of peers do not count.
-/
namespace OpenPeer.Notifications

open Broadcast (Tells)
open Repository

/-- No subscription of an application that is not cancelled is for a publication. -/
def NoLocal (r : Repository) (i : Nat) : Prop :=
  ∀ s ∈ r.subscriptionsLocal, s.2.mDelegate = true → r.isMatching s.2.mSubscriptionInfo i = false

/-- What is published, deleted or cancelled is for no subscription of an application, nothing is deleted while peers
subscribe, and at a cancel the peers that are to be told are those that may subscribe at the location that their
subscription is published to. -/
def Orderly (r : Repository) : Event → Prop
  | .cache (.publish i) => r.publishesLocally i = true → NoLocal (r.cachePublished i) i
  | .cache (.peerDelete location metaData) => ∀ found, r.findDeleted location metaData = some found →
      NoLocal r found.2 ∧ r.mPeerSubscriptionsIncoming = []
  | .cache .cancel => ∀ i ∈ r.cachedLocal, NoLocal r i ∧ ∀ s ∈ r.mPeerSubscriptionsIncoming,
      r.isUnder s.2.mSubscriptionInfo i = true →
        (r.caches.mAccount.isSome = true ∧
            r.canSubscribe s.2.mSubscriptionInfo s.2.mSubscriptionInfo.mPublishedLocation i = true ↔
          r.canSubscribe s.2.mSubscriptionInfo s.2.mSubscriptionInfo.mCreatorLocation i = true)
  | _ => True

/-- The map of the subscriptions of applications is empty, and every subscription has a number of its own. -/
structure Books (r : Repository) : Prop where
  noneLocal : r.mSubscriptionsLocal = []
  numberedLocal : ∀ s ∈ r.subscriptionsLocal, s.1 < r.created
  numberedIncoming : ∀ s ∈ r.mPeerSubscriptionsIncoming, s.1 < r.created

variable {r r' : Repository}

theorem mem_subscriptions {k : Nat} {info : PublicationMetaData} :
    (k, info) ∈ r.subscriptions ↔
      (∃ s, (k, s) ∈ r.subscriptionsLocal ∧ s.mDelegate = true ∧ s.mSubscriptionInfo = info) ∨
        ∃ s, (k, s) ∈ r.mPeerSubscriptionsIncoming ∧ s.mSubscriptionInfo = info := by
  simp only [subscriptions, List.mem_append, List.mem_map, List.mem_filter, Prod.exists, Prod.mk.injEq]
  constructor
  · rintro (⟨k', s, ⟨hmem, hdelegate⟩, rfl, rfl⟩ | ⟨k', s, hmem, rfl, rfl⟩)
    · exact .inl ⟨s, hmem, hdelegate, rfl⟩
    · exact .inr ⟨s, hmem, rfl⟩
  · rintro (⟨s, hmem, hdelegate, rfl⟩ | ⟨s, hmem, rfl⟩)
    · exact .inl ⟨k, s, ⟨hmem, hdelegate⟩, rfl, rfl⟩
    · exact .inr ⟨k, s, hmem, rfl, rfl⟩

theorem NoLocal.subscription {i : Nat} (h : NoLocal r i) (k : Nat) :
    (∃ info, (k, info) ∈ r.subscriptions ∧ r.isMatching info i = true) ↔
      ∃ s, (k, s) ∈ r.mPeerSubscriptionsIncoming ∧ r.isMatching s.mSubscriptionInfo i = true := by
  constructor
  · rintro ⟨info, hmem, hmatching⟩
    rcases mem_subscriptions.mp hmem with ⟨s, hs, hdelegate, rfl⟩ | ⟨s, hs, rfl⟩
    · rw [h _ hs hdelegate] at hmatching
      cases hmatching
    · exact ⟨s, hs, hmatching⟩
  · rintro ⟨s, hs, hmatching⟩
    exact ⟨_, mem_subscriptions.mpr (.inr ⟨s, hs, rfl⟩), hmatching⟩

theorem Books.notifyLocal (h : Books r) (cachedPublications : List Nat) : r.notifyLocal cachedPublications = [] := by
  simp [Repository.notifyLocal, h.noneLocal, Broadcast.messages]

theorem Books.fresh (h : Books r) (info : PublicationMetaData) : (r.created, info) ∉ r.subscriptions := by
  intro hmem
  rcases mem_subscriptions.mp hmem with ⟨s, hs, -, -⟩ | ⟨s, hs, -⟩
  · exact Nat.lt_irrefl _ (h.numberedLocal _ hs)
  · exact Nat.lt_irrefl _ (h.numberedIncoming _ hs)

theorem TellsDue.quiet {e : Event} (hnew : ∀ info, (r.created, info) ∉ r'.subscriptions)
    (hupdated : r'.updated = r.updated) (hgone : r'.gone = r.gone)
    (hpublish : ∀ i, e = .cache (.publish i) → i < r.caches.created → r.publishesLocally i = false)
    (hdue : ∀ k i, ¬DueGone r e k i) : TellsDue r e r' where
  updated := by
    refine ⟨[], by simp [hupdated], fun k i => ?_⟩
    simp only [Broadcast.tells_nil, false_iff]
    intro hdue
    cases hdue with
    | published hexists hlocal =>
      rw [hpublish _ rfl hexists] at hlocal
      cases hlocal
    | subscribed hsubscription => exact hnew _ hsubscription
  gone := by
    refine ⟨[], by simp [hgone], fun k i => ?_⟩
    simpa using hdue k i

/-! ## What is published and what is gone -/

theorem publish_spec (h : Books r) {i : Nat} (hexists : i < r.caches.created)
    (horderly : Orderly r (.cache (.publish i))) :
    Books (r.publish i) ∧ TellsDue r (.cache (.publish i)) (r.publish i) := by
  simp only [publish]
  split
  case isFalse hremote =>
    have hbooks : Books { r with caches := r.caches.publish i } := { h with }
    refine ⟨hbooks, .quiet hbooks.fresh rfl rfl ?_ ?_⟩
    · intro j heq _
      cases heq
      simpa using hremote
    · intro k j hdue
      cases hdue
  case isTrue hlocal =>
    have hno := horderly hlocal
    have haccount : (r.cachePublished i).caches.mAccount.isSome = true := by
      simp only [publishesLocally, Bool.and_eq_true] at hlocal
      simp only [cachePublished, Caching.Repository.publish]
      split
      · exact hlocal.1
      · simp [hlocal]
    have hbooks : Books (r.cachePublished i) := { h with }
    refine ⟨{ h with }, ⟨_, rfl, fun k j => ?_⟩, ⟨[], ?_, fun k j => ?_⟩⟩
    · rw [hbooks.notifyLocal, List.nil_append, notifyUpdated, Broadcast.tells_messages]
      simp only [List.mem_singleton, acceptsUpdated, haccount, Bool.true_and]
      have hsubscription := hno.subscription k
      constructor
      · rintro ⟨rfl, htold⟩
        obtain ⟨info, hmem, hmatching⟩ := hsubscription.mpr htold
        exact .published hexists hlocal hmem hmatching
      · intro hdue
        cases hdue with
        | published _ _ hmem hmatching => exact ⟨rfl, hsubscription.mp ⟨_, hmem, hmatching⟩⟩
        | subscribed hmem => exact absurd hmem (h.fresh _)
    · simp [cachePublished]
    · simp only [Broadcast.tells_nil, false_iff]
      intro hdue
      cases hdue

theorem delete_spec (h : Books r) {location : Option Location} {metaData : Caching.CacheMetaData}
    (horderly : Orderly r (.cache (.peerDelete location metaData))) :
    ∃ r', r.onPeerDelete location metaData = .ok r' ∧ Books r' ∧
      TellsDue r (.cache (.peerDelete location metaData)) r' := by
  -- whoever is to be told is an application, and none is
  have hnobody : ∀ k i, ¬DueGone r (.cache (.peerDelete location metaData)) k i := by
    intro k i hdue
    cases hdue with
    | deleted hfound hmem hmatching =>
      obtain ⟨hno, hnone⟩ := horderly _ hfound
      obtain ⟨s, hs, -⟩ := (hno.subscription k).mp ⟨_, hmem, hmatching⟩
      simp [hnone] at hs
  have hquiet : ∀ caches, Books { r with caches } ∧
      TellsDue r (.cache (.peerDelete location metaData)) { r with caches } := by
    intro caches
    have hbooks : Books { r with caches } := { h with }
    exact ⟨hbooks, .quiet hbooks.fresh rfl rfl (fun _ heq => by cases heq) hnobody⟩
  simp only [onPeerDelete]
  split
  case h_1 => exact ⟨r, rfl, hquiet r.caches⟩
  case h_2 haccount =>
    split
    case h_1 => exact ⟨r, rfl, hquiet r.caches⟩
    case h_2 found hfound =>
      have hfound : r.findDeleted location metaData = some found := by
        simpa [findDeleted, haccount] using hfound
      obtain ⟨-, hnone⟩ := horderly found hfound
      rw [if_pos (by simp [h.noneLocal, hnone])]
      exact ⟨_, rfl, hquiet _⟩

theorem cancel_spec (h : Books r) (horderly : Orderly r (.cache .cancel)) :
    Books r.cancel ∧ TellsDue r (.cache .cancel) r.cancel := by
  have hcancel : r.cancel = { r with
      gone := r.gone ++ r.cachedLocal.flatMap fun i => r.notifyGone [i]
      caches := r.caches.cancel
      mSubscriptionsLocal := []
      mPeerSubscriptionsIncoming := [] } := by
    simp [cancel, h.notifyLocal, h.noneLocal]
  have hbooks : Books r.cancel := by
    rw [hcancel]
    exact ⟨rfl, h.numberedLocal, by simp⟩
  refine ⟨hbooks, ⟨[], by simp [hcancel], fun k i => ?_⟩, ⟨_, by rw [hcancel], fun k i => ?_⟩⟩
  · simp only [Broadcast.tells_nil, false_iff]
    intro hdue
    cases hdue with
    | subscribed hsubscription =>
      have hcreated : r.created = r.cancel.created := by rw [hcancel]
      rw [hcreated] at hsubscription
      exact hbooks.fresh _ hsubscription
  · -- a peer is told when its subscription is for the publication
    have haccepts : ∀ i ∈ r.cachedLocal, ∀ s ∈ r.mPeerSubscriptionsIncoming,
        r.acceptsGone s.2 i = true ↔ r.isMatching s.2.mSubscriptionInfo i = true := by
      intro i hi s hs
      have hagree := (horderly i hi).2 s hs
      simp only [acceptsGone, isMatching, accepts, Bool.and_eq_true]
      grind
    simp only [Broadcast.tells_flatMap, notifyGone, Broadcast.tells_messages, List.mem_singleton]
    constructor
    · rintro ⟨i', hi, rfl, s, hs, htold⟩
      have hmatching := (haccepts i hi (k, s) hs).mp htold
      exact .cancelled hi (mem_subscriptions.mpr (.inr ⟨s, hs, rfl⟩)) hmatching
    · intro hdue
      cases hdue with
      | cancelled hi hmem hmatching =>
        obtain ⟨s, hs, hmatching⟩ := ((horderly i hi).1.subscription k).mp ⟨_, hmem, hmatching⟩
        exact ⟨i, hi, rfl, s, hs, (haccepts i hi (k, s) hs).mpr hmatching⟩

/-! ## What is subscribed -/

theorem TellsDue.subscribed {e : Event} {info : PublicationMetaData} {sent : List (Nat × List Nat)}
    (hnew : ∀ info', (r.created, info') ∈ r'.subscriptions ↔ info' = info) (hupdated : r'.updated = r.updated ++ sent)
    (hgone : r'.gone = r.gone)
    (hsent : ∀ k i, Tells sent k i ↔ k = r.created ∧ i ∈ r'.cachedLocal ∧ r'.isMatching info i = true)
    (hpublish : ∀ i, e ≠ .cache (.publish i)) (hdue : ∀ k i, ¬DueGone r e k i) : TellsDue r e r' where
  updated := by
    refine ⟨sent, hupdated, fun k i => ?_⟩
    rw [hsent]
    constructor
    · rintro ⟨rfl, hcached, hmatching⟩
      exact .subscribed ((hnew info).mpr rfl) hcached hmatching
    · intro hdue
      cases hdue with
      | published => exact absurd rfl (hpublish i)
      | subscribed hsubscription hcached hmatching =>
        rw [(hnew _).mp hsubscription] at hmatching
        exact ⟨rfl, hcached, hmatching⟩
  gone := by
    refine ⟨[], by simp [hgone], fun k i => ?_⟩
    simpa using hdue k i

section

variable (h : Books r)
include h

theorem Books.holdLocal (subscription : SubscriptionLocal) : Books (r.holdLocal subscription) where
  noneLocal := h.noneLocal
  numberedLocal s hs := by
    simp only [Repository.holdLocal, List.mem_append, List.mem_singleton] at hs ⊢
    rcases hs with hs | rfl
    · exact Nat.lt_succ_of_lt (h.numberedLocal s hs)
    · exact Nat.lt_succ_self _
  numberedIncoming s hs := Nat.lt_succ_of_lt (h.numberedIncoming s hs)

theorem Books.mem_holdLocal (subscription : SubscriptionLocal) (info : PublicationMetaData) :
    (r.created, info) ∈ (r.holdLocal subscription).subscriptions ↔
      subscription.mDelegate = true ∧ info = subscription.mSubscriptionInfo := by
  have hfresh := h.fresh info
  rw [mem_subscriptions] at hfresh ⊢
  simp only [Repository.holdLocal, List.mem_append, List.mem_singleton, Prod.mk.injEq, true_and]
  grind

theorem subscribe_spec (subscribeToLocation : Location) (publicationPath : String)
    (relationships : SubscribeToRelationshipsMap) :
    Books (r.subscribe subscribeToLocation publicationPath relationships) ∧
      TellsDue r (.subscribe subscribeToLocation publicationPath relationships)
        (r.subscribe subscribeToLocation publicationPath relationships) := by
  have hdue : ∀ k i, ¬DueGone r (.subscribe subscribeToLocation publicationPath relationships) k i := by
    intro k i hdue
    cases hdue
  have hpublish : ∀ i, Event.subscribe subscribeToLocation publicationPath relationships ≠ .cache (.publish i) := by
    simp
  have hmem := h.mem_holdLocal (r.createLocal publicationPath relationships)
  simp only [subscribe]
  split
  · split
    case h_1 =>
      refine ⟨h.holdLocal _, .quiet (fun info hnew => ?_) rfl rfl (fun i heq => absurd heq (hpublish i)) hdue⟩
      have hdelegate := ((h.mem_holdLocal _ info).mp hnew).1
      cases hdelegate
    case h_2 localLocation haccount =>
      have hbooks := h.holdLocal (r.createLocal publicationPath relationships)
      refine ⟨{ hbooks with }, ?_⟩
      refine TellsDue.subscribed (fun info => (hmem info).trans (and_iff_right rfl)) rfl rfl ?_ hpublish hdue
      intro k i
      have hhere : (r.createLocal publicationPath relationships).mSubscriptionInfo.mCreatorLocation =
        some localLocation := haccount
      have haccepts : r.acceptsLocal (r.createLocal publicationPath relationships) i =
          r.isMatching (r.createLocal publicationPath relationships).mSubscriptionInfo i := by
        simp only [acceptsLocal, haccount, isMatching, hhere]
        rfl
      simp only [Broadcast.tells_flatMap, Broadcast.tells_message, List.mem_singleton, haccepts]
      constructor
      · rintro ⟨i', hcached, rfl, rfl, hmatching⟩
        exact ⟨rfl, hcached, hmatching⟩
      · rintro ⟨rfl, hcached, hmatching⟩
        exact ⟨i, hcached, rfl, rfl, hmatching⟩
  all_goals
    split
    case h_1 haccount =>
      -- the subscriber is at no location
      have hnowhere : ∀ i, r.isMatching (r.createLocal publicationPath relationships).mSubscriptionInfo i = false := by
        intro i
        simp [isMatching, accepts, canSubscribe, createLocal, haccount,
          Relationships.canSubscribeToPublisher]
      refine ⟨h.holdLocal _, .subscribed (fun info => (hmem info).trans (and_iff_right rfl))
        (List.append_nil _).symm rfl (fun k i => ?_) hpublish hdue⟩
      have hmatching : (r.holdLocal (r.createLocal publicationPath relationships)).isMatching _ i = false := hnowhere i
      simp [hmatching]
    case h_2 => exact ⟨h, .quiet h.fresh rfl rfl (fun i heq => absurd heq (hpublish i)) hdue⟩

theorem Books.withoutSource (metaData : PublicationMetaData) : Books (r.withoutSource metaData) where
  __ := h
  numberedIncoming s hs := h.numberedIncoming s (List.mem_of_mem_eraseP hs)

theorem Books.placeIncoming (metaData : PublicationMetaData) : Books (r.placeIncoming metaData) where
  noneLocal := h.noneLocal
  numberedLocal s hs := Nat.lt_succ_of_lt (h.numberedLocal s hs)
  numberedIncoming s hs := by
    simp only [Repository.placeIncoming, List.mem_append, List.mem_singleton] at hs ⊢
    rcases hs with hs | rfl
    · exact Nat.lt_succ_of_lt (h.numberedIncoming s hs)
    · exact Nat.lt_succ_self _

theorem Books.mem_placeIncoming (metaData info : PublicationMetaData) :
    (r.created, info) ∈ (r.placeIncoming metaData).subscriptions ↔ info = metaData := by
  have hfresh := h.fresh info
  rw [mem_subscriptions] at hfresh ⊢
  simp only [Repository.placeIncoming, List.mem_append, List.mem_singleton, Prod.mk.injEq, true_and]
  grind

theorem peerSubscribe_spec (location : Location) (metaData : PublicationMetaData) :
    Books (r.onPeerSubscribe location metaData) ∧
      TellsDue r (.peerSubscribe location metaData) (r.onPeerSubscribe location metaData) := by
  have hdue : ∀ k i, ¬DueGone r (.peerSubscribe location metaData) k i := by
    intro k i hdue
    cases hdue
  have hpublish : ∀ i, Event.peerSubscribe location metaData ≠ .cache (.publish i) := by simp
  have hquiet : TellsDue r (.peerSubscribe location metaData) r :=
    .quiet h.fresh rfl rfl (fun i heq => absurd heq (hpublish i)) hdue
  simp only [onPeerSubscribe]
  split
  case h_1 => exact ⟨h, hquiet⟩
  case h_2 localLocation haccount =>
    split
    · exact ⟨h, hquiet⟩
    · split
      · have hbooks := h.withoutSource
          { metaData with mCreatorLocation := some location, mPublishedLocation := some localLocation }
        exact ⟨hbooks, .quiet hbooks.fresh rfl rfl (fun i heq => absurd heq (hpublish i)) hdue⟩
      · have hbooks := h.withoutSource
          { metaData with mCreatorLocation := some location, mPublishedLocation := some localLocation }
        refine ⟨hbooks.placeIncoming _, .subscribed (hbooks.mem_placeIncoming _) rfl rfl (fun k i => ?_) hpublish hdue⟩
        rw [Broadcast.tells_message]
        simp only [acceptsUpdated, withoutSource, haccount, Option.isSome_some, Bool.true_and]
        exact and_congr_left fun _ => eq_comm

/-! ## Runs -/

theorem Books.cancelLocal (k : Nat) : Books (r.cancelLocal k) where
  noneLocal := by simp [Repository.cancelLocal, h.noneLocal]
  numberedLocal s hs := by
    obtain ⟨s', hs', rfl⟩ := List.mem_map.mp hs
    have hnumber := h.numberedLocal s' hs'
    split
    · exact hnumber
    · exact hnumber
  numberedIncoming := h.numberedIncoming

theorem Books.onDisconnected (location : Option Location) : Books (r.onDisconnected location) where
  __ := h
  numberedIncoming s hs := h.numberedIncoming s (List.mem_of_mem_filter hs)

theorem stepCache_spec (e : Caching.Event) (horderly : Orderly r (.cache e)) :
    ∃ r', stepCache r e = .ok r' ∧ Books r' ∧ TellsDue r (.cache e) r' := by
  -- the subscribers are as before
  have hsame : ∀ caches, Books { r with caches } := fun caches => { h with }
  cases e with
  | publish i =>
    simp only [stepCache]
    split
    case isTrue hexists => exact ⟨_, rfl, publish_spec h hexists horderly⟩
    case isFalse hnot =>
      refine ⟨r, rfl, h, .quiet h.fresh rfl rfl (fun j heq hexists => ?_) fun k j hdue => by cases hdue⟩
      cases heq
      exact absurd hexists hnot
  | peerDelete location metaData => exact delete_spec h horderly
  | cancel => exact ⟨_, rfl, cancel_spec h horderly⟩
  | disconnected location =>
    have hbooks := h.onDisconnected location
    exact ⟨_, rfl, hbooks, .quiet hbooks.fresh rfl rfl (fun i heq => by cases heq) fun k i hdue => by cases hdue⟩
  | remove i =>
    have hbooks : Books (r.remove i) := { h with }
    exact ⟨_, rfl, hbooks, .quiet hbooks.fresh rfl rfl (fun i heq => by cases heq) fun k i hdue => by cases hdue⟩
  | create | updateData | updateDocument | updateRelationships | peerPublish | peerPublishNotify | fetched | removed
  | timer | accountGone =>
    refine ⟨_, rfl, hsame _, .quiet (hsame (Caching.step r.caches _)).fresh rfl rfl (fun i heq => ?_) ?_⟩
    · cases heq
    · intro k i hdue
      cases hdue

theorem step_spec (e : Event) (horderly : Orderly r e) : ∃ r', step r e = .ok r' ∧ Books r' ∧ TellsDue r e r' := by
  cases e with
  | cache e => exact stepCache_spec h e horderly
  | subscribe subscribeToLocation publicationPath relationships =>
    exact ⟨_, rfl, subscribe_spec h subscribeToLocation publicationPath relationships⟩
  | peerSubscribe location metaData => exact ⟨_, rfl, peerSubscribe_spec h location metaData⟩
  | cancelLocal k =>
    have hbooks := h.cancelLocal k
    exact ⟨_, rfl, hbooks, .quiet hbooks.fresh rfl rfl (fun i heq => by cases heq) fun k i hdue => by cases hdue⟩

end

/-- A repository that nothing is subscribed at yet. -/
def init (caches : Caching.Repository) : Repository := { caches }

theorem init_books (caches : Caching.Repository) : Books (init caches) where
  noneLocal := rfl
  numberedLocal := by simp [init]
  numberedIncoming := by simp [init]

/-- Every orderly run has a state at its end, and each orderly event after it tells each subscriber of what it is to be
told of, and of nothing else. -/
theorem notifications_match (caches : Caching.Repository) (events : List Event)
    (hmeets : Runs.TryMeets step Orderly (init caches) events) :
    ∃ r, Runs.tryRun step (init caches) events = .ok r ∧
      ∀ e, Orderly r e → ∃ r', step r e = .ok r' ∧ TellsDue r e r' := by
  have hstep : ∀ r e, Orderly r e → Books r → ∃ r', step r e = .ok r' ∧ Books r' := by
    intro r e horderly h
    obtain ⟨r', hr, hbooks, -⟩ := step_spec h e horderly
    exact ⟨r', hr, hbooks⟩
  obtain ⟨r, hr, h⟩ := Runs.tryRun_ok Books hstep hmeets (init_books caches)
  refine ⟨r, hr, fun e horderly => ?_⟩
  obtain ⟨r', hr', -, htells⟩ := step_spec h e horderly
  exact ⟨r', hr', htells⟩

section Samples

open Caching (PublicationObject alice bob sampleOf)

def sampleInit : Repository := init (Caching.init alice fun _ => sampleOf 0)

/-- A publication that was made here and is published here. -/
def ownSample (name : String) (document : Xml.Document) (relationships : PublishToRelationshipsMap) :
    PublicationObject where
  publication :=
    { mLineage := 1, mCreatorLocation := "", mName := name, mMimeType := "", mPublishedRelationships := [],
      mPublishedLocation := "", mExpires := 0, mDocument := some document }
  mCreatorLocation := some alice
  mPublishedLocation := some alice
  mPublishedRelationships := relationships

def toList (name : String) : PublishToRelationshipsMap := (∅ : PublishToRelationshipsMap).insert name (.all, [])

/-- Two lists of contacts are published, and a publication for those of the first is made. -/
def listEvents (friends : List String) : List Event :=
  [.cache (.create (ownSample "/friends" (createDocumentFromRelationships friends) ∅)),
    .cache (.create (ownSample "/makers" (createDocumentFromRelationships ["peer://a"]) ∅)),
    .cache (.create (ownSample "/x" [] (toList "/friends"))), .cache (.publish 0), .cache (.publish 1)]

/-- The peer subscribes to all that those of the second list publish. -/
def bobSubscribes : Event :=
  .peerSubscribe bob
    { mCreatorLocation := none, mName := "/x", mPublishedRelationships := toList "/makers", mPublishedLocation := none }

/-- An application does so. -/
def aliceSubscribes : Event := .subscribe alice "/x" (toList "/makers")

/-- The state at the end of a run that does not halt. -/
def stateAfter (events : List Event) : Repository :=
  match Runs.tryRun step sampleInit events with
  | .ok r => r
  | .error _ => sampleInit

theorem notifications_match_sample :
    ∃ r', step (stateAfter (listEvents ["peer://a", "peer://b"] ++ [bobSubscribes, .cache (.publish 2)]))
        (.cache .cancel) = .ok r' ∧
      TellsDue (stateAfter (listEvents ["peer://a", "peer://b"] ++ [bobSubscribes, .cache (.publish 2)]))
        (.cache .cancel) r' ∧ r'.updated = [(0, [2])] ∧ r'.gone = [(0, [2])] := by
  have hnone : ∀ r : Repository, r.subscriptionsLocal = [] → ∀ i, NoLocal r i := by
    intro r hr i s hs
    simp [hr] at hs
  have hmeets : Runs.TryMeets step Orderly sampleInit
      (listEvents ["peer://a", "peer://b"] ++ [bobSubscribes, .cache (.publish 2)]) := by
    apply Runs.TryMeets.cons trivial rfl
    apply Runs.TryMeets.cons trivial rfl
    apply Runs.TryMeets.cons trivial rfl
    apply Runs.TryMeets.cons (fun _ => hnone _ rfl _) rfl
    apply Runs.TryMeets.cons (fun _ => hnone _ rfl _) rfl
    apply Runs.TryMeets.cons trivial rfl
    exact Runs.TryMeets.cons (fun _ => hnone _ rfl _) rfl trivial
  obtain ⟨r, hr, htells⟩ := notifications_match _ _ hmeets
  have hafter : stateAfter (listEvents ["peer://a", "peer://b"] ++ [bobSubscribes, .cache (.publish 2)]) = r :=
    Except.ok.inj hr
  have horderly : Orderly r (.cache .cancel) := by
    have hagree : ∀ i ∈ r.cachedLocal, ∀ s ∈ r.mPeerSubscriptionsIncoming,
        r.isUnder s.2.mSubscriptionInfo i = true →
          (r.caches.mAccount.isSome = true ∧
              r.canSubscribe s.2.mSubscriptionInfo s.2.mSubscriptionInfo.mPublishedLocation i = true ↔
            r.canSubscribe s.2.mSubscriptionInfo s.2.mSubscriptionInfo.mCreatorLocation i = true) := by
      rw [← hafter]
      decide
    have hlocal : r.subscriptionsLocal = [] := by
      rw [← hafter]
      rfl
    exact fun i hi => ⟨hnone r hlocal i, hagree i hi⟩
  obtain ⟨r', hr', hdue⟩ := htells (.cache .cancel) horderly
  rw [hafter]
  refine ⟨r', hr', hdue, ?_⟩
  obtain rfl := Except.ok.inj hr'
  rw [← hafter]
  decide

/-- The subscription that is made of it. -/
def subscriptionOf (subscriber : Location) : PublicationMetaData where
  mCreatorLocation := some subscriber
  mName := "/x"
  mPublishedRelationships := toList "/makers"
  mPublishedLocation := some alice

theorem not_tellsDue_of_updated {e : Event} {k i : Nat} (hdue : DueUpdated r r' e k i)
    (hsilent : r'.updated = r.updated) : ¬TellsDue r e r' := by
  rintro ⟨⟨sent, hsent, htells⟩, -⟩
  have hnone : sent = [] := by simpa [hsilent] using hsent
  have htold := (htells k i).mpr hdue
  simp [hnone] at htold

theorem not_tellsDue_of_gone {e : Event} {k i : Nat} (hdue : DueGone r e k i) (hsilent : r'.gone = r.gone) :
    ¬TellsDue r e r' := by
  rintro ⟨-, sent, hsent, htells⟩
  have hnone : sent = [] := by simpa [hsilent] using hsent
  have htold := (htells k i).mpr hdue
  simp [hnone] at htold

/-- What a peer publishes here. -/
def bobsSample : PublicationObject :=
  { ownSample "/y" [] ∅ with mCreatorLocation := some bob }

/-- An application that subscribes is not told of what is published later. A peer that was told of a publication is
not told that it is gone, because what counts then is who publishes. A publication is deleted and then used, when any
peer subscribes. -/
theorem subscriber_untold :
    (∃ r', step (stateAfter (listEvents ["peer://a"] ++ [aliceSubscribes])) (.cache (.publish 2)) = .ok r' ∧
      ¬TellsDue (stateAfter (listEvents ["peer://a"] ++ [aliceSubscribes])) (.cache (.publish 2)) r') ∧
    (∃ r', step (stateAfter (listEvents ["peer://b"] ++ [bobSubscribes, .cache (.publish 2)])) (.cache .cancel) =
        .ok r' ∧
      ¬TellsDue (stateAfter (listEvents ["peer://b"] ++ [bobSubscribes, .cache (.publish 2)])) (.cache .cancel) r') ∧
    Runs.tryRun step sampleInit
        (listEvents ["peer://b"] ++ [bobSubscribes, .cache (.peerPublish (some bob) bobsSample),
          .cache (.peerDelete (some bob) bobsSample.cacheMetaData)]) = .error .undefined := by
  refine ⟨⟨_, rfl, ?_⟩, ⟨_, rfl, ?_⟩, rfl⟩
  · have hdue := @DueUpdated.published (stateAfter (listEvents ["peer://a"] ++ [aliceSubscribes]))
      ((stateAfter (listEvents ["peer://a"] ++ [aliceSubscribes])).publish 2) 2 0 (subscriptionOf alice) (by decide)
      (by decide) (by decide) (by decide)
    exact not_tellsDue_of_updated hdue (by decide)
  · have hdue := @DueGone.cancelled (stateAfter (listEvents ["peer://b"] ++ [bobSubscribes, .cache (.publish 2)])) 0 2
      (subscriptionOf bob) (by decide) (by decide) (by decide)
    exact not_tellsDue_of_gone hdue (by decide)

end Samples

end OpenPeer.Notifications
