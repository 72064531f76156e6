import OpenPeer.SubscriptionLink

/-!
# What a subscriber and a publisher agree on

While both have the connection, every grant and every request that asks for something belongs to
a subscription that nothing has cancelled, and what the requests on their way will leave is what
the latest subscription to the path asked for. Every allowed step keeps this.
-/
namespace OpenPeer.Subscriptions.Link

open PeerSubscriptionOutgoing

variable {publisher : Location} {l : Link}

/-- Message identifiers that are in use have been given out. -/
structure Issued (l : Link) : Prop where
  monitor : ∀ o ∈ l.outgoing, ∀ m, o.mMonitor = some m → m < l.nextMessageID
  cancelMonitor : ∀ o ∈ l.outgoing, ∀ m, o.mCancelMonitor = some m → m < l.nextMessageID
  requests : ∀ asked ∈ l.requests, asked.messageID < l.nextMessageID
  results : ∀ m ∈ l.results, m < l.nextMessageID
  successes : ∀ e ∈ l.successes, e.1 < l.nextMessageID
  processed : ∀ e ∈ l.processed, e.2 < l.nextMessageID

/-- A subscription with relationships that arrive is served, once it has been. -/
def ServedIfAsking (l : Link) (o : PeerSubscriptionOutgoing) : Prop :=
  l.Joined → (transmitted o.relationships).isEmpty = false → l.Backed o.path

structure Agrees (publisher : Location) (l : Link) : Prop where
  issued : Issued l
  live : ∀ o ∈ l.outgoing, o.Live → o.registered = true ∧ o.mCurrentState ≠ .shutdown
  established : ∀ o ∈ l.outgoing, o.mCurrentState = .established → o.Live ∧ Carried o.relationships
  served : ∀ o ∈ l.outgoing, o.mCurrentState = .established → o.PlacedAt publisher →
    l.here = true ∧ (l.Joined → l.Backed o.path)
  own : ∀ asked ∈ l.requests, ∀ o ∈ l.outgoing, o.mMonitor = some asked.messageID →
    o.PlacedAt publisher ∧ asked.path = o.path ∧ asked.relationships = transmitted o.relationships
  behind : l.Joined → l.requests.Pairwise fun first second => ∀ o ∈ l.outgoing,
    o.mMonitor = some first.messageID → o.Live → second.path = o.path → second.relationships.isEmpty = false
  cancels : ∀ asked ∈ l.requests, ∀ o ∈ l.outgoing, o.mCancelMonitor = some asked.messageID →
    asked.relationships.isEmpty = true
  confirmed : ∀ m ∈ l.results, ∀ o ∈ l.outgoing, o.mMonitor = some m →
    o.PlacedAt publisher ∧ (o.Live → l.ServedIfAsking o)
  succeeded : ∀ m i o, (m, i) ∈ l.successes → l.outgoing[i]? = some o → o.mMonitor = some m →
    o.PlacedAt publisher → o.Live → l.here = true ∧ l.ServedIfAsking o
  unique : ∀ path, (l.grantedFor path).length ≤ 1
  asking : ∀ grant ∈ l.granted, grant.relationships.isEmpty = false
  backing : l.Joined → ∀ path, ∀ relationships ∈ l.askedFor path, relationships.isEmpty = false →
    ∃ o ∈ l.outgoing, o.Live ∧ o.PlacedAt publisher ∧ o.path = path ∧ (transmitted o.relationships).isEmpty = false
  latest : l.Joined → ∀ path relationships, (l.askedFor path).getLast? = some relationships →
    relationships.isEmpty = false →
    ∃ placed, latest l.outgoing publisher path = some placed ∧ relationships = transmitted placed
  gone : l.there = false → l.granted = []
  later : ∀ o ∈ l.outgoing, o.registered = true → o.PlacedAt publisher →
    ∀ placed, Link.latest l.outgoing publisher o.path = some placed → Carried placed ∨ placed = o.relationships
  last : ∀ o ∈ l.outgoing, ∀ path m, o.mCancelMonitor = some m → l.lastProcessed path = some m →
    l.grantedFor path = []

variable {path : String}

theorem Issued.lastProcessed (h : Issued l) {m : MessageID} (hlast : l.lastProcessed path = some m) :
    m < l.nextMessageID := by
  obtain ⟨e, he, rfl⟩ := Option.map_eq_some_iff.mp hlast
  exact h.processed e (List.mem_of_mem_filter (List.mem_of_getLast? he))

variable {next : MessageID}

theorem Issued.later (h : Issued l) (hnext : l.nextMessageID ≤ next) :
    Issued { l with nextMessageID := next } where
  monitor o ho m hm := (h.monitor o ho m hm).trans_le hnext
  cancelMonitor o ho m hm := (h.cancelMonitor o ho m hm).trans_le hnext
  requests asked ha := (h.requests asked ha).trans_le hnext
  results m hm := (h.results m hm).trans_le hnext
  successes e he := (h.successes e he).trans_le hnext
  processed e he := (h.processed e he).trans_le hnext

theorem agrees_empty : Agrees publisher ⟨[], 0, [], [], [], [], [], false, false⟩ where
  issued := by constructor <;> simp
  live := by simp
  established := by simp
  served := by simp
  own := by simp
  behind := by simp
  cancels := by simp
  confirmed := by simp
  succeeded := by simp
  unique := by simp [grantedFor]
  asking := by simp
  backing := by simp [Joined]
  latest := by simp [Joined]
  gone := by simp
  later := by simp
  last := by simp

/-! ## Steps that do not touch the tables -/

theorem Agrees.posted (h : Agrees publisher l) {successes : List (MessageID × Nat)}
    {results : List MessageID} (hnext : l.nextMessageID ≤ next) (hresults : results ⊆ l.results)
    (hsuccesses : ∀ e ∈ successes, e ∈ l.successes ∨ e.1 < l.nextMessageID ∧ ∀ o ∈ l.outgoing, o.mMonitor = some e.1 → o.PlacedAt publisher → o.Live → l.here = true ∧ l.ServedIfAsking o) :
    Agrees publisher { l with nextMessageID := next, successes, results } :=
  { h with
    issued :=
      { h.issued.later hnext with
        results := fun m hm => (h.issued.results m (hresults hm)).trans_le hnext
        successes := fun e he => by
          rcases hsuccesses e he with hold | hnew
          · exact (h.issued.successes e hold).trans_le hnext
          · exact hnew.1.trans_le hnext }
    confirmed := fun m hm => h.confirmed m (hresults hm)
    succeeded := fun m i o hs ho hm hplaced hlive => by
      rcases hsuccesses _ hs with hold | hnew
      · exact h.succeeded m i o hold ho hm hplaced hlive
      · exact hnew.2 o (List.mem_of_getElem? ho) hm hplaced hlive }

variable {outgoing : List PeerSubscriptionOutgoing}

theorem latest_congr {outgoing' : List PeerSubscriptionOutgoing} (location : Location) (path : String)
    (h : outgoing'.map (·.mSubscriptionInfo) = outgoing.map (·.mSubscriptionInfo)) :
    Link.latest outgoing' location path = Link.latest outgoing location path := by
  rw [Link.latest, h, Link.latest]

variable {i : Nat} {o : PeerSubscriptionOutgoing}

variable {o' : PeerSubscriptionOutgoing}

theorem map_info_set (ho : outgoing[i]? = some o) (hinfo : o'.mSubscriptionInfo = o.mSubscriptionInfo) :
    (outgoing.set i o').map (·.mSubscriptionInfo) = outgoing.map (·.mSubscriptionInfo) := by
  rw [List.map_set, hinfo]
  refine List.ext_getElem? fun j => ?_
  rw [List.getElem?_set]
  split
  · next hij =>
    subst hij
    rw [List.length_map, if_pos (List.getElem?_eq_some_iff.mp ho).1, List.getElem?_map, ho, Option.map_some]
  · rfl

variable {α : Type}

theorem getElem?_set_cases {as : List α} {j : Nat} {a b : α} (h : (as.set i a)[j]? = some b) :
    i = j ∧ b = a ∨ i ≠ j ∧ as[j]? = some b := by
  by_cases hij : i = j
  · subst hij
    rw [List.getElem?_set_self'] at h
    obtain ⟨-, -, rfl⟩ := Option.map_eq_some_iff.mp h
    exact .inl ⟨rfl, rfl⟩
  · rw [List.getElem?_set_ne hij] at h
    exact .inr ⟨hij, h⟩

/-- Subscriptions become others that ask for no more. The connection is lost only when nothing at the
publisher is left alive, and kept only when what backs the publisher's grants is. -/
theorem Agrees.become (h : Agrees publisher l) {here : Bool} (hnext : l.nextMessageID ≤ next)
    (hinfos : outgoing.map (·.mSubscriptionInfo) = l.outgoing.map (·.mSubscriptionInfo))
    (hages : ∀ (i : Nat) o', outgoing[i]? = some o' → ∃ o, l.outgoing[i]? = some o ∧ o.Ages o' ∧ ∀ m, o'.mCancelMonitor = some m → o.mCancelMonitor = some m ∨ l.nextMessageID ≤ m ∧ m < next)
    (hlive : ∀ o' ∈ outgoing, o'.Live → o'.registered = true ∧ o'.mCurrentState ≠ .shutdown)
    (hestablished : ∀ o' ∈ outgoing, o'.mCurrentState = .established → (o'.Live ∧ Carried o'.relationships) ∧ (o'.PlacedAt publisher → l.here = true ∧ (l.Joined → l.Backed o'.path)))
    (hhere : here = true → l.here = true)
    (halive : ∀ o' ∈ outgoing, o'.PlacedAt publisher → o'.Live → l.here = true → here = true)
    (hkept : here = true → ∀ o ∈ l.outgoing, o.Live → o.PlacedAt publisher → (transmitted o.relationships).isEmpty = false → ∃ o' ∈ outgoing, o'.Live ∧ o.Ages o') :
    Agrees publisher { l with outgoing, nextMessageID := next, here } := by
  have hfrom : ∀ o' ∈ outgoing, ∃ o ∈ l.outgoing, o.Ages o' ∧
      ∀ m, o'.mCancelMonitor = some m → o.mCancelMonitor = some m ∨ l.nextMessageID ≤ m ∧ m < next := by
    intro o' ho'
    obtain ⟨i, hi⟩ := List.mem_iff_getElem?.mp ho'
    obtain ⟨o, ho, hage⟩ := hages i o' hi
    exact ⟨o, List.mem_of_getElem? ho, hage⟩
  have hjoined : here = true ∧ l.there = true → l.Joined := fun hj => ⟨hhere hj.1, hj.2⟩
  have hserved : ∀ o o' : PeerSubscriptionOutgoing, o.Ages o' → l.ServedIfAsking o →
      ServedIfAsking { l with outgoing, nextMessageID := next, here } o' := by
    intro o o' hage hs hj hne
    rw [hage.relationships] at hne
    rw [hage.path]
    exact hs (hjoined hj) hne
  exact
    { h with
      issued :=
        { h.issued.later hnext with
          monitor := fun o' ho' m hm => by
            obtain ⟨o, ho, hage, -⟩ := hfrom o' ho'
            exact (h.issued.monitor o ho m (hage.monitor m hm)).trans_le hnext
          cancelMonitor := fun o' ho' m hm => by
            obtain ⟨o, ho, -, hcancel⟩ := hfrom o' ho'
            rcases hcancel m hm with hold | hnew
            · exact (h.issued.cancelMonitor o ho m hold).trans_le hnext
            · exact hnew.2 }
      live := hlive
      established := fun o' ho' hstate => (hestablished o' ho' hstate).1
      served := fun o' ho' hstate hplaced => by
        obtain ⟨⟨hlive, -⟩, hserved⟩ := hestablished o' ho' hstate
        exact ⟨halive o' ho' hplaced hlive (hserved hplaced).1, fun hj => (hserved hplaced).2 (hjoined hj)⟩
      own := fun asked ha o' ho' hm => by
        obtain ⟨o, ho, hage, -⟩ := hfrom o' ho'
        rw [hage.placedAt, hage.path, hage.relationships]
        exact h.own asked ha o ho (hage.monitor _ hm)
      behind := fun hj => (h.behind (hjoined hj)).imp fun hpair o' ho' hm hlive hpath => by
        obtain ⟨o, ho, hage, -⟩ := hfrom o' ho'
        rw [hage.path] at hpath
        exact hpair o ho (hage.monitor _ hm) (hage.live hlive) hpath
      cancels := fun asked ha o' ho' hm => by
        obtain ⟨o, ho, -, hcancel⟩ := hfrom o' ho'
        rcases hcancel _ hm with hold | hnew
        · exact h.cancels asked ha o ho hold
        · exact absurd hnew.1 (Nat.not_le.mpr (h.issued.requests asked ha))
      confirmed := fun m hm o' ho' hmonitor => by
        obtain ⟨o, ho, hage, -⟩ := hfrom o' ho'
        have hold := h.confirmed m hm o ho (hage.monitor m hmonitor)
        exact ⟨(hage.placedAt publisher).mpr hold.1, fun hlive => hserved o o' hage (hold.2 (hage.live hlive))⟩
      succeeded := fun m i o' hs ho' hmonitor hplaced hlive => by
        obtain ⟨o, ho, hage, -⟩ := hages i o' ho'
        have hold := h.succeeded m i o hs ho (hage.monitor m hmonitor) ((hage.placedAt publisher).mp hplaced)
          (hage.live hlive)
        exact ⟨halive o' (List.mem_of_getElem? ho') hplaced hlive hold.1, hserved o o' hage hold.2⟩
      backing := fun hj path relationships hrel hne => by
        obtain ⟨o, ho, hlive, hplaced, rfl, hasks⟩ := h.backing (hjoined hj) path relationships hrel hne
        obtain ⟨o', ho', hlive', hage⟩ := hkept hj.1 o ho hlive hplaced hasks
        exact ⟨o', ho', hlive', (hage.placedAt publisher).mpr hplaced, hage.path, hage.relationships ▸ hasks⟩
      latest := fun hj path relationships hrel hne => by
        rw [latest_congr publisher path hinfos]
        exact h.latest (hjoined hj) path relationships hrel hne
      later := fun o' ho' hreg hplaced placed hlatest => by
        obtain ⟨o, ho, hage, -⟩ := hfrom o' ho'
        rw [latest_congr publisher _ hinfos, hage.path] at hlatest
        rw [hage.relationships]
        exact h.later o ho (hage.registered hreg) ((hage.placedAt publisher).mp hplaced) placed hlatest
      last := fun o' ho' path m hm hlast => by
        obtain ⟨o, ho, -, hcancel⟩ := hfrom o' ho'
        rcases hcancel m hm with hold | hnew
        · exact h.last o ho path m hold hlast
        · exact absurd hnew.1 (Nat.not_le.mpr (h.issued.lastProcessed hlast)) }

/-- Subscriptions age: those that live on or are established are what they were. -/
theorem Agrees.age (h : Agrees publisher l) {outgoing : List PeerSubscriptionOutgoing} {next : MessageID}
    {here : Bool} (hnext : l.nextMessageID ≤ next)
    (hinfos : outgoing.map (·.mSubscriptionInfo) = l.outgoing.map (·.mSubscriptionInfo))
    (hages : ∀ (i : Nat) o', outgoing[i]? = some o' → ∃ o, l.outgoing[i]? = some o ∧ o.Ages o' ∧
      (o'.Live ∨ o'.mCurrentState = .established → o' = o) ∧
      ∀ m, o'.mCancelMonitor = some m → o.mCancelMonitor = some m ∨ l.nextMessageID ≤ m ∧ m < next)
    (hhere : here = true → l.here = true)
    (hlost : here = false → l.here = true → ∀ o' ∈ outgoing, o'.PlacedAt publisher → ¬o'.Live)
    (hkept : here = true → ∀ o ∈ l.outgoing, o.Live → o.PlacedAt publisher →
      (transmitted o.relationships).isEmpty = false → o ∈ outgoing) :
    Agrees publisher { l with outgoing, nextMessageID := next, here } := by
  have hsame : ∀ o' ∈ outgoing, o'.Live ∨ o'.mCurrentState = .established → o' ∈ l.outgoing := by
    intro o' ho' hor
    obtain ⟨i, hi⟩ := List.mem_iff_getElem?.mp ho'
    obtain ⟨o, ho, -, hsame, -⟩ := hages i o' hi
    exact hsame hor ▸ List.mem_of_getElem? ho
  refine h.become hnext hinfos ?_ ?_ ?_ hhere ?_ ?_
  · intro i o' ho'
    obtain ⟨o, ho, hage, -, hcancel⟩ := hages i o' ho'
    exact ⟨o, ho, hage, hcancel⟩
  · exact fun o' ho' hlive => h.live o' (hsame o' ho' (.inl hlive)) hlive
  · intro o' ho' hstate
    have ho := hsame o' ho' (.inr hstate)
    exact ⟨h.established o' ho hstate, h.served o' ho hstate⟩
  · intro o' ho' hplaced hlive hl
    cases hval : here with
    | true => rfl
    | false => exact absurd hlive (hlost hval hl o' ho' hplaced)
  · exact fun hhere o ho hlive hplaced hasks => ⟨o, hkept hhere o ho hlive hplaced hasks, hlive, .refl o⟩

/-! ## Asking -/

theorem inOrder_append (granted : List Grant) (requests asks : List Asked) (path : String) :
    inOrder granted (requests ++ asks) path =
      inOrder granted requests path ++ (asks.filter (·.path = path)).map (·.relationships) := by
  simp only [inOrder, List.filter_append, List.map_append, List.append_assoc]

variable {granted : List Grant} {asks : List Asked}

variable {requests : List Asked} {relationships : SubscribeToRelationshipsMap}

theorem mem_inOrder_append (h : relationships ∈ inOrder granted (requests ++ asks) path) :
    relationships ∈ inOrder granted requests path ∨
      ∃ asked ∈ asks, asked.path = path ∧ asked.relationships = relationships := by
  rw [inOrder_append, List.mem_append] at h
  refine h.imp id fun h => ?_
  obtain ⟨asked, hasked, rfl⟩ := List.mem_map.mp h
  exact ⟨asked, List.mem_of_mem_filter hasked, by simpa using (List.mem_filter.mp hasked).2, rfl⟩

theorem last_inOrder_append (h : (inOrder granted (requests ++ asks) path).getLast? = some relationships) :
    (∃ asked ∈ asks, asked.path = path ∧ asked.relationships = relationships) ∨
      (∀ asked ∈ asks, asked.path ≠ path) ∧ (inOrder granted requests path).getLast? = some relationships := by
  rw [inOrder_append, List.getLast?_append] at h
  cases hlast : ((asks.filter (·.path = path)).map (·.relationships)).getLast? with
  | some found =>
    rw [hlast, Option.some_or] at h
    obtain ⟨asked, hasked, hrel⟩ := List.mem_map.mp (List.mem_of_getLast? hlast)
    refine .inl ⟨asked, List.mem_of_mem_filter hasked, by simpa using (List.mem_filter.mp hasked).2, ?_⟩
    exact hrel.trans (Option.some.inj h)
  | none =>
    rw [hlast, Option.none_or] at h
    refine .inr ⟨fun asked hasked hpath => ?_, h⟩
    have hnil := List.map_eq_nil_iff.mp (List.getLast?_eq_none_iff.mp hlast)
    exact (List.filter_eq_nil_iff.mp hnil) asked hasked (decide_eq_true hpath)

theorem Backed.append (h : l.Backed path)
    (hasks : ∀ asked ∈ asks, asked.path = path → asked.relationships.isEmpty = false) :
    ∀ relationships ∈ inOrder l.granted (l.requests ++ asks) path, relationships.isEmpty = false := by
  intro relationships hrel
  rcases mem_inOrder_append hrel with hold | ⟨asked, hasked, hpath, rfl⟩
  · exact h.2 relationships hold
  · exact hasks asked hasked hpath

variable {info : PublicationMetaData} {asked : Asked}

theorem mem_asking (h : asked ∈ l.asking publisher info) :
    info.mPublishedLocation = some publisher ∧ l.here = true ∧
      asked = ⟨l.nextMessageID, info.mName, transmitted info.mPublishedRelationships⟩ := by
  rw [asking] at h
  split at h
  · next hcond => exact ⟨hcond.1, hcond.2, List.mem_singleton.mp h⟩
  · exact absurd h List.not_mem_nil

theorem mem_asking_of (hto : info.mPublishedLocation = some publisher) (hhere : l.here = true) :
    ⟨l.nextMessageID, info.mName, transmitted info.mPublishedRelationships⟩ ∈ l.asking publisher info := by
  rw [asking, if_pos ⟨hto, hhere⟩]
  exact List.mem_singleton_self _

theorem pairwise_asking {R : Asked → Asked → Prop} : (l.asking publisher info).Pairwise R := by
  rw [asking]
  split
  · exact List.pairwise_singleton R _
  · exact List.Pairwise.nil

/-- Requests that ask for nothing, for paths to which nothing is alive. -/
theorem Agrees.askNothing (h : Agrees publisher l) (hid : ∀ asked ∈ asks, asked.messageID < l.nextMessageID)
    (hempty : ∀ asked ∈ asks, asked.relationships.isEmpty = true)
    (hmonitor : ∀ asked ∈ asks, ∀ o ∈ l.outgoing, o.mMonitor ≠ some asked.messageID)
    (hothers : ∀ asked ∈ asks, ∀ o ∈ l.outgoing, o.Live → o.PlacedAt publisher → o.path ≠ asked.path) :
    Agrees publisher { l with requests := l.requests ++ asks } := by
  have hbacked : ∀ o ∈ l.outgoing, o.Live → o.PlacedAt publisher → l.Backed o.path →
      Backed { l with requests := l.requests ++ asks } o.path := by
    intro o ho hlive hplaced hb
    exact ⟨hb.1, hb.append fun asked ha hpath => absurd hpath.symm (hothers asked ha o ho hlive hplaced)⟩
  have hmem : ∀ path, ∀ relationships ∈ inOrder l.granted (l.requests ++ asks) path,
      relationships.isEmpty = false → relationships ∈ l.askedFor path := by
    intro path relationships hrel hne
    rcases mem_inOrder_append hrel with hold | ⟨asked, hasked, -, rfl⟩
    · exact hold
    · exact absurd (hempty asked hasked) (by simp [hne])
  exact
    { h with
      issued :=
        { h.issued with
          requests := fun asked ha => by
            rcases List.mem_append.mp ha with hold | hnew
            · exact h.issued.requests asked hold
            · exact hid asked hnew }
      served := fun o ho hstate hplaced =>
        ⟨(h.served o ho hstate hplaced).1, fun hj =>
          hbacked o ho (h.established o ho hstate).1 hplaced ((h.served o ho hstate hplaced).2 hj)⟩
      own := fun asked ha o ho hm => by
        rcases List.mem_append.mp ha with hold | hnew
        · exact h.own asked hold o ho hm
        · exact absurd hm (hmonitor asked hnew o ho)
      behind := fun hj => by
        refine List.pairwise_append.mpr ⟨h.behind hj, ?_, ?_⟩
        · exact List.pairwise_of_forall_mem_list fun first hfirst second _ o ho hm =>
            absurd hm (hmonitor first hfirst o ho)
        · intro first hfirst second hsecond o ho hm hlive hpath
          exact absurd hpath.symm (hothers second hsecond o ho hlive (h.own first hfirst o ho hm).1)
      cancels := fun asked ha o ho hm => by
        rcases List.mem_append.mp ha with hold | hnew
        · exact h.cancels asked hold o ho hm
        · exact hempty asked hnew
      confirmed := fun m hm o ho hmonitor => by
        obtain ⟨hplaced, hserved⟩ := h.confirmed m hm o ho hmonitor
        exact ⟨hplaced, fun hlive hj hne => hbacked o ho hlive hplaced (hserved hlive hj hne)⟩
      succeeded := fun m i o hs ho hm hplaced hlive => by
        obtain ⟨hhere, hserved⟩ := h.succeeded m i o hs ho hm hplaced hlive
        exact ⟨hhere, fun hj hne => hbacked o (List.mem_of_getElem? ho) hlive hplaced (hserved hj hne)⟩
      backing := fun hj path relationships hrel hne =>
        h.backing hj path relationships (hmem path relationships hrel hne) hne
      latest := fun hj path relationships hrel hne => by
        rcases last_inOrder_append hrel with ⟨asked, hasked, -, rfl⟩ | ⟨-, hold⟩
        · exact absurd (hempty asked hasked) (by simp [hne])
        · exact h.latest hj path relationships hold hne }

/-! ## Placing a subscription -/

theorem latest_append (outgoing : List PeerSubscriptionOutgoing) (o : PeerSubscriptionOutgoing)
    (location : Location) (path : String) :
    Link.latest (outgoing ++ [o]) location path =
      if o.PlacedAt location ∧ o.path = path then some o.relationships
      else Link.latest outgoing location path := by
  rw [Link.latest, List.map_append, List.filter_append, Link.latest]
  split
  · next h =>
    have hfilter : ([o].map (·.mSubscriptionInfo)).filter (fun info => decide (info.mPublishedLocation = some location ∧
        info.mName = path)) = [o.mSubscriptionInfo] := List.filter_eq_self.mpr (by simpa [PlacedAt, PeerSubscriptionOutgoing.path] using h)
    rw [hfilter, List.getLast?_concat]
    rfl
  · next h =>
    have hfilter : ([o].map (·.mSubscriptionInfo)).filter (fun info => decide (info.mPublishedLocation = some location ∧
        info.mName = path)) = [] := List.filter_eq_nil_iff.mpr (by simpa [PlacedAt, PeerSubscriptionOutgoing.path] using h)
    rw [hfilter, List.append_nil]

theorem Agrees.place (h : Agrees publisher l) (info : PublicationMetaData)
    (hcarried : (∃ o ∈ l.outgoing, o.registered = true ∧
      o.mSubscriptionInfo.mPublishedLocation = info.mPublishedLocation ∧ o.path = info.mName) →
      Carried info.mPublishedRelationships) :
    Agrees publisher { l with
      outgoing := l.outgoing ++ [{ mSubscriptionInfo := info, mMonitor := some l.nextMessageID }]
      nextMessageID := l.nextMessageID + 1
      requests := l.requests ++ l.asking publisher info } := by
  have hcompany : ∀ o ∈ l.outgoing, o.Live → o.PlacedAt publisher → ∀ asked ∈ l.asking publisher info,
      asked.path = o.path → asked.relationships.isEmpty = false := by
    intro o ho hlive hplaced asked hasked hpath
    obtain ⟨hto, -, rfl⟩ := mem_asking hasked
    have hc := hcarried ⟨o, ho, (h.live o ho hlive).1, hplaced.trans hto.symm, hpath.symm⟩
    exact hc.transmitted.symm ▸ hc.2
  have hold : ∀ m, m < l.nextMessageID → ∀ o ∈ l.outgoing ++
      [{ mSubscriptionInfo := info, mMonitor := some l.nextMessageID }], o.mMonitor = some m → o ∈ l.outgoing := by
    intro m hlt o ho hm
    rcases List.mem_append.mp ho with ho | ho
    · exact ho
    · obtain rfl := List.mem_singleton.mp ho
      exact absurd (Option.some.inj hm) (Nat.ne_of_gt hlt)
  have hbacked : ∀ o ∈ l.outgoing, o.Live → o.PlacedAt publisher → l.Backed o.path →
      Backed { l with requests := l.requests ++ l.asking publisher info } o.path := by
    intro o ho hlive hplaced hb
    exact ⟨hb.1, hb.append (hcompany o ho hlive hplaced)⟩
  have hcancelled : ∀ o ∈ l.outgoing ++ [{ mSubscriptionInfo := info, mMonitor := some l.nextMessageID }],
      ∀ m, o.mCancelMonitor = some m → o ∈ l.outgoing := by
    intro o ho m hm
    rcases List.mem_append.mp ho with ho | ho
    · exact ho
    · obtain rfl := List.mem_singleton.mp ho
      exact (nomatch hm)
  exact
    { h with
      issued :=
        { monitor := fun o ho m hm => by
            rcases List.mem_append.mp ho with ho | ho
            · exact Nat.lt_succ_of_lt (h.issued.monitor o ho m hm)
            · obtain rfl := List.mem_singleton.mp ho
              exact Option.some.inj hm ▸ Nat.lt_succ_self _
          cancelMonitor := fun o ho m hm =>
            Nat.lt_succ_of_lt (h.issued.cancelMonitor o (hcancelled o ho m hm) m hm)
          requests := fun asked ha => by
            rcases List.mem_append.mp ha with ha | ha
            · exact Nat.lt_succ_of_lt (h.issued.requests asked ha)
            · obtain ⟨-, -, rfl⟩ := mem_asking ha
              exact Nat.lt_succ_self _
          results := fun m hm => Nat.lt_succ_of_lt (h.issued.results m hm)
          successes := fun e he => Nat.lt_succ_of_lt (h.issued.successes e he)
          processed := fun e he => Nat.lt_succ_of_lt (h.issued.processed e he) }
      live := fun o ho hlive => by
        rcases List.mem_append.mp ho with ho | ho
        · exact h.live o ho hlive
        · obtain rfl := List.mem_singleton.mp ho
          exact ⟨rfl, by simp⟩
      established := fun o ho hstate => by
        rcases List.mem_append.mp ho with ho | ho
        · exact h.established o ho hstate
        · obtain rfl := List.mem_singleton.mp ho
          exact (nomatch hstate)
      served := fun o ho hstate hplaced => by
        rcases List.mem_append.mp ho with ho | ho
        · obtain ⟨hhere, hb⟩ := h.served o ho hstate hplaced
          exact ⟨hhere, fun hj => hbacked o ho (h.established o ho hstate).1 hplaced (hb hj)⟩
        · obtain rfl := List.mem_singleton.mp ho
          exact (nomatch hstate)
      own := fun asked ha o ho hm => by
        rcases List.mem_append.mp ha with ha | ha
        · exact h.own asked ha o (hold _ (h.issued.requests asked ha) o ho hm) hm
        · obtain ⟨hto, -, rfl⟩ := mem_asking ha
          rcases List.mem_append.mp ho with ho | ho
          · exact absurd (h.issued.monitor o ho _ hm) (Nat.lt_irrefl _)
          · obtain rfl := List.mem_singleton.mp ho
            exact ⟨hto, rfl, rfl⟩
      behind := fun hj => by
        refine List.pairwise_append.mpr ⟨?_, pairwise_asking, ?_⟩
        · refine (h.behind hj).imp_of_mem fun hfirst _ hpair o ho hm hlive hpath => ?_
          exact hpair o (hold _ (h.issued.requests _ hfirst) o ho hm) hm hlive hpath
        · intro first hfirst second hsecond o ho hm hlive hpath
          have ho := hold _ (h.issued.requests first hfirst) o ho hm
          exact hcompany o ho hlive (h.own first hfirst o ho hm).1 second hsecond hpath
      cancels := fun asked ha o ho hm => by
        have ho := hcancelled o ho _ hm
        rcases List.mem_append.mp ha with ha | ha
        · exact h.cancels asked ha o ho hm
        · obtain ⟨-, -, rfl⟩ := mem_asking ha
          exact absurd (h.issued.cancelMonitor o ho _ hm) (Nat.lt_irrefl _)
      confirmed := fun m hm o ho hmonitor => by
        have ho := hold m (h.issued.results m hm) o ho hmonitor
        obtain ⟨hplaced, hserved⟩ := h.confirmed m hm o ho hmonitor
        exact ⟨hplaced, fun hlive hj hne => hbacked o ho hlive hplaced (hserved hlive hj hne)⟩
      succeeded := fun m i o hs ho hm hplaced hlive => by
        have hmem := hold m (h.issued.successes _ hs) o (List.mem_of_getElem? ho) hm
        have ho : l.outgoing[i]? = some o := by
          rw [List.getElem?_append] at ho
          split at ho
          · exact ho
          · obtain rfl := List.mem_singleton.mp (List.mem_of_getElem? ho)
            exact absurd (h.issued.successes _ hs) (Option.some.inj hm ▸ Nat.lt_irrefl _)
        obtain ⟨hhere, hserved⟩ := h.succeeded m i o hs ho hm hplaced hlive
        exact ⟨hhere, fun hj hne => hbacked o hmem hlive hplaced (hserved hj hne)⟩
      backing := fun hj path relationships hrel hne => by
        rcases mem_inOrder_append hrel with hrel | ⟨asked, hasked, rfl, rfl⟩
        · obtain ⟨o, ho, hrest⟩ := h.backing hj path relationships hrel hne
          exact ⟨o, List.mem_append_left _ ho, hrest⟩
        · obtain ⟨hto, -, rfl⟩ := mem_asking hasked
          exact ⟨_, List.mem_append_right _ (List.mem_singleton_self _), rfl, hto, rfl, hne⟩
      latest := fun hj path relationships hrel hne => by
        rw [latest_append]
        rcases last_inOrder_append hrel with ⟨asked, hasked, rfl, rfl⟩ | ⟨hnone, hrel⟩
        · obtain ⟨hto, -, rfl⟩ := mem_asking hasked
          exact ⟨_, if_pos ⟨hto, rfl⟩, rfl⟩
        · rw [if_neg fun hnew => hnone _ (mem_asking_of hnew.1 hj.1) hnew.2]
          exact h.latest hj path relationships hrel hne
      later := fun o ho hreg hplaced placed hlatest => by
        rw [latest_append] at hlatest
        split at hlatest
        · next hnew =>
          obtain rfl := Option.some.inj hlatest
          rcases List.mem_append.mp ho with ho | ho
          · exact .inl (hcarried ⟨o, ho, hreg, hplaced.trans hnew.1.symm, hnew.2.symm⟩)
          · obtain rfl := List.mem_singleton.mp ho
            exact .inr rfl
        · next hnew =>
          rcases List.mem_append.mp ho with ho | ho
          · exact h.later o ho hreg hplaced placed hlatest
          · obtain rfl := List.mem_singleton.mp ho
            exact absurd ⟨hplaced, rfl⟩ hnew
      last := fun o ho path m hm => h.last o (hcancelled o ho m hm) path m hm }

/-! ## Establishing -/

theorem Agrees.establish (h : Agrees publisher l) {i : Nat} {o : PeerSubscriptionOutgoing} {m : MessageID}
    (ho : l.outgoing[i]? = some o) (hsuccess : (m, i) ∈ l.successes) (hmonitor : o.mMonitor = some m)
    (hlive : o.Live) (hcarried : Carried o.relationships) :
    Agrees publisher { l with
      outgoing := l.outgoing.set i { o with mCurrentState := .established, mMonitor := none } } := by
  have hmem := List.mem_of_getElem? ho
  have hage : o.Ages { o with mCurrentState := .established, mMonitor := none } :=
    ⟨rfl, fun _ h => (nomatch h), id, id⟩
  refine h.become (Nat.le_refl _) (map_info_set ho rfl) ?_ ?_ ?_ id (fun _ _ _ _ hhere => hhere) ?_
  · intro j o' ho'
    rcases getElem?_set_cases ho' with ⟨rfl, rfl⟩ | ⟨-, hold⟩
    · exact ⟨o, ho, hage, fun _ => .inl⟩
    · exact ⟨o', hold, .refl o', fun _ => .inl⟩
  · intro o' ho' hlive'
    rcases List.mem_or_eq_of_mem_set ho' with ho' | rfl
    · exact h.live o' ho' hlive'
    · exact ⟨(h.live o hmem hlive).1, by simp⟩
  · intro o' ho' hstate
    rcases List.mem_or_eq_of_mem_set ho' with ho' | rfl
    · exact ⟨h.established o' ho' hstate, h.served o' ho' hstate⟩
    · refine ⟨⟨hlive, hcarried⟩, fun hplaced => ?_⟩
      obtain ⟨hhere, hserved⟩ := h.succeeded m i o hsuccess ho hmonitor hplaced hlive
      exact ⟨hhere, fun hj => hserved hj (hcarried.transmitted.symm ▸ hcarried.2)⟩
  · intro _ o' ho' hlive' _ _
    obtain ⟨j, hj⟩ := List.mem_iff_getElem?.mp ho'
    by_cases hij : i = j
    · subst hij
      obtain rfl := Option.some.inj (hj.symm.trans ho)
      exact ⟨_, List.mem_set (List.getElem?_eq_some_iff.mp ho).1 _, hlive', hage⟩
    · exact ⟨o', List.mem_iff_getElem?.mpr ⟨j, (List.getElem?_set_ne hij).trans hj⟩, hlive', .refl o'⟩

/-! ## The publisher -/

theorem filter_eraseP_self (granted : List Grant) (path : String) :
    (granted.eraseP (·.path = path)).filter (·.path = path) = (granted.filter (·.path = path)).tail := by
  induction granted with
  | nil => rfl
  | cons grant granted ih =>
    by_cases hpath : grant.path = path
    · simp [hpath]
    · simp [hpath, ih]

theorem filter_eraseP_other (granted : List Grant) {path' : String} (hne : path' ≠ path) :
    (granted.eraseP (·.path = path)).filter (·.path = path') = granted.filter (·.path = path') := by
  induction granted with
  | nil => rfl
  | cons grant granted ih =>
    by_cases hpath : grant.path = path
    · simp [hpath, Ne.symm hne]
    · simp [List.filter_cons, hpath, ih]

theorem filter_placeGrant_self (hunique : (granted.filter (·.path = asked.path)).length ≤ 1) :
    (placeGrant granted asked).filter (·.path = asked.path) =
      if asked.relationships.isEmpty then [] else [⟨asked.path, asked.relationships⟩] := by
  have htail : (granted.filter (·.path = asked.path)).tail = [] := by
    rw [← List.length_eq_zero_iff, List.length_tail]
    omega
  rw [placeGrant]
  split
  · rw [filter_eraseP_self, htail]
  · rw [List.filter_append, filter_eraseP_self, htail]
    simp

theorem filter_placeGrant_other (granted : List Grant) (hne : path ≠ asked.path) :
    (placeGrant granted asked).filter (·.path = path) = granted.filter (·.path = path) := by
  rw [placeGrant]
  split
  · exact filter_eraseP_other granted hne
  · rw [List.filter_append, filter_eraseP_other granted hne]
    simp [Ne.symm hne]

theorem mem_placeGrant {grant : Grant} (h : grant ∈ placeGrant granted asked) :
    grant ∈ granted ∨ grant.relationships.isEmpty = false := by
  rw [placeGrant] at h
  split at h
  · exact .inl (List.mem_of_mem_eraseP h)
  · next hne =>
    rcases List.mem_append.mp h with h | h
    · exact .inl (List.mem_of_mem_eraseP h)
    · obtain rfl := List.mem_singleton.mp h
      exact .inr (by simpa using hne)

/-- What is granted and on its way after a request is served is the end of what was before it. -/
theorem inOrder_serve (rest : List Asked) (path : String)
    (hunique : (granted.filter (·.path = asked.path)).length ≤ 1) :
    inOrder (placeGrant granted asked) rest path <:+ inOrder granted (asked :: rest) path := by
  by_cases hpath : path = asked.path
  · subst hpath
    rw [inOrder, filter_placeGrant_self hunique, inOrder, List.filter_cons_of_pos (by simp), List.map_cons]
    refine List.IsSuffix.trans ?_ (List.suffix_append _ _)
    split
    · exact List.suffix_cons _ _
    · exact List.suffix_refl _
  · have hsame : inOrder (placeGrant granted asked) rest path = inOrder granted (asked :: rest) path := by
      rw [inOrder, filter_placeGrant_other granted hpath, inOrder,
        List.filter_cons_of_neg (by simpa using Ne.symm hpath)]
    exact hsame ▸ List.suffix_refl _

theorem getLast?_of_suffix {s t : List α} {a : α} (h : s <:+ t) (hlast : s.getLast? = some a) :
    t.getLast? = some a := by
  obtain ⟨u, rfl⟩ := h
  rw [List.getLast?_append, hlast, Option.some_or]

theorem lastProcessed_serve_self (asked : Asked) :
    lastProcessed { l with processed := l.processed ++ [(asked.path, asked.messageID)] } asked.path =
      some asked.messageID := by
  rw [lastProcessed, List.filter_append, List.filter_cons_of_pos (by simp), List.filter_nil, List.getLast?_concat]
  rfl

theorem lastProcessed_serve_other (hne : path ≠ asked.path) :
    lastProcessed { l with processed := l.processed ++ [(asked.path, asked.messageID)] } path =
      l.lastProcessed path := by
  rw [lastProcessed, List.filter_append, List.filter_cons_of_neg (by simpa using Ne.symm hne), List.filter_nil,
    List.append_nil, lastProcessed]

theorem Agrees.serve (h : Agrees publisher l) {rest : List Asked} (hthere : l.there = true)
    (hrequests : l.requests = asked :: rest) :
    Agrees publisher { l with
      requests := rest
      results := l.results ++ [asked.messageID]
      granted := placeGrant l.granted asked
      processed := l.processed ++ [(asked.path, asked.messageID)] } := by
  have hasked : asked ∈ l.requests := hrequests ▸ List.mem_cons_self
  have hrest : ∀ other ∈ rest, other ∈ l.requests := fun other ho => hrequests ▸ List.mem_cons_of_mem _ ho
  have hsuffix : ∀ path, inOrder (placeGrant l.granted asked) rest path <:+ l.askedFor path := by
    intro path
    rw [askedFor, hrequests]
    exact inOrder_serve rest path (h.unique asked.path)
  have hbehind : l.Joined → ∀ other ∈ rest, ∀ o ∈ l.outgoing, o.mMonitor = some asked.messageID → o.Live →
      other.path = o.path → other.relationships.isEmpty = false := by
    intro hj
    have hpairs := h.behind hj
    rw [hrequests] at hpairs
    exact (List.pairwise_cons.mp hpairs).1
  -- A path that is backed stays so: the request that was served asks for something.
  have hbacked : ∀ path, l.Backed path → Backed { l with
      requests := rest, granted := placeGrant l.granted asked } path := by
    intro path hb
    refine ⟨?_, fun relationships hrel => hb.2 relationships ((hsuffix path).subset hrel)⟩
    by_cases hpath : path = asked.path
    · subst hpath
      have hne : asked.relationships.isEmpty = false := by
        refine hb.2 asked.relationships ?_
        rw [askedFor, inOrder, List.mem_append]
        exact .inr (List.mem_map_of_mem (List.mem_filter.mpr ⟨hasked, by simp⟩))
      rw [grantedFor, filter_placeGrant_self (h.unique asked.path), hne]
      exact List.cons_ne_nil _ _
    · rw [grantedFor, filter_placeGrant_other l.granted hpath]
      exact hb.1
  -- The subscription whose request was served is backed from now on.
  have hanswered : l.Joined → ∀ o ∈ l.outgoing, o.mMonitor = some asked.messageID → o.Live →
      (transmitted o.relationships).isEmpty = false → Backed { l with
        requests := rest, granted := placeGrant l.granted asked } o.path := by
    intro hj o ho hm hlive hne
    obtain ⟨-, hpath, hrel⟩ := h.own asked hasked o ho hm
    rw [← hrel] at hne
    have hgrant : (placeGrant l.granted asked).filter (·.path = o.path) = [⟨asked.path, asked.relationships⟩] := by
      rw [← hpath, filter_placeGrant_self (h.unique asked.path), hne]
      rfl
    refine ⟨by rw [grantedFor, hgrant]; exact List.cons_ne_nil _ _, fun relationships hmem => ?_⟩
    rw [askedFor, inOrder, hgrant, List.mem_append] at hmem
    rcases hmem with hmem | hmem
    · obtain rfl := List.mem_singleton.mp hmem
      exact hne
    · obtain ⟨other, hother, rfl⟩ := List.mem_map.mp hmem
      obtain ⟨hother, hsame⟩ := List.mem_filter.mp hother
      exact hbehind hj other hother o ho hm hlive (by simpa using hsame)
  exact
    { h with
      issued :=
        { h.issued with
          requests := fun other ho => h.issued.requests other (hrest other ho)
          results := fun m hm => by
            rcases List.mem_append.mp hm with hm | hm
            · exact h.issued.results m hm
            · obtain rfl := List.mem_singleton.mp hm
              exact h.issued.requests asked hasked
          processed := fun e he => by
            rcases List.mem_append.mp he with he | he
            · exact h.issued.processed e he
            · obtain rfl := List.mem_singleton.mp he
              exact h.issued.requests asked hasked }
      served := fun o ho hstate hplaced => by
        obtain ⟨hhere, hb⟩ := h.served o ho hstate hplaced
        exact ⟨hhere, fun hj => hbacked o.path (hb hj)⟩
      own := fun other hother => h.own other (hrest other hother)
      behind := fun hj => by
        have hpairs := h.behind hj
        rw [hrequests] at hpairs
        exact (List.pairwise_cons.mp hpairs).2
      cancels := fun other hother => h.cancels other (hrest other hother)
      confirmed := fun m hm o ho hmonitor => by
        rcases List.mem_append.mp hm with hm | hm
        · obtain ⟨hplaced, hserved⟩ := h.confirmed m hm o ho hmonitor
          exact ⟨hplaced, fun hlive hj hne => hbacked o.path (hserved hlive hj hne)⟩
        · obtain rfl := List.mem_singleton.mp hm
          exact ⟨(h.own asked hasked o ho hmonitor).1, fun hlive hj hne => hanswered hj o ho hmonitor hlive hne⟩
      succeeded := fun m i o hs ho hm hplaced hlive => by
        obtain ⟨hhere, hserved⟩ := h.succeeded m i o hs ho hm hplaced hlive
        exact ⟨hhere, fun hj hne => hbacked o.path (hserved hj hne)⟩
      unique := fun path => by
        by_cases hpath : path = asked.path
        · subst hpath
          rw [grantedFor, filter_placeGrant_self (h.unique asked.path)]
          split <;> simp
        · rw [grantedFor, filter_placeGrant_other l.granted hpath]
          exact h.unique path
      asking := fun grant hgrant => by
        rcases mem_placeGrant hgrant with hold | hnew
        · exact h.asking grant hold
        · exact hnew
      backing := fun hj path relationships hrel hne =>
        h.backing hj path relationships ((hsuffix path).subset hrel) hne
      latest := fun hj path relationships hrel hne =>
        h.latest hj path relationships (getLast?_of_suffix (hsuffix path) hrel) hne
      gone := fun hgone => absurd hthere (by simp [show l.there = false from hgone])
      last := fun o ho path m hm hlast => by
        by_cases hpath : path = asked.path
        · subst hpath
          obtain rfl := Option.some.inj ((lastProcessed_serve_self asked).symm.trans hlast)
          rw [grantedFor, filter_placeGrant_self (h.unique asked.path), h.cancels asked hasked o ho hm]
          rfl
        · rw [grantedFor, filter_placeGrant_other l.granted hpath]
          exact h.last o ho path m hm ((lastProcessed_serve_other hpath).symm.trans hlast) }

theorem Agrees.part (h : Agrees publisher l) : Agrees publisher { l with granted := [], there := false } :=
  { h with
    issued := { h.issued with }
    served := fun o ho hstate hplaced => ⟨(h.served o ho hstate hplaced).1, fun hj => (nomatch hj.2)⟩
    behind := fun hj => (nomatch hj.2)
    confirmed := fun m hm o ho hmonitor => ⟨(h.confirmed m hm o ho hmonitor).1, fun _ hj => (nomatch hj.2)⟩
    succeeded := fun m i o hs ho hm hplaced hlive =>
      ⟨(h.succeeded m i o hs ho hm hplaced hlive).1, fun hj => (nomatch hj.2)⟩
    unique := fun _ => Nat.zero_le 1
    asking := fun _ hgrant => absurd hgrant List.not_mem_nil
    backing := fun hj => (nomatch hj.2)
    latest := fun hj => (nomatch hj.2)
    gone := fun _ => rfl
    last := fun _ _ _ _ _ _ => rfl }

theorem Agrees.join (h : Agrees publisher l) (hhere : l.here = false) (hthere : l.there = false) :
    Agrees publisher { l with requests := [], results := [], here := true, there := true } :=
  { h with
    issued :=
      { h.issued with
        requests := fun _ ha => absurd ha List.not_mem_nil
        results := fun _ hm => absurd hm List.not_mem_nil }
    served := fun o ho hstate hplaced =>
      absurd (h.served o ho hstate hplaced).1 (by simp [hhere])
    own := fun _ ha => absurd ha List.not_mem_nil
    behind := fun _ => List.Pairwise.nil
    cancels := fun _ ha => absurd ha List.not_mem_nil
    confirmed := fun _ hm => absurd hm List.not_mem_nil
    succeeded := fun m i o hs ho hm hplaced hlive =>
      absurd (h.succeeded m i o hs ho hm hplaced hlive).1 (by simp [hhere])
    backing := fun _ path relationships hrel => by
      rw [askedFor, inOrder, h.gone hthere] at hrel
      exact absurd hrel List.not_mem_nil
    latest := fun _ path relationships hrel => by
      rw [askedFor, inOrder, h.gone hthere] at hrel
      exact (nomatch hrel)
    gone := fun hgone => (nomatch hgone) }

/-! ## Every step -/

theorem Agrees.set (h : Agrees publisher l) (hnext : l.nextMessageID ≤ next) (ho : l.outgoing[i]? = some o)
    (hages : o.Ages o') (hdead : ¬o'.Live) (hstate : o'.mCurrentState ≠ .established)
    (hcancel : ∀ m, o'.mCancelMonitor = some m → o.mCancelMonitor = some m ∨ l.nextMessageID ≤ m ∧ m < next)
    (hkept : l.here = true → o.Live → o.PlacedAt publisher → (transmitted o.relationships).isEmpty = true) :
    Agrees publisher { l with outgoing := l.outgoing.set i o', nextMessageID := next } := by
  refine @Agrees.age _ _ h _ _ l.here hnext (map_info_set ho hages.info) ?_ id ?_ ?_
  · intro j later hlater
    rcases getElem?_set_cases hlater with ⟨rfl, rfl⟩ | ⟨-, hold⟩
    · exact ⟨o, ho, hages, fun hor => (hor.elim hdead hstate).elim, hcancel⟩
    · exact ⟨later, hold, .refl later, fun _ => rfl, fun m hm => .inl hm⟩
  · intro hlost hhere
    exact absurd hhere (by simp [hlost])
  · intro hhere other hother hlive hplaced hne
    obtain ⟨j, hj⟩ := List.mem_iff_getElem?.mp hother
    by_cases hij : i = j
    · subst hij
      obtain rfl := Option.some.inj (hj.symm.trans ho)
      exact absurd (hkept hhere hlive hplaced) (by simp [hne])
    · exact List.mem_iff_getElem?.mpr ⟨j, by rw [List.getElem?_set_ne hij, hj]⟩

theorem Agrees.cancel (h : Agrees publisher l) (ho : l.outgoing[i]? = some o)
    (hempty : l.here = true → o.PlacedAt publisher → (transmitted o.relationships).isEmpty = true ∧ ∀ j o', l.outgoing[j]? = some o' → j ≠ i → o'.registered = true → ¬o'.SamePath o) :
    Agrees publisher { l with
      outgoing := l.outgoing.set i
        { o with mCurrentState := .shuttingDown, mCancelMonitor := some l.nextMessageID }
      nextMessageID := l.nextMessageID + 1
      requests := l.requests ++ l.asking publisher o.mSubscriptionInfo } := by
  have hmem := List.mem_of_getElem? ho
  have hcancelled : Agrees publisher { l with
      outgoing := l.outgoing.set i
        { o with mCurrentState := .shuttingDown, mCancelMonitor := some l.nextMessageID }
      nextMessageID := l.nextMessageID + 1 } := by
    refine h.set (Nat.le_succ _) ho ⟨rfl, fun _ hm => hm, fun hl => (nomatch hl), id⟩ (fun hl => (nomatch hl))
      (by simp) ?_ fun hhere _ hplaced => (hempty hhere hplaced).1
    intro m hm
    obtain rfl := Option.some.inj hm
    exact .inr ⟨Nat.le_refl _, Nat.lt_succ_self _⟩
  refine hcancelled.askNothing ?_ ?_ ?_ ?_
  · intro asked hasked
    obtain ⟨-, -, rfl⟩ := mem_asking hasked
    exact Nat.lt_succ_self _
  · intro asked hasked
    obtain ⟨hplaced, hhere, rfl⟩ := mem_asking hasked
    exact (hempty hhere hplaced).1
  · intro asked hasked o' ho' hm
    obtain ⟨-, -, rfl⟩ := mem_asking hasked
    rcases List.mem_or_eq_of_mem_set ho' with ho' | rfl
    · exact absurd (h.issued.monitor o' ho' _ hm) (Nat.lt_irrefl _)
    · exact absurd (h.issued.monitor o hmem _ hm) (Nat.lt_irrefl _)
  · intro asked hasked o' ho' hlive' hplaced' hpath
    obtain ⟨hplaced, hhere, rfl⟩ := mem_asking hasked
    obtain ⟨j, hj⟩ := List.mem_iff_getElem?.mp ho'
    rcases getElem?_set_cases hj with ⟨-, rfl⟩ | ⟨hij, hold⟩
    · exact (nomatch hlive')
    · exact (hempty hhere hplaced).2 j o' hold (Ne.symm hij) (h.live o' (List.mem_of_getElem? hold) hlive').1
        ⟨hplaced'.trans hplaced.symm, hpath⟩

theorem Agrees.lose (h : Agrees publisher l) {location : Location} (hnext : l.nextMessageID ≤ next)
    (hinfos : outgoing.map (·.mSubscriptionInfo) = l.outgoing.map (·.mSubscriptionInfo))
    (hages : ∀ (i : Nat) o', outgoing[i]? = some o' → ∃ o, l.outgoing[i]? = some o ∧ Lost location l.nextMessageID next o o') :
    Agrees publisher { l with outgoing, nextMessageID := next, here := l.here && location ≠ publisher } := by
  have hsame : ∀ o o', o ∈ l.outgoing → Lost location l.nextMessageID next o o' →
      o'.Live ∨ o'.mCurrentState = .established → o' = o := by
    intro o o' ho hlost hor
    rcases hlost.other with heq | ⟨hplaced, hstate⟩
    · exact heq
    · rcases hor with hlive | hest
      · have hold := h.live o ho (hlost.ages.live hlive)
        exact absurd hlive (hlost.cancelled hplaced hold.1 hold.2)
      · exact absurd hest hstate
  refine h.age hnext hinfos ?_ (fun hhere => (Bool.and_eq_true_iff.mp hhere).1) ?_ ?_
  · intro i o' ho'
    obtain ⟨o, ho, hlost⟩ := hages i o' ho'
    exact ⟨o, ho, hlost.ages, hsame o o' (List.mem_of_getElem? ho) hlost, hlost.cancelMonitor⟩
  · intro hgone hhere o' ho' hplaced hlive
    have hlocation : location = publisher := by simpa [hhere] using hgone
    obtain ⟨i, hi⟩ := List.mem_iff_getElem?.mp ho'
    obtain ⟨o, ho, hlost⟩ := hages i o' hi
    have hold := h.live o (List.mem_of_getElem? ho) (hlost.ages.live hlive)
    refine hlost.cancelled ?_ hold.1 hold.2 hlive
    exact hlocation ▸ (hlost.ages.placedAt publisher).mp hplaced
  · intro hhere o ho _ hplaced _
    have hlocation : location ≠ publisher := by simpa using (Bool.and_eq_true_iff.mp hhere).2
    obtain ⟨i, hi⟩ := List.mem_iff_getElem?.mp ho
    have hlength : outgoing.length = l.outgoing.length := by simpa using congrArg List.length hinfos
    have hlt : i < outgoing.length := hlength ▸ (List.getElem?_eq_some_iff.mp hi).1
    obtain ⟨o₁, ho₁, hlost⟩ := hages i outgoing[i] (List.getElem?_eq_getElem hlt)
    obtain rfl := Option.some.inj (ho₁.symm.trans hi)
    rcases hlost.other with heq | ⟨hother, -⟩
    · exact heq ▸ List.getElem_mem hlt
    · exact absurd (Option.some.inj (hother.symm.trans hplaced)) hlocation

theorem Agrees.step (h : Agrees publisher l) {l' : Link} (hstep : Step publisher l l') : Agrees publisher l' := by
  cases hstep with
  | bookkeep next successes hnext hsuccesses =>
    exact h.posted hnext (List.Subset.refl _) fun e he => .inl (hsuccesses he)
  | place info hcarried => exact h.place info hcarried
  | cancel i o ho _ hempty => exact h.cancel ho hempty
  | settle i o o' ho hdead hages hcancel hstate =>
    refine h.set (Nat.le_refl _) ho hages (fun hlive => hdead (hages.live hlive)) hstate ?_ ?_
    · exact fun m hm => .inl (hcancel ▸ hm)
    · exact fun _ hlive => absurd hlive hdead
  | establish i o m ho hsuccess hmonitor hlive hcarried => exact h.establish ho hsuccess hmonitor hlive hcarried
  | lose location outgoing next hnext hinfos hages => exact h.lose hnext hinfos hages
  | serve asked rest hthere hrequests => exact h.serve hthere hrequests
  | receive m rest successes hhere hresults hsuccesses =>
    have hm : m ∈ l.results := hresults ▸ List.mem_cons_self
    refine h.posted (Nat.le_refl _) (fun m' hm' => hresults ▸ List.mem_cons_of_mem _ hm') fun e he => ?_
    refine (hsuccesses e he).imp id fun heq => ?_
    subst heq
    exact ⟨h.issued.results _ hm, fun o ho hmonitor _ hlive =>
      ⟨hhere, (h.confirmed _ hm o ho hmonitor).2 hlive⟩⟩
  | stray m successes hm hother hsuccesses =>
    refine h.posted (Nat.le_refl _) (List.Subset.refl _) fun e he => ?_
    refine (hsuccesses e he).imp id fun heq => ?_
    subst heq
    exact ⟨hm, fun o ho hmonitor hplaced => absurd hplaced (hother o ho hmonitor)⟩
  | part => exact h.part
  | join hhere hthere => exact h.join hhere hthere

end OpenPeer.Subscriptions.Link
