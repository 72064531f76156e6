import OpenPeer.SubscriptionSteps

/-!
# Subscribing and cancelling over whole runs

Each action of the network is a few allowed steps of each link, when it is one that the two
sides can bear. So they agree in every state of a run of such actions.
-/
namespace OpenPeer.Subscriptions

open Link Relation Repository

namespace Repository

variable {r q : Repository} {subscriber publisher : Location}

/-! ## Reading a stream -/

variable {location : Location}

theorem advance_link_other (h : publisher ≠ location) :
    (r.advance location).link q subscriber publisher = r.link q subscriber publisher := by
  simp [Repository.link, advance, requestsTo, successes, h]
  rfl

theorem link_advance_other (h : subscriber ≠ location) :
    r.link (q.advance location) subscriber publisher = r.link q subscriber publisher := by
  simp [Repository.link, advance, resultsTo, grantsTo, processedFrom, h]
  rfl

theorem advance_link_self (location : Location) :
    (r.advance location).link q subscriber location =
      { r.link q subscriber location with requests := (r.queue location).tail.filterMap Message.asked } := by
  simp [Repository.link, advance, requestsTo, successes]
  rfl

theorem link_advance_self (location : Location) :
    r.link (q.advance location) location publisher =
      { r.link q location publisher with results := (q.queue location).tail.filterMap Message.confirmed } := by
  simp [Repository.link, advance, resultsTo, grantsTo, processedFrom]
  rfl

variable (self : Address)

theorem onMessageIncoming_link (location : Location) (messageID : MessageID) (name : String)
    (elements : List RelationshipsElement) :
    (r.onMessageIncoming self location messageID name elements).link q subscriber publisher =
      r.link q subscriber publisher := by
  rw [onMessageIncoming]
  split
  · rfl
  · dsimp only [sendMessage]
    split
    · by_cases hlocation : publisher = location
      · subst hlocation
        simp [Repository.link, requestsTo, successes, Message.asked]
      · simp [Repository.link, requestsTo, successes, hlocation]
    · rfl
    · rfl

theorem isSource_address (target : Address) (name : String) (elements : List RelationshipsElement)
    (incoming : PeerSubscriptionIncoming) :
    isSource (subscribeMetaData self target.location name elements) incoming =
      decide (name = incoming.mSubscriptionInfo.mName ∧
        incoming.mSubscriptionInfo.mCreatorLocation = some target.location) := by
  rw [Bool.eq_iff_iff, isSource, Bool.and_eq_true, decide_eq_true_iff, decide_eq_true_iff, decide_eq_true_iff]
  exact and_congr Iff.rfl (address_locationCompare target)

theorem grant_address (target : Address) (incoming : PeerSubscriptionIncoming) :
    incoming.grant target.location =
      if incoming.mSubscriptionInfo.mCreatorLocation = some target.location then
        some ⟨incoming.mSubscriptionInfo.mName, incoming.mSubscriptionInfo.mPublishedRelationships⟩
      else none := by
  simp [PeerSubscriptionIncoming.grant, locationCompare_address]

theorem filterMap_grant_eraseP (target : Address) (name : String) (elements : List RelationshipsElement)
    (incoming : List PeerSubscriptionIncoming) :
    (incoming.eraseP (isSource (subscribeMetaData self target.location name elements))).filterMap
        (PeerSubscriptionIncoming.grant target.location) =
      (incoming.filterMap (PeerSubscriptionIncoming.grant target.location)).eraseP (·.path = name) := by
  induction incoming with
  | nil => rfl
  | cons first rest ih =>
    have hgrant := grant_address target first
    rw [List.eraseP_cons, isSource_address, List.filterMap_cons]
    by_cases hcreator : first.mSubscriptionInfo.mCreatorLocation = some target.location
    · rw [if_pos hcreator] at hgrant
      by_cases hname : name = first.mSubscriptionInfo.mName
      · simp [hgrant, hcreator, hname]
      · simp [hgrant, hcreator, hname, Ne.symm hname, ih]
    · rw [if_neg hcreator] at hgrant
      simp [hgrant, hcreator, ih]

variable {target other : Address}

theorem filterMap_grant_eraseP_other (h : target ≠ other) (name : String)
    (elements : List RelationshipsElement) (incoming : List PeerSubscriptionIncoming) :
    (incoming.eraseP (isSource (subscribeMetaData self other.location name elements))).filterMap
        (PeerSubscriptionIncoming.grant target.location) =
      incoming.filterMap (PeerSubscriptionIncoming.grant target.location) := by
  have hlocation : other.location ≠ target.location := Ne.symm (Address.location_ne h)
  induction incoming with
  | nil => rfl
  | cons first rest ih =>
    have hgrant := grant_address target first
    rw [List.eraseP_cons, isSource_address]
    by_cases hsource : name = first.mSubscriptionInfo.mName ∧
        first.mSubscriptionInfo.mCreatorLocation = some other.location
    · rw [hsource.2, if_neg (by simpa using hlocation)] at hgrant
      simp [hsource.1, hsource.2, hgrant]
    · rw [decide_eq_false hsource]
      simp only [cond_false, List.filterMap_cons, ih]

theorem grantsTo_placeIncoming (target : Address) (messageID : MessageID) (name : String)
    (elements : List RelationshipsElement) (incoming : List PeerSubscriptionIncoming) :
    (placeIncoming incoming (subscribeMetaData self target.location name elements)).filterMap
        (PeerSubscriptionIncoming.grant target.location) =
      placeGrant (incoming.filterMap (PeerSubscriptionIncoming.grant target.location))
        ⟨messageID, name, MessageHelper.fillRelationships elements⟩ := by
  rw [placeIncoming, placeGrant]
  simp only
  rw [show (subscribeMetaData self target.location name elements).mPublishedRelationships =
    MessageHelper.fillRelationships elements from rfl]
  split
  · exact filterMap_grant_eraseP self target name elements incoming
  · rw [List.filterMap_append, filterMap_grant_eraseP]
    simp [grant_address, subscribeMetaData]

theorem grantsTo_placeIncoming_other (h : target ≠ other) (name : String)
    (elements : List RelationshipsElement) (incoming : List PeerSubscriptionIncoming) :
    (placeIncoming incoming (subscribeMetaData self other.location name elements)).filterMap
        (PeerSubscriptionIncoming.grant target.location) =
      incoming.filterMap (PeerSubscriptionIncoming.grant target.location) := by
  have hlocation : other.location ≠ target.location := Ne.symm (Address.location_ne h)
  rw [placeIncoming]
  split
  · exact filterMap_grant_eraseP_other self h name elements incoming
  · rw [List.filterMap_append, filterMap_grant_eraseP_other self h]
    simp [grant_address, subscribeMetaData, hlocation]

theorem link_onMessageIncoming_other (h : target ≠ other) (messageID : MessageID) (name : String)
    (elements : List RelationshipsElement) :
    r.link (q.onMessageIncoming self other.location messageID name elements) target.location publisher =
      r.link q target.location publisher := by
  have hlocation : target.location ≠ other.location := Address.location_ne h
  rw [onMessageIncoming, if_neg (by simp [Location.getPeer, Address.location])]
  dsimp only [sendMessage]
  split
  · simp [Repository.link, resultsTo, grantsTo, processedFrom, grantsTo_placeIncoming_other self h, hlocation,
      Ne.symm hlocation]
  · simp [Repository.link, resultsTo, grantsTo, processedFrom, grantsTo_placeIncoming_other self h,
      Ne.symm hlocation]
  · simp [Repository.link, resultsTo, grantsTo, processedFrom, grantsTo_placeIncoming_other self h,
      Ne.symm hlocation]

theorem link_onMessageIncoming (target : Address) (messageID : MessageID) (name : String)
    (elements : List RelationshipsElement) (h : q.connection target.location = .connected) :
    r.link (q.onMessageIncoming self target.location messageID name elements) target.location publisher =
      { r.link q target.location publisher with
        results := q.resultsTo target.location ++ [messageID]
        granted := placeGrant (q.grantsTo target.location)
          ⟨messageID, name, MessageHelper.fillRelationships elements⟩
        processed := q.processedFrom target.location ++ [(name, messageID)] } := by
  rw [onMessageIncoming, if_neg (by simp [Location.getPeer, Address.location])]
  simp [sendMessage, h, Repository.link, resultsTo, grantsTo, processedFrom, Message.confirmed,
    grantsTo_placeIncoming self target messageID]

/-! ## Connections -/

theorem connect_link_self (location : Location) :
    (r.connect location).link q subscriber location = { r.link q subscriber location with requests := [], here := true } := by
  simp [Repository.link, connect, requestsTo, successes]

theorem connect_link_other (h : publisher ≠ location) :
    (r.connect location).link q subscriber publisher = r.link q subscriber publisher := by
  simp [Repository.link, connect, requestsTo, successes, h]

theorem link_connect_self (location : Location) :
    r.link (q.connect location) location publisher = { r.link q location publisher with results := [], there := true } := by
  simp [Repository.link, connect, resultsTo, grantsTo, processedFrom]

theorem link_connect_other (h : subscriber ≠ location) :
    r.link (q.connect location) subscriber publisher = r.link q subscriber publisher := by
  simp [Repository.link, connect, resultsTo, grantsTo, processedFrom, h]

/-- What a repository serves after it has lost a location. -/
theorem link_disconnect (q : Repository) (target other : Address) (connection : Connection) :
    r.link (q.disconnect other.location connection) target.location publisher =
      { r.link q target.location publisher with
        granted := (q.disconnect other.location connection).grantsTo target.location
        there := Function.update q.connection other.location connection target.location = .connected } := by
  have h := loseOutgoing_servesAs { q with connection := Function.update q.connection other.location connection }
    other.location (List.range q.outgoing.length)
  have hresults : (q.disconnect other.location connection).resultsTo target.location =
      q.resultsTo target.location := h.results target.location
  have hprocessed : (q.disconnect other.location connection).processedFrom target.location =
      q.processedFrom target.location := by
    rw [processedFrom, show (q.disconnect other.location connection).processed = q.processed from h.processed,
      processedFrom]
  have hconnection : (q.disconnect other.location connection).connection =
      Function.update q.connection other.location connection := h.connection
  simp only [Repository.link, hresults, hprocessed, hconnection]

theorem grantsTo_disconnect_self (q : Repository) (target : Address) (connection : Connection) :
    (q.disconnect target.location connection).grantsTo target.location = [] := by
  rw [grantsTo, disconnect, List.filterMap_filter, List.filterMap_eq_nil_iff]
  intro incoming _
  by_cases hcreator : incoming.mSubscriptionInfo.mCreatorLocation = some target.location
  · simp [hcreator]
  · simp [grant_address, hcreator]

theorem grantsTo_disconnect_other (q : Repository) (h : target ≠ other) (connection : Connection) :
    (q.disconnect other.location connection).grantsTo target.location = q.grantsTo target.location := by
  have hlost := loseOutgoing_servesAs { q with connection := Function.update q.connection other.location connection }
    other.location (List.range q.outgoing.length)
  have hlocation : target.location ≠ other.location := Address.location_ne h
  rw [grantsTo, disconnect, List.filterMap_filter, hlost.incoming, grantsTo]
  refine List.filterMap_congr fun incoming _ => ?_
  by_cases hcreator : incoming.mSubscriptionInfo.mCreatorLocation = some target.location
  · simp [hcreator, locationCompare_address, hlocation]
  · simp [grant_address, hcreator]

end Repository

namespace Network

/-- The link on which the repository at `s` subscribes at the one at `p`. -/
def link (w : Network) (s p : Address) : Link := (w s).link (w p) s.location p.location

/-- Actions that the two sides can bear. -/
def Bearable (w : Network) : Action → Prop
  | .subscribe a b publicationPath relationships =>
    a = b ∨ (w a).SubscribeBearable b.location publicationPath relationships
  | .cancel a i => (w a).CancelBearable i
  | .run a k => ∀ call ∈ (w a).posted[k]?, (w a).RunBearable call
  | _ => True

instance (w : Network) (action : Action) : Decidable (w.Bearable action) := by
  cases action <;> unfold Bearable <;> infer_instance

def AllAgree (w : Network) : Prop := ∀ s p, s ≠ p → Agrees p.location (w.link s p)

theorem allAgree_initial : initial.AllAgree := fun _ _ _ => agrees_empty

variable {a s p : Address}

/-- Something happens at one repository only, and not to what it serves. -/
theorem link_update {w : Network} {r : Repository}
    (hsubscriber : ∀ q publisher, ReflTransGen (Step publisher) ((w a).link q a.location publisher) (r.link q a.location publisher))
    (hserves : (w a).ServesAs r) (hne : s ≠ p) :
    ReflTransGen (Step p.location) (w.link s p) (link (Function.update w a r) s p) := by
  rw [link, link]
  by_cases hs : s = a
  · subst hs
    rw [Function.update_self, Function.update_of_ne (Ne.symm hne)]
    exact hsubscriber (w p) p.location
  · rw [Function.update_of_ne hs]
    by_cases hp : p = a
    · subst hp
      rw [Function.update_self, hserves.link]
    · rw [Function.update_of_ne hp]

variable (w : Network) {b : Address}

theorem disconnect_steps {connection : Connection} (h : connection ≠ .connected) (hne : s ≠ p) :
    ReflTransGen (Step p.location) (w.link s p)
      (link (Function.update w a ((w a).disconnect b.location connection)) s p) := by
  rw [link, link]
  by_cases hs : s = a
  · subst hs
    rw [Function.update_self, Function.update_of_ne (Ne.symm hne)]
    exact .single (disconnect_step (w s) b h)
  · rw [Function.update_of_ne hs]
    by_cases hp : p = a
    · subst hp
      rw [Function.update_self, link_disconnect]
      by_cases hb : s = b
      · subst hb
        rw [grantsTo_disconnect_self, Function.update_self, decide_eq_false h]
        exact .single .part
      · have hlocation : s.location ≠ b.location := Address.location_ne hb
        rw [grantsTo_disconnect_other _ hb, Function.update_of_ne hlocation]
        exact .refl
    · rw [Function.update_of_ne hp]

/-- Something happens at two repositories: only the links between them change, and what the second one asks
of others. -/
theorem link_update₂ {first second : Repository} (hab : a ≠ b)
    (hforth : ReflTransGen (Step b.location) (w.link a b) (first.link second a.location b.location))
    (hback : ReflTransGen (Step a.location) (w.link b a) (second.link first b.location a.location))
    (hasks : ∀ p ≠ b, ∀ q, first.link q a.location p.location = (w a).link q a.location p.location)
    (hreads : ∀ p ≠ a, ReflTransGen (Step p.location) (w.link b p) (second.link (w p) b.location p.location))
    (hfirst : ∀ s ≠ b, ∀ r : Repository, r.link first s.location a.location = r.link (w a) s.location a.location)
    (hsecond : ∀ s ≠ a, ∀ r : Repository, r.link second s.location b.location = r.link (w b) s.location b.location)
    (hne : s ≠ p) :
    ReflTransGen (Step p.location) (w.link s p)
      (link (Function.update (Function.update w a first) b second) s p) := by
  rw [link, link]
  by_cases hsa : s = a
  · subst hsa
    rw [Function.update_of_ne hab, Function.update_self]
    by_cases hpb : p = b
    · subst hpb
      simpa [link] using hforth
    · rw [Function.update_of_ne hpb, Function.update_of_ne (Ne.symm hne), hasks p hpb]
  · by_cases hsb : s = b
    · subst hsb
      rw [Function.update_self]
      by_cases hpa : p = a
      · subst hpa
        simpa [link, hab] using hback
      · simpa [link, Ne.symm hne, hpa] using hreads p hpa
    · rw [Function.update_of_ne hsb, Function.update_of_ne hsa]
      by_cases hpb : p = b
      · subst hpb
        rw [Function.update_self, hsecond s hsa]
      · rw [Function.update_of_ne hpb]
        by_cases hpa : p = a
        · subst hpa
          rw [Function.update_self, hfirst s hsb]
        · rw [Function.update_of_ne hpa]

theorem connect_steps (hab : a ≠ b) (ha : ¬w.Connected a b) (hb : ¬w.Connected b a) (hne : s ≠ p) :
    ReflTransGen (Step p.location) (w.link s p)
      (link (Function.update (Function.update w a ((w a).connect b.location)) b ((w b).connect a.location)) s p) := by
  apply link_update₂ w hab _ _ _ _ _ _ hne
  · rw [connect_link_self, link_connect_self]
    exact .single (Step.join (l := w.link a b) (decide_eq_false ha) (decide_eq_false hb))
  · rw [connect_link_self, link_connect_self]
    exact .single (Step.join (l := w.link b a) (decide_eq_false hb) (decide_eq_false ha))
  · exact fun _ hp _ => connect_link_other (Address.location_ne hp)
  · intro _ hp
    rw [connect_link_other (Address.location_ne hp)]
    exact .refl
  · exact fun _ hs _ => link_connect_other (Address.location_ne hs)
  · exact fun _ hs _ => link_connect_other (Address.location_ne hs)

variable {messageID : MessageID} {name : String} {elements : List RelationshipsElement}
  {rest : List Message}

/-- A request is read: it is served on its own link, and no other link notices. -/
theorem deliver_request (hab : a ≠ b)
    (hqueue : (w a).queue b.location = .subscribeRequest messageID name elements :: rest)
    (hconnected : w.Connected b a) (hne : s ≠ p) :
    ReflTransGen (Step p.location) (w.link s p)
      (link (Function.update (Function.update w a ((w a).advance b.location)) b
        ((w b).onMessageIncoming b a.location messageID name elements)) s p) := by
  apply link_update₂ w hab _ _ _ _ _ _ hne
  · rw [link_onMessageIncoming b a messageID name elements hconnected, advance_link_self, hqueue]
    refine .single (Step.serve (l := w.link a b) ⟨messageID, name, MessageHelper.fillRelationships elements⟩
      (rest.filterMap Message.asked) (decide_eq_true hconnected) ?_)
    simp [link, Repository.link, Repository.requestsTo, hqueue, Message.asked]
  · have hresults : rest.filterMap Message.confirmed = (w a).resultsTo b.location := by
      rw [resultsTo, hqueue]
      rfl
    rw [onMessageIncoming_link, link_advance_self, hqueue, List.tail_cons, hresults]
    exact .refl
  · exact fun _ hp _ => Repository.advance_link_other (Address.location_ne hp)
  · intro _ _
    rw [onMessageIncoming_link]
    exact .refl
  · exact fun _ hs _ => link_advance_other (Address.location_ne hs)
  · exact fun _ hs _ => link_onMessageIncoming_other b hs messageID name elements

/-- A result is read: its own subscriber gets it, which knows it for no other link. -/
theorem deliver_result (h : w.AllAgree) (hab : a ≠ b)
    (hqueue : (w a).queue b.location = .subscribeResult messageID name elements :: rest)
    (hconnected : w.Connected b a) (hne : s ≠ p) :
    ReflTransGen (Step p.location) (w.link s p)
      (link (Function.update (Function.update w a ((w a).advance b.location)) b
        ((w b).handleMessage messageID false)) s p) := by
  have hserves := handleMessage_servesAs (w b) messageID false
  have hresults : (w a).resultsTo b.location = messageID :: rest.filterMap Message.confirmed := by
    simp [resultsTo, hqueue, Message.confirmed]
  apply link_update₂ w hab _ _ _ _ _ _ hne
  · have hrequests : rest.filterMap Message.asked = (w a).requestsTo b.location := by
      rw [Repository.requestsTo, hqueue]
      rfl
    rw [hserves.link, advance_link_self, hqueue, List.tail_cons, hrequests]
    exact .refl
  · obtain ⟨successes, hlink, hsuccesses⟩ := handleMessage_link ((w a).advance b.location) b.location
      a.location (w b) messageID false
    rw [hlink, link_advance_self, hqueue]
    refine .single (Step.receive (l := w.link b a) messageID (rest.filterMap Message.confirmed) successes
      (decide_eq_true hconnected) hresults ?_)
    exact fun e he => (hsuccesses e he).imp id fun hnew => hnew.1
  · exact fun _ hp _ => Repository.advance_link_other (Address.location_ne hp)
  · intro p hpa
    obtain ⟨successes, hlink, hsuccesses⟩ := handleMessage_link (w p) b.location p.location (w b) messageID false
    rw [hlink]
    have hagrees := h b a (Ne.symm hab)
    have hmem : messageID ∈ (w.link b a).results := by
      rw [show (w.link b a).results = (w a).resultsTo b.location from rfl, hresults]
      exact List.mem_cons_self
    refine .single (Step.stray (l := w.link b p) messageID successes (hagrees.issued.results messageID hmem) ?_ ?_)
    · intro o ho hmonitor hplaced
      have hat := (hagrees.confirmed messageID hmem o ho hmonitor).1
      exact Address.location_ne hpa (Option.some.inj (hplaced.symm.trans hat))
    · exact fun e he => (hsuccesses e he).imp id fun hnew => hnew.1
  · exact fun _ hs _ => link_advance_other (Address.location_ne hs)
  · exact fun _ _ r => hserves.link r _ _

theorem deliver_steps (h : w.AllAgree) (hab : a ≠ b) (hne : s ≠ p) :
    ReflTransGen (Step p.location) (w.link s p) ((w.deliver a b).link s p) := by
  rw [deliver]
  cases hqueue : (w a).queue b.location with
  | nil => exact .refl
  | cons message rest =>
    simp only
    split
    · next hconnected =>
      cases message with
      | subscribeRequest messageID name elements => exact deliver_request w hab hqueue hconnected hne
      | subscribeResult messageID name elements => exact deliver_result w h hab hqueue hconnected hne
    · exact .refl

theorem step_steps (h : w.AllAgree) (action : Action) (hbearable : w.Bearable action) (hne : s ≠ p) :
    ReflTransGen (Step p.location) (w.link s p) ((w.step action).link s p) := by
  cases action with
  | subscribe a b publicationPath relationships =>
    simp only [step]
    split
    · exact .refl
    · next hab =>
      have hbearable := hbearable.resolve_left hab
      exact link_update (fun q publisher => .single (subscribe_step (w a) a b publicationPath relationships hbearable))
        ((w a).subscribe_servesAs a b publicationPath relationships) hne
  | cancel a i => exact link_update (fun q publisher => cancel_steps (w a) i hbearable) ((w a).cancel_servesAs i) hne
  | deliver a b =>
    simp only [step]
    split
    · exact .refl
    · next hab => exact deliver_steps w h hab hne
  | timer a messageID =>
    exact link_update (fun q publisher => by rw [onTimer_link (w a) messageID]) ((w a).onTimer_servesAs messageID) hne
  | run a k => exact link_update (fun q publisher => run_steps (w a) k hbearable) ((w a).run_servesAs k) hne
  | disconnect a b forgotten =>
    simp only [step]
    split
    · exact .refl
    · exact disconnect_steps w (by cases forgotten <;> simp [lostConnection]) hne
  | connect a b =>
    simp only [step]
    split
    · exact .refl
    · next hcond =>
      rw [not_or, not_or] at hcond
      exact connect_steps w hcond.1 hcond.2.1 hcond.2.2 hne

theorem allAgree_step (action : Action) (hbearable : w.Bearable action) (h : w.AllAgree) :
    (w.step action).AllAgree := by
  intro s p hne
  have hsteps := step_steps w h action hbearable hne
  have hinv : ∀ l l', ReflTransGen (Step p.location) l l' → Agrees p.location l → Agrees p.location l' := by
    intro l l' hsteps hagrees
    induction hsteps with
    | refl => exact hagrees
    | tail _ hstep ih => exact ih.step hstep
  exact hinv _ _ hsteps (h s p hne)

theorem allAgree_run (actions : List Action) (h : Runs.Meets step Bearable initial actions) :
    (Runs.run step initial actions).AllAgree :=
  Runs.run_invariant _ (fun w action hbearable hagree => allAgree_step w action hbearable hagree) initial actions h
    allAgree_initial

/-! ## Agreement -/

/-- What the publisher has for a location and a path. -/
def incomingOf (w : Network) (s p : Address) (path : String) : List PeerSubscriptionIncoming :=
  (w p).incoming.filter fun incoming => incoming.mSubscriptionInfo.mName = path ∧
    locationCompare incoming.mSubscriptionInfo.mCreatorLocation (some s.location) = .eq

/-- Another subscription to the path is in the map. -/
def Remains (r : Repository) (i : Nat) (o : PeerSubscriptionOutgoing) : Prop :=
  ∃ o' ∈ r.outgoing.eraseIdx i, o'.registered = true ∧ o'.SamePath o

instance (r : Repository) (i : Nat) (o : PeerSubscriptionOutgoing) : Decidable (Remains r i o) :=
  inferInstanceAs (Decidable (∃ o' ∈ r.outgoing.eraseIdx i, _))

/-- The request that the publisher processed last for a location and a path. -/
def lastProcessed (r : Repository) (location : Location) (path : String) : Option MessageID :=
  (((r.processedFrom location).filter (·.1 = path)).getLast?).map (·.2)

/-- The subscriber and the publisher agree. `cancelled`: when the request that cancelled a subscription
has been processed and no other subscription to the path remains, the publisher has none; a subscriber
that lost the connection takes its other subscriptions with it before the publisher can know, and then
this is about the request processed last. `established`: the publisher has one subscription, and when
no request for the path is on its way, then with the relationships of the latest. -/
structure Agreement (w : Network) (s p : Address) : Prop where
  cancelled : ∀ i o m, (w s).outgoing[i]? = some o → o.PlacedAt p.location → o.mCancelMonitor = some m →
    (s.location, o.path, m) ∈ (w p).processed → ¬Remains (w s) i o →
    w.Connected s p ∨ lastProcessed (w p) s.location o.path = some m → w.incomingOf s p o.path = []
  established : w.Joined s p → ∀ o ∈ (w s).outgoing, o.PlacedAt p.location → o.mCurrentState = .established →
    ∃ incoming, w.incomingOf s p o.path = [incoming] ∧
      ((∀ asked ∈ (w s).requestsTo p.location, asked.path ≠ o.path) →
        Link.latest (w s).outgoing p.location o.path = some incoming.mSubscriptionInfo.mPublishedRelationships)

theorem grantedFor_link (s p : Address) (path : String) :
    (w.link s p).grantedFor path = (w.incomingOf s p path).map fun incoming =>
      ⟨incoming.mSubscriptionInfo.mName, incoming.mSubscriptionInfo.mPublishedRelationships⟩ := by
  rw [grantedFor, incomingOf, show (w.link s p).granted = (w p).incoming.filterMap
    (PeerSubscriptionIncoming.grant s.location) from rfl]
  induction (w p).incoming with
  | nil => rfl
  | cons first rest ih =>
    rw [List.filterMap_cons, List.filter_cons]
    by_cases hlocation : locationCompare first.mSubscriptionInfo.mCreatorLocation (some s.location) = .eq
    · by_cases hname : first.mSubscriptionInfo.mName = path
      · simp [PeerSubscriptionIncoming.grant, hlocation, hname, ih]
      · simp [PeerSubscriptionIncoming.grant, hlocation, hname, ih]
    · simp [PeerSubscriptionIncoming.grant, hlocation, ih]

theorem incomingOf_eq_nil {w : Network} {path : String} (h : (w.link s p).grantedFor path = []) :
    w.incomingOf s p path = [] := List.map_eq_nil_iff.mp ((grantedFor_link w s p path).symm.trans h)

theorem agreement_of_agrees {w : Network} (h : Agrees p.location (w.link s p)) : w.Agreement s p := by
  refine ⟨?_, ?_⟩
  · intro i o m ho hplaced hcancel _ hremains hor
    refine incomingOf_eq_nil ?_
    rcases hor with hconnected | hlast
    · by_cases hthere : w.Connected p s
      · -- Whatever is granted belongs to a subscription that nothing has cancelled.
        by_contra hne
        obtain ⟨grant, hgrant⟩ := List.exists_mem_of_ne_nil _ hne
        obtain ⟨hgrant, hpath⟩ := List.mem_filter.mp hgrant
        have hasked : grant.relationships ∈ (w.link s p).askedFor o.path := by
          rw [askedFor, inOrder, List.mem_append]
          exact .inl (List.mem_map_of_mem (List.mem_filter.mpr ⟨hgrant, hpath⟩))
        obtain ⟨o', ho', hlive, hplaced', hpath', -⟩ := h.backing ⟨decide_eq_true hconnected, decide_eq_true hthere⟩
          o.path grant.relationships hasked (h.asking grant hgrant)
        obtain ⟨j, hj⟩ := List.mem_iff_getElem?.mp ho'
        refine hremains ⟨o', List.mem_eraseIdx_iff_getElem?.mpr ⟨j, ?_, hj⟩, (h.live o' ho' hlive).1,
          hplaced'.trans hplaced.symm, hpath'⟩
        rintro rfl
        obtain rfl := Option.some.inj (hj.symm.trans ho)
        rw [PeerSubscriptionOutgoing.Live, hcancel] at hlive
        cases hlive
      · rw [grantedFor, h.gone (decide_eq_false hthere)]
        rfl
    · exact h.last o (List.mem_of_getElem? ho) o.path m hcancel hlast
  · intro hjoined o ho hplaced hstate
    have hj : (w.link s p).Joined := ⟨decide_eq_true hjoined.1, decide_eq_true hjoined.2⟩
    obtain ⟨hlive, hcarried⟩ := h.established o ho hstate
    obtain ⟨hne, hasks⟩ := (h.served o ho hstate hplaced).2 hj
    have hunique := h.unique o.path
    rw [grantedFor_link] at hne hunique
    obtain ⟨incoming, hincoming⟩ : ∃ incoming, w.incomingOf s p o.path = [incoming] := by
      refine List.length_eq_one_iff.mp (Nat.le_antisymm ?_ ?_)
      · simpa using hunique
      · exact List.length_pos_iff.mpr fun hnil => hne (by rw [hnil]; rfl)
    refine ⟨incoming, hincoming, fun hnone => ?_⟩
    -- Nothing is on its way for the path, so the grant is the last word.
    have hgranted : (w.link s p).askedFor o.path = [incoming.mSubscriptionInfo.mPublishedRelationships] := by
      have hrequests : (w.link s p).requests.filter (·.path = o.path) = [] :=
        List.filter_eq_nil_iff.mpr fun asked hasked => by simpa using hnone asked hasked
      have hgrants := grantedFor_link w s p o.path
      rw [hincoming, grantedFor] at hgrants
      rw [askedFor, inOrder, hgrants, hrequests]
      rfl
    obtain ⟨placed, hlatest, hrel⟩ := h.latest hj o.path incoming.mSubscriptionInfo.mPublishedRelationships
      (by rw [hgranted]; rfl) (hasks _ (by rw [hgranted]; exact List.mem_singleton_self _))
    have htransmitted : transmitted placed = placed := by
      rcases h.later o ho (h.live o ho hlive).1 hplaced placed hlatest with hplacedCarried | rfl
      · exact hplacedCarried.transmitted
      · exact hcarried.transmitted
    rw [hrel, htransmitted]
    exact hlatest

/-- In a run of actions that the two sides can bear, every two repositories agree in every state. -/
theorem subscriptions_agree (actions : List Action) (h : Runs.Meets step Bearable initial actions)
    {s p : Address} (hne : s ≠ p) : (Runs.run step initial actions).Agreement s p :=
  agreement_of_agrees (allAgree_run actions h s p hne)

/-! ## Two runs -/

def subscriberAddress : Address := ⟨"peer://subscriber", "1"⟩

def publisherAddress : Address := ⟨"peer://publisher", "2"⟩

/-- Everyone on one contact list. -/
def everyone : SubscribeToRelationshipsMap :=
  (∅ : SubscribeToRelationshipsMap).insert "/authorization-list/whitelist" (.all, [])

/-- One subscription is established, and one that asks for nothing is cancelled before its result is
handled. -/
def boundedRun : List Action :=
  [.connect subscriberAddress publisherAddress,
    .subscribe subscriberAddress publisherAddress "/presence/" everyone,
    .deliver subscriberAddress publisherAddress, .deliver publisherAddress subscriberAddress,
    .run subscriberAddress 0, .subscribe subscriberAddress publisherAddress "/quiet/" ∅,
    .deliver subscriberAddress publisherAddress, .cancel subscriberAddress 1,
    .deliver subscriberAddress publisherAddress]

theorem subscriptions_agree_boundedRun :
    (Runs.run step initial boundedRun).Agreement subscriberAddress publisherAddress ∧
      (Runs.run step initial boundedRun subscriberAddress).outgoing.map (·.mCurrentState) =
        [.established, .shuttingDown] ∧
      ((Runs.run step initial boundedRun).incomingOf subscriberAddress publisherAddress "/presence/").length = 1 ∧
      lastProcessed (Runs.run step initial boundedRun publisherAddress) subscriberAddress.location "/quiet/" = some 2 :=
  ⟨subscriptions_agree boundedRun (by decide +kernel) (by decide), by decide +kernel, by decide +kernel,
    by decide +kernel⟩

/-- A subscription is established, cancelled, and the request that cancels it is processed. -/
def cancelledRun : List Action :=
  [.connect subscriberAddress publisherAddress,
    .subscribe subscriberAddress publisherAddress "/presence/" everyone,
    .deliver subscriberAddress publisherAddress, .deliver publisherAddress subscriberAddress,
    .run subscriberAddress 0, .cancel subscriberAddress 0, .deliver subscriberAddress publisherAddress,
    .deliver publisherAddress subscriberAddress, .run subscriberAddress 0]

/-- The publisher still has the subscription that was cancelled. -/
theorem cancelled_subscription_stays :
    ¬(Runs.run step initial cancelledRun).Agreement subscriberAddress publisherAddress ∧
      (Runs.run step initial cancelledRun subscriberAddress).outgoing.map (·.mCurrentState) = [.shutdown] ∧
      ((Runs.run step initial cancelledRun).incomingOf subscriberAddress publisherAddress "/presence/").length = 1 := by
  refine ⟨fun h => ?_, by decide +kernel, by decide +kernel⟩
  have hlength : (Runs.run step initial cancelledRun subscriberAddress).outgoing.length = 1 := by decide +kernel
  obtain ⟨o, ho⟩ : ∃ o, (Runs.run step initial cancelledRun subscriberAddress).outgoing[0]? = some o :=
    ⟨_, List.getElem?_eq_getElem (by omega)⟩
  have hfacts : ∀ o ∈ (Runs.run step initial cancelledRun subscriberAddress).outgoing[0]?,
      o.PlacedAt publisherAddress.location ∧ o.mCancelMonitor = some 1 ∧
      (subscriberAddress.location, o.path, 1) ∈ (Runs.run step initial cancelledRun publisherAddress).processed ∧
      ¬Remains (Runs.run step initial cancelledRun subscriberAddress) 0 o ∧
      (Runs.run step initial cancelledRun).incomingOf subscriberAddress publisherAddress o.path ≠ [] := by
    decide +kernel
  obtain ⟨hplaced, hcancel, hprocessed, hremains, hne⟩ := hfacts o ho
  exact hne (h.cancelled 0 o 1 ho hplaced hcancel hprocessed hremains (.inl (by decide +kernel)))

end Network

end OpenPeer.Subscriptions
