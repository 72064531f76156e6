import Mathlib.Logic.Relation
import OpenPeer.SubscriptionAgreement

/-!
# What a repository does, seen from its links

Each operation of a repository is a few steps of every link at which it subscribes, and leaves
what it serves at every link as it is.
-/
namespace OpenPeer.Subscriptions

open PeerSubscriptionOutgoing

def Posted.success : Posted → Option (MessageID × Nat)
  | .handleMessage messageID subscription false => some (messageID, subscription)
  | _ => none

def Message.asked : Message → Option Asked
  | .subscribeRequest messageID name elements => some ⟨messageID, name, MessageHelper.fillRelationships elements⟩
  | .subscribeResult _ _ _ => none

def Message.confirmed : Message → Option MessageID
  | .subscribeRequest _ _ _ => none
  | .subscribeResult messageID _ _ => some messageID

/-- What an incoming subscription grants to the location. -/
def PeerSubscriptionIncoming.grant (location : Location) (incoming : PeerSubscriptionIncoming) : Option Grant :=
  if locationCompare incoming.mSubscriptionInfo.mCreatorLocation (some location) = .eq then
    some ⟨incoming.mSubscriptionInfo.mName, incoming.mSubscriptionInfo.mPublishedRelationships⟩
  else none

namespace Repository

def successes (r : Repository) : List (MessageID × Nat) := r.posted.filterMap Posted.success

def requestsTo (r : Repository) (location : Location) : List Asked := (r.queue location).filterMap Message.asked

def resultsTo (r : Repository) (location : Location) : List MessageID :=
  (r.queue location).filterMap Message.confirmed

def grantsTo (r : Repository) (location : Location) : List Grant :=
  r.incoming.filterMap (PeerSubscriptionIncoming.grant location)

def processedFrom (r : Repository) (location : Location) : List (String × MessageID) :=
  (r.processed.filter (·.1 = location)).map (·.2)

/-- The link on which `r` subscribes at the location of `q`, and `q` serves the location of `r`. -/
def link (r q : Repository) (subscriber publisher : Location) : Link where
  outgoing := r.outgoing
  nextMessageID := r.nextMessageID
  successes := r.successes
  requests := r.requestsTo publisher
  results := q.resultsTo subscriber
  granted := q.grantsTo subscriber
  processed := q.processedFrom subscriber
  here := r.connection publisher = .connected
  there := q.connection subscriber = .connected

/-! ## Serving -/

/-- `r'` serves every location as `r` does. -/
structure ServesAs (r r' : Repository) : Prop where
  results : ∀ location, r'.resultsTo location = r.resultsTo location
  incoming : r'.incoming = r.incoming
  processed : r'.processed = r.processed
  connection : r'.connection = r.connection

section Serving

variable (r : Repository)

theorem ServesAs.refl : r.ServesAs r := ⟨fun _ => rfl, rfl, rfl, rfl⟩

theorem ServesAs.trans {a b c : Repository} (hab : a.ServesAs b) (hbc : b.ServesAs c) : a.ServesAs c :=
  ⟨fun location => (hbc.results location).trans (hab.results location), hbc.incoming.trans hab.incoming,
    hbc.processed.trans hab.processed, hbc.connection.trans hab.connection⟩

theorem ServesAs.link {q q' : Repository} (h : q.ServesAs q') (r : Repository) (subscriber publisher : Location) :
    r.link q' subscriber publisher = r.link q subscriber publisher := by
  simp only [Repository.link, h.results, grantsTo, h.incoming, processedFrom, h.processed, h.connection]

variable (location : Location)

theorem sendMessage_servesAs {message : Message} (h : message.confirmed = none) :
    r.ServesAs (r.sendMessage location message).1 := by
  rw [sendMessage]
  split
  · refine ⟨fun other => ?_, rfl, rfl, rfl⟩
    by_cases hother : other = location
    · subst hother
      simp [resultsTo, h]
    · simp [resultsTo, hother]
  · exact .refl r
  · exact .refl r

variable (i : Nat)

theorem monitorAndSendToLocation_servesAs (location : Option Location) (metaData : PublicationMetaData) :
    r.ServesAs (r.monitorAndSendToLocation i location metaData).1 := by
  cases location with
  | none => exact ⟨fun _ => rfl, rfl, rfl, rfl⟩
  | some location =>
    have hsent := sendMessage_servesAs { r with
      nextMessageID := r.nextMessageID + 1, monitors := r.monitors ++ [(r.nextMessageID, i)] } location
      (show (subscribeRequest r.nextMessageID metaData).confirmed = none from rfl)
    simp only [monitorAndSendToLocation]
    split
    · exact { hsent with }
    · exact { hsent with }

theorem subscribe_servesAs (self target : Address) (path : String)
    (relationships : SubscribeToRelationshipsMap) : r.ServesAs (r.subscribe self target path relationships) := by
  have h := r.monitorAndSendToLocation_servesAs r.outgoing.length (some target.location)
    { mCreatorLocation := some self.localLocation, mName := path, mPublishedRelationships := relationships,
      mPublishedLocation := some target.location }
  exact { h with }

theorem modifyOutgoing_servesAs (f : PeerSubscriptionOutgoing → PeerSubscriptionOutgoing) :
    r.ServesAs (r.modifyOutgoing i f) :=
  ⟨fun _ => rfl, rfl, rfl, rfl⟩

variable (messageID : MessageID)

theorem monitorEnd_servesAs : r.ServesAs (r.monitorEnd messageID) :=
  ⟨fun _ => rfl, rfl, rfl, rfl⟩

theorem cancel_servesAs : r.ServesAs (r.cancel i) := by
  rw [cancel]
  split
  · exact .refl r
  · split
    · exact .refl r
    · split
      · exact (monitorAndSendToLocation_servesAs r i _ _).trans (modifyOutgoing_servesAs _ i _)
      · split
        · exact modifyOutgoing_servesAs r i _
        · exact modifyOutgoing_servesAs r i _

theorem handleMessage_servesAs (hasError : Bool) : r.ServesAs (r.handleMessage messageID hasError) := by
  rw [handleMessage]
  split
  · exact .refl r
  · exact ⟨fun _ => rfl, rfl, rfl, rfl⟩

theorem handleMessageMonitorMessageReceived_servesAs (monitor : MessageID) (hasError : Bool) :
    r.ServesAs (r.handleMessageMonitorMessageReceived i monitor hasError).1 := by
  rw [handleMessageMonitorMessageReceived]
  split
  · exact .refl r
  · split
    · exact (monitorEnd_servesAs r monitor).trans (cancel_servesAs _ i)
    · split
      · exact .refl r
      · split
        · exact .refl r
        · split
          · exact cancel_servesAs r i
          · exact (modifyOutgoing_servesAs r i _).trans (monitorEnd_servesAs _ monitor)

theorem onMessageMonitorTimedOut_servesAs (monitor : MessageID) :
    r.ServesAs (r.onMessageMonitorTimedOut i monitor) := by
  rw [onMessageMonitorTimedOut]
  split
  · exact .refl r
  · split
    · exact cancel_servesAs r i
    · split
      · exact .refl r
      · exact cancel_servesAs r i

theorem onTimer_servesAs : r.ServesAs (r.onTimer messageID) := by
  rw [onTimer]
  split
  · exact .refl r
  · split
    · exact .refl r
    · exact ⟨fun _ => rfl, rfl, rfl, rfl⟩

theorem runPosted_servesAs (call : Posted) : r.ServesAs (r.runPosted call) := by
  cases call with
  | autoHandleFailureResult messageID => exact handleMessage_servesAs r messageID true
  | handleMessage messageID i hasError =>
    have h := handleMessageMonitorMessageReceived_servesAs r i messageID hasError
    simp only [runPosted]
    split
    · exact h.trans (monitorEnd_servesAs _ messageID)
    · exact h
  | messageMonitorTimedOut messageID i => exact onMessageMonitorTimedOut_servesAs r i messageID

theorem run_servesAs (k : Nat) : r.ServesAs (r.run k) := by
  rw [run]
  split
  · exact .refl r
  · exact ServesAs.trans (b := { r with posted := r.posted.eraseIdx k }) ⟨fun _ => rfl, rfl, rfl, rfl⟩
      (runPosted_servesAs _ _)

theorem loseOutgoing_servesAs (indices : List Nat) : r.ServesAs (r.loseOutgoing location indices) := by
  induction indices generalizing r with
  | nil => exact .refl r
  | cons i rest ih =>
    rw [loseOutgoing]
    split
    · exact ih r
    · split
      · exact ((cancel_servesAs r i).trans (modifyOutgoing_servesAs _ i _)).trans (ih _)
      · exact ih r

end Serving

/-! ## What the two sides can bear -/

/-- The subscription's location is connected. -/
def Reaches (r : Repository) (o : PeerSubscriptionOutgoing) : Prop :=
  o.mSubscriptionInfo.mPublishedLocation.map r.connection = some .connected

instance (r : Repository) (o : PeerSubscriptionOutgoing) : Decidable (r.Reaches o) :=
  inferInstanceAs (Decidable (_ = _))

/-- If cancelling the subscription sends a request, then relationships that ask for nothing, while the
map has no other subscription to the path. -/
def CancelBearable (r : Repository) (i : Nat) : Prop :=
  match r.outgoing[i]? with
  | none => True
  | some o => o.Live → r.Reaches o → (transmitted o.relationships).isEmpty = true ∧
      ∀ o' ∈ r.outgoing.eraseIdx i, o'.registered = true → ¬o'.SamePath o

instance (r : Repository) (i : Nat) : Decidable (r.CancelBearable i) := by
  unfold CancelBearable
  split <;> infer_instance

/-- A result for the subscription's own request establishes one that nothing has cancelled and whose
relationships arrived. -/
def RunBearable (r : Repository) : Posted → Prop
  | .autoHandleFailureResult _ => True
  | .handleMessage messageID i hasError =>
    match r.outgoing[i]? with
    | none => True
    | some o => o.mCancelMonitor ≠ some messageID → o.mDelegate = true → o.mMonitor = some messageID →
      if hasError then r.CancelBearable i else o.Live ∧ Carried o.relationships
  | .messageMonitorTimedOut messageID i =>
    match r.outgoing[i]? with
    | none => True
    | some o => o.mCancelMonitor ≠ some messageID → o.mMonitor = some messageID → r.CancelBearable i

instance (r : Repository) (call : Posted) : Decidable (r.RunBearable call) := by
  unfold RunBearable
  split
  · infer_instance
  · split <;> infer_instance
  · split <;> infer_instance

/-- A subscription with another one to its path in the map has relationships that arrive. -/
def SubscribeBearable (r : Repository) (location : Location) (path : String)
    (relationships : SubscribeToRelationshipsMap) : Prop :=
  (∃ o ∈ r.outgoing, o.registered = true ∧ o.mSubscriptionInfo.mPublishedLocation = some location ∧
    o.path = path) → Carried relationships

instance (r : Repository) (location : Location) (path : String) (relationships : SubscribeToRelationshipsMap) :
    Decidable (r.SubscribeBearable location path relationships) := inferInstanceAs (Decidable (_ → _))

/-! ## Subscribing -/

open Link Relation

variable {q : Repository} {subscriber publisher : Location}

variable (q subscriber publisher) in
theorem sendMessage_link (r : Repository) (location : Location) {message : Message} {asked : Asked}
    (h : message.asked = some asked) :
    (r.sendMessage location message).1.link q subscriber publisher =
      { r.link q subscriber publisher with
        requests := r.requestsTo publisher ++
          if location = publisher ∧ r.connection publisher = .connected then [asked] else [] } := by
  by_cases hlocation : location = publisher
  · subst hlocation
    cases hconnection : r.connection location with
    | connected => simp [sendMessage, hconnection, Repository.link, requestsTo, successes, h]
    | absent => simp [sendMessage, hconnection, Repository.link]
    | forgotten => simp [sendMessage, hconnection, Repository.link]
  · cases hconnection : r.connection location with
    | connected =>
      simp [sendMessage, hconnection, Repository.link, requestsTo, successes, hlocation,
        Function.update_of_ne (Ne.symm hlocation)]
    | absent => simp [sendMessage, hconnection, Repository.link, hlocation]
    | forgotten => simp [sendMessage, hconnection, Repository.link, hlocation]

variable (q subscriber publisher) in
theorem monitorAndSendToLocation_link (r : Repository) (i : Nat) (info : PublicationMetaData) :
    (r.monitorAndSendToLocation i info.mPublishedLocation info).1.link q subscriber publisher =
      { r.link q subscriber publisher with
        nextMessageID := r.nextMessageID + 1
        requests := r.requestsTo publisher ++ (r.link q subscriber publisher).asking publisher info } := by
  cases hlocation : info.mPublishedLocation with
  | none =>
    simp [monitorAndSendToLocation, Repository.link, asking, hlocation, requestsTo, successes]
    rfl
  | some location =>
    have hsent := sendMessage_link q subscriber publisher { r with
      nextMessageID := r.nextMessageID + 1, monitors := r.monitors ++ [(r.nextMessageID, i)] } location
      (show (subscribeRequest r.nextMessageID info).asked = some _ from rfl)
    have hfailed : ∀ r' : Repository, Repository.link { r' with
        posted := r'.posted ++ [.autoHandleFailureResult r.nextMessageID] } q subscriber publisher =
          r'.link q subscriber publisher := by
      intro r'
      simp [Repository.link, successes, requestsTo, Posted.success]
    simp only [monitorAndSendToLocation]
    split
    · rw [hsent]
      simp [Repository.link, asking, hlocation, requestsTo, successes, transmitted]
    · rw [hfailed, hsent]
      simp [Repository.link, asking, hlocation, requestsTo, successes, transmitted]

theorem monitorAndSendToLocation_outgoing (r : Repository) (i : Nat) (location : Option Location)
    (info : PublicationMetaData) : (r.monitorAndSendToLocation i location info).1.outgoing = r.outgoing := by
  cases location with
  | none => rfl
  | some location =>
    cases hconnection : r.connection location <;> simp [monitorAndSendToLocation, sendMessage, hconnection]

theorem monitorAndSendToLocation_id (r : Repository) (i : Nat) (location : Option Location)
    (info : PublicationMetaData) : (r.monitorAndSendToLocation i location info).2 = r.nextMessageID := by
  cases location with
  | none => rfl
  | some location => rfl

theorem subscribe_step (r : Repository) (self target : Address) (path : String)
    (relationships : SubscribeToRelationshipsMap) (h : r.SubscribeBearable target.location path relationships) :
    Step publisher (r.link q subscriber publisher)
      ((r.subscribe self target path relationships).link q subscriber publisher) := by
  let info : PublicationMetaData :=
    { mCreatorLocation := some self.localLocation, mName := path, mPublishedRelationships := relationships,
      mPublishedLocation := some target.location }
  have hsent := monitorAndSendToLocation_link q subscriber publisher r r.outgoing.length info
  have hplaced : (r.subscribe self target path relationships).link q subscriber publisher =
      { (r.monitorAndSendToLocation r.outgoing.length info.mPublishedLocation info).1.link q subscriber publisher with
        outgoing := (r.monitorAndSendToLocation r.outgoing.length info.mPublishedLocation info).1.outgoing ++
          [{ mSubscriptionInfo := info, mMonitor := some r.nextMessageID }] } := rfl
  rw [hplaced, hsent, monitorAndSendToLocation_outgoing]
  exact .place info h

variable {i : Nat} {o : PeerSubscriptionOutgoing}

theorem modify_eq_set {outgoing : List PeerSubscriptionOutgoing} (ho : outgoing[i]? = some o)
    (f : PeerSubscriptionOutgoing → PeerSubscriptionOutgoing) : outgoing.modify i f = outgoing.set i (f o) := by
  refine List.ext_getElem? fun j => ?_
  rw [List.getElem?_modify, List.getElem?_set]
  by_cases hij : i = j
  · subst hij
    obtain ⟨hlt, rfl⟩ := List.getElem?_eq_some_iff.mp ho
    simp [hlt]
  · simp [hij]

theorem modifyOutgoing_link (r : Repository) {i : Nat} {o : PeerSubscriptionOutgoing} (ho : r.outgoing[i]? = some o)
    (f : PeerSubscriptionOutgoing → PeerSubscriptionOutgoing) :
    (r.modifyOutgoing i f).link q subscriber publisher =
      { r.link q subscriber publisher with outgoing := r.outgoing.set i (f o) } := by
  simp only [modifyOutgoing, Repository.link, modify_eq_set ho]
  rfl

theorem cancel_steps (r : Repository) (i : Nat) (h : r.CancelBearable i) :
    ReflTransGen (Step publisher) (r.link q subscriber publisher)
      ((r.cancel i).link q subscriber publisher) := by
  rw [cancel]
  cases ho : r.outgoing[i]? with
  | none => exact .refl
  | some o =>
    simp only
    split
    · exact .refl
    · next hstate =>
      cases hcancel : o.mCancelMonitor with
      | none =>
        simp only [CancelBearable, ho] at h
        have hsent := monitorAndSendToLocation_link q subscriber publisher r i o.mSubscriptionInfo
        refine .single ?_
        dsimp only
        rw [modifyOutgoing_link _ ((congrArg (·[i]?) (r.monitorAndSendToLocation_outgoing i _ _)).trans ho), hsent,
          monitorAndSendToLocation_outgoing, monitorAndSendToLocation_id]
        refine Step.cancel (l := r.link q subscriber publisher) i o ho hcancel fun hhere hplaced => ?_
        obtain ⟨hempty, hothers⟩ := h hcancel (by
          rw [Reaches, hplaced]
          simpa [Repository.link] using hhere)
        refine ⟨hempty, fun j o' hj hne => hothers o' ?_⟩
        exact List.mem_eraseIdx_iff_getElem?.mpr ⟨j, hne, hj⟩
      | some messageID =>
        have hdead : ¬o.Live := by simp [Live, hcancel]
        dsimp only
        split
        · rw [modifyOutgoing_link r ho]
          exact .single (Step.settle (l := r.link q subscriber publisher) i o _ ho hdead ⟨rfl, fun _ hm => hm, id, fun hreg => (nomatch hreg)⟩ rfl (by simp))
        · rw [modifyOutgoing_link r ho]
          exact .single (Step.settle (l := r.link q subscriber publisher) i o _ ho hdead ⟨rfl, fun _ hm => hm, id, id⟩ rfl (by simp))

variable {r : Repository}

theorem cancelBearable_of_dead (ho : r.outgoing[i]? = some o) (hdead : ¬o.Live) : r.CancelBearable i := by
  rw [CancelBearable, ho]
  exact fun hlive => absurd hlive hdead

theorem monitorEnd_link (r : Repository) (messageID : MessageID) :
    (r.monitorEnd messageID).link q subscriber publisher = r.link q subscriber publisher := rfl

variable (q subscriber publisher) in
theorem handleMessage_link (r : Repository) (messageID : MessageID) (hasError : Bool) :
    ∃ successes, (r.handleMessage messageID hasError).link q subscriber publisher =
        { r.link q subscriber publisher with successes } ∧
      ∀ e ∈ successes, e ∈ r.successes ∨ e.1 = messageID ∧ hasError = false := by
  rw [handleMessage]
  split
  · exact ⟨r.successes, rfl, fun e he => .inl he⟩
  · next i _ =>
    refine ⟨r.successes ++ [Posted.handleMessage messageID i hasError].filterMap Posted.success, ?_, ?_⟩
    · simp only [Repository.link, successes, List.filterMap_append]
      rfl
    · intro e he
      refine (List.mem_append.mp he).imp id fun he => ?_
      cases hasError with
      | true => exact absurd he List.not_mem_nil
      | false =>
        obtain rfl := List.mem_singleton.mp he
        exact ⟨rfl, rfl⟩

theorem onTimer_link (r : Repository) (messageID : MessageID) :
    (r.onTimer messageID).link q subscriber publisher = r.link q subscriber publisher := by
  rw [onTimer]
  split
  · rfl
  · split
    · rfl
    · simp [Repository.link, successes, Posted.success, requestsTo, monitorEnd]

variable (q subscriber publisher) in
theorem posted_steps (r : Repository) (k : Nat) :
    ReflTransGen (Step publisher) (r.link q subscriber publisher)
      (Repository.link { r with posted := r.posted.eraseIdx k } q subscriber publisher) := by
  refine .single ?_
  refine Step.bookkeep (l := r.link q subscriber publisher) r.nextMessageID _ (Nat.le_refl _) ?_
  exact ((List.eraseIdx_sublist r.posted k).filterMap Posted.success).subset

variable (q subscriber publisher) in
theorem handle_steps (r : Repository) (k : Nat) {messageID : MessageID} {i : Nat} {hasError : Bool}
    (hcall : r.posted[k]? = some (.handleMessage messageID i hasError))
    (h : r.RunBearable (.handleMessage messageID i hasError)) :
    ReflTransGen (Step publisher) (r.link q subscriber publisher)
      ((handleMessageMonitorMessageReceived { r with posted := r.posted.eraseIdx k } i messageID hasError).1.link q
        subscriber publisher) := by
  have hposted := posted_steps q subscriber publisher r k
  rw [handleMessageMonitorMessageReceived]
  simp only [RunBearable] at h
  cases ho : r.outgoing[i]? with
  | none => exact hposted
  | some o =>
    rw [ho] at h
    simp only at h ⊢
    split
    · next hcancel =>
      exact hposted.trans (cancel_steps (monitorEnd { r with posted := r.posted.eraseIdx k } messageID) i
        (cancelBearable_of_dead ho (by simp [Live, hcancel])))
    · next hcancel =>
      split
      · exact hposted
      · next hdelegate =>
        split
        · exact hposted
        · next hmonitor =>
          have hmonitor : o.mMonitor = some messageID := by simpa using hmonitor
          have h := h hcancel (by simpa using hdelegate) hmonitor
          cases hasError with
          | true => exact hposted.trans (cancel_steps { r with posted := r.posted.eraseIdx k } i h)
          | false =>
            obtain ⟨hlive, hcarried⟩ := h
            -- The success is still posted when the subscription is established, and then it is not.
            have hsuccess : (messageID, i) ∈ r.successes :=
              List.mem_filterMap.mpr ⟨_, List.mem_of_getElem? hcall, rfl⟩
            have hestablished := @Step.establish publisher (r.link q subscriber publisher) i o
              messageID ho hsuccess hmonitor hlive hcarried
            refine (ReflTransGen.single hestablished).tail ?_
            simp only [Bool.false_eq_true, if_false]
            rw [monitorEnd_link, modifyOutgoing_link { r with posted := r.posted.eraseIdx k } ho]
            refine Step.bookkeep r.nextMessageID _ (Nat.le_refl _) ?_
            exact ((List.eraseIdx_sublist r.posted k).filterMap Posted.success).subset

theorem run_steps (r : Repository) (k : Nat) (h : ∀ call, r.posted[k]? = some call → r.RunBearable call) :
    ReflTransGen (Step publisher) (r.link q subscriber publisher) ((r.run k).link q subscriber publisher) := by
  rw [run]
  cases hcall : r.posted[k]? with
  | none => exact .refl
  | some call =>
    have hposted := posted_steps q subscriber publisher r k
    have h := h call hcall
    cases call with
    | autoHandleFailureResult messageID =>
      obtain ⟨successes, hlink, hsuccesses⟩ := handleMessage_link q subscriber publisher
        { r with posted := r.posted.eraseIdx k } messageID true
      refine hposted.tail ?_
      dsimp only [runPosted]
      rw [hlink]
      refine Step.bookkeep _ successes (Nat.le_refl _) fun e he => ?_
      exact (hsuccesses e he).resolve_right fun hnew => (nomatch hnew.2)
    | handleMessage messageID i hasError =>
      have hsteps := handle_steps q subscriber publisher r k hcall h
      simp only [runPosted]
      split
      · exact hsteps
      · exact hsteps
    | messageMonitorTimedOut messageID i =>
      simp only [runPosted, onMessageMonitorTimedOut]
      simp only [RunBearable] at h
      cases ho : r.outgoing[i]? with
      | none => exact hposted
      | some o =>
        rw [ho] at h
        simp only at h ⊢
        split
        · next hcancel =>
          exact hposted.trans (cancel_steps { r with posted := r.posted.eraseIdx k } i
            (cancelBearable_of_dead ho (by simp [Live, hcancel])))
        · next hcancel =>
          split
          · exact hposted
          · next hmonitor =>
            exact hposted.trans (cancel_steps { r with posted := r.posted.eraseIdx k } i
              (h hcancel (by simpa using hmonitor)))

/-! ## Losing a location -/

/-- Nothing but subscriptions at the location, identifiers and failures differs, and the subscriptions
have only aged. The ones among `indices` are cancelled and have left the map. -/
structure LosesAt (location : Location) (indices : List Nat) (r r' : Repository) : Prop where
  next : r.nextMessageID ≤ r'.nextMessageID
  queue : r'.queue = r.queue
  connection : r'.connection = r.connection
  successes : r'.successes = r.successes
  length : r'.outgoing.length = r.outgoing.length
  lost : ∀ (i : Nat) o', r'.outgoing[i]? = some o' → ∃ o, r.outgoing[i]? = some o ∧ o.Ages o' ∧
    (i ∈ indices → o.PlacedAt location → o.registered = true → o.mCurrentState ≠ .shutdown → ¬o'.Live) ∧
    (o' = o ∨ o.PlacedAt location ∧ o'.mCurrentState ≠ .established ∧
      (o.mCurrentState ≠ .shutdown → ¬o'.Live)) ∧
    ∀ m, o'.mCancelMonitor = some m → o.mCancelMonitor = some m ∨ r.nextMessageID ≤ m ∧ m < r'.nextMessageID

theorem LosesAt.refl (location : Location) (r : Repository) : LosesAt location [] r r :=
  ⟨Nat.le_refl _, rfl, rfl, rfl, rfl, fun _ o ho => ⟨o, ho, .refl o, fun hi => absurd hi List.not_mem_nil,
    .inl rfl, fun _ hm => .inl hm⟩⟩

theorem monitorAndSendToLocation_unconnected (r : Repository) (i : Nat) {location : Location}
    (info : PublicationMetaData) (hlost : r.connection location ≠ .connected) :
    (r.monitorAndSendToLocation i (some location) info).1.queue = r.queue ∧
      (r.monitorAndSendToLocation i (some location) info).1.successes = r.successes ∧
      (r.monitorAndSendToLocation i (some location) info).1.nextMessageID = r.nextMessageID + 1 := by
  cases hconnection : r.connection location with
  | connected => exact absurd hconnection hlost
  | absent => simp [monitorAndSendToLocation, sendMessage, hconnection, successes, Posted.success]
  | forgotten => simp [monitorAndSendToLocation, sendMessage, hconnection, successes]

theorem cancel_unconnected (r : Repository) {i : Nat} {o : PeerSubscriptionOutgoing} {location : Location}
    (ho : r.outgoing[i]? = some o) (hplaced : o.PlacedAt location) (hlost : r.connection location ≠ .connected) :
    ∃ o', (r.cancel i).outgoing = r.outgoing.set i o' ∧ o.Ages o' ∧ (o.mCurrentState ≠ .shutdown → ¬o'.Live) ∧
      o'.mCurrentState ≠ .established ∧ r.nextMessageID ≤ (r.cancel i).nextMessageID ∧
      (r.cancel i).queue = r.queue ∧ (r.cancel i).successes = r.successes ∧
      ∀ m, o'.mCancelMonitor = some m →
        o.mCancelMonitor = some m ∨ r.nextMessageID ≤ m ∧ m < (r.cancel i).nextMessageID := by
  have hset : r.outgoing = r.outgoing.set i o := by
    obtain ⟨hlt, rfl⟩ := List.getElem?_eq_some_iff.mp ho
    simp
  rw [cancel, ho]
  simp only
  split
  · next hstate =>
    exact ⟨o, hset, .refl o, fun hne => absurd hstate hne, by simp [hstate], Nat.le_refl _, rfl, rfl,
      fun _ hm => .inl hm⟩
  · cases hcancel : o.mCancelMonitor with
    | none =>
      obtain ⟨hqueue, hsuccesses, hnext⟩ := r.monitorAndSendToLocation_unconnected i o.mSubscriptionInfo hlost
      rw [← show o.mSubscriptionInfo.mPublishedLocation = some location from hplaced] at hqueue hsuccesses hnext
      refine ⟨{ o with mCurrentState := .shuttingDown, mCancelMonitor := some r.nextMessageID }, ?_,
        ⟨rfl, fun _ hm => hm, fun hl => (nomatch hl), id⟩, fun _ hl => (nomatch hl), by simp,
        hnext ▸ Nat.le_succ _, hqueue, hsuccesses, fun m hm => .inr ?_⟩
      · dsimp only [modifyOutgoing]
        rw [monitorAndSendToLocation_outgoing, monitorAndSendToLocation_id, modify_eq_set ho]
      · obtain rfl := Option.some.inj hm
        exact ⟨Nat.le_refl _, hnext ▸ Nat.lt_succ_self _⟩
    | some messageID =>
      dsimp only
      split
      · refine ⟨{ o with mCurrentState := .shutdown, registered := false, mDelegate := false }, modify_eq_set ho _,
          ⟨rfl, fun _ hm => hm, id, fun hreg => (nomatch hreg)⟩, fun _ hl => ?_, by simp, Nat.le_refl _, rfl, rfl,
          fun _ hm => .inl (hcancel ▸ hm)⟩
        simp [Live, hcancel] at hl
      · refine ⟨{ o with mCurrentState := .shuttingDown }, modify_eq_set ho _,
          ⟨rfl, fun _ hm => hm, id, id⟩, fun _ hl => ?_, by simp, Nat.le_refl _, rfl, rfl,
          fun _ hm => .inl (hcancel ▸ hm)⟩
        simp [Live, hcancel] at hl

theorem LosesAt.step {location : Location} {r : Repository} {i : Nat} {o : PeerSubscriptionOutgoing}
    (ho : r.outgoing[i]? = some o) (hplaced : o.PlacedAt location) (hlost : r.connection location ≠ .connected) :
    LosesAt location [i] r ((r.cancel i).modifyOutgoing i fun o => { o with registered := false }) := by
  obtain ⟨o', hset, hages, hdead, hstate, hnext, hqueue, hsuccesses, hcancel⟩ := r.cancel_unconnected ho hplaced hlost
  have hlt := (List.getElem?_eq_some_iff.mp ho).1
  have houtgoing : ((r.cancel i).modifyOutgoing i fun o => { o with registered := false }).outgoing =
      r.outgoing.set i { o' with registered := false } := by
    rw [modifyOutgoing, hset, modify_eq_set (o := o') (by simp [hlt]), List.set_set]
  refine ⟨hnext, hqueue, (cancel_servesAs r i).connection, hsuccesses, by rw [houtgoing, List.length_set], ?_⟩
  intro j later hlater
  rw [houtgoing, List.getElem?_set] at hlater
  split at hlater
  · next hij =>
    subst hij
    obtain rfl : { o' with registered := false } = later := by simpa [hlt] using hlater
    exact ⟨o, ho, hages.trans ⟨rfl, fun _ hm => hm, id, fun hreg => (nomatch hreg)⟩,
      fun _ _ _ hne hl => hdead hne hl, .inr ⟨hplaced, hstate, hdead⟩, hcancel⟩
  · next hij =>
    exact ⟨later, hlater, .refl later, fun hmem => absurd (List.mem_singleton.mp hmem).symm hij, .inl rfl,
      fun _ hm => .inl hm⟩

variable {location : Location} {indices : List Nat}

theorem LosesAt.trans {r₁ r₂ r₃ : Repository} (h₁₂ : LosesAt location [i] r₁ r₂)
    (h₂₃ : LosesAt location indices r₂ r₃) : LosesAt location (i :: indices) r₁ r₃ := by
  refine ⟨h₁₂.next.trans h₂₃.next, h₂₃.queue.trans h₁₂.queue, h₂₃.connection.trans h₁₂.connection,
    h₂₃.successes.trans h₁₂.successes, h₂₃.length.trans h₁₂.length, ?_⟩
  intro j o₃ ho₃
  obtain ⟨o₂, ho₂, hages₂, hdead₂, hother₂, hcancel₂⟩ := h₂₃.lost j o₃ ho₃
  obtain ⟨o₁, ho₁, hages₁, hdead₁, hother₁, hcancel₁⟩ := h₁₂.lost j o₂ ho₂
  refine ⟨o₁, ho₁, hages₁.trans hages₂, ?_, ?_, ?_⟩
  · intro hmem hplaced hreg hstate hlive
    rcases hother₁ with rfl | ⟨-, -, hdead⟩
    · rcases List.mem_cons.mp hmem with rfl | hmem
      · exact hdead₁ (List.mem_singleton_self _) hplaced hreg hstate (hages₂.live hlive)
      · exact hdead₂ hmem hplaced hreg hstate hlive
    · exact hdead hstate (hages₂.live hlive)
  · rcases hother₂ with rfl | ⟨hplaced, hstate, hdead⟩
    · exact hother₁
    · refine .inr ⟨(hages₁.placedAt location).mp hplaced, hstate, fun hne hlive => ?_⟩
      rcases hother₁ with rfl | ⟨-, -, hdead₁⟩
      · exact hdead hne hlive
      · exact hdead₁ hne (hages₂.live hlive)
  · intro m hm
    rcases hcancel₂ m hm with hm | hm
    · exact (hcancel₁ m hm).imp id fun hm => ⟨hm.1, hm.2.trans_le h₂₃.next⟩
    · exact .inr ⟨h₁₂.next.trans hm.1, hm.2⟩

theorem LosesAt.skip {r' : Repository} (h : LosesAt location indices r r')
    (hskip : ∀ o, r.outgoing[i]? = some o → o.PlacedAt location → ¬o.registered = true) :
    LosesAt location (i :: indices) r r' := by
  refine { h with lost := fun j o' ho' => ?_ }
  obtain ⟨o, ho, hages, hdead, hother, hcancel⟩ := h.lost j o' ho'
  refine ⟨o, ho, hages, fun hmem hplaced hreg hstate => ?_, hother, hcancel⟩
  rcases List.mem_cons.mp hmem with rfl | hmem
  · exact absurd hreg (hskip o ho hplaced)
  · exact hdead hmem hplaced hreg hstate

theorem loseOutgoing_losesAt (target : Address) (indices : List Nat) (r : Repository)
    (hlost : r.connection target.location ≠ .connected) :
    LosesAt target.location indices r (r.loseOutgoing target.location indices) := by
  induction indices generalizing r with
  | nil => exact .refl target.location r
  | cons i rest ih =>
    rw [loseOutgoing]
    cases ho : r.outgoing[i]? with
    | none => exact (ih r hlost).skip fun o ho' => by rw [ho] at ho'; exact (nomatch ho')
    | some o =>
      simp only
      split
      · next hcond =>
        have hstep := LosesAt.step ho ((locationCompare_address target).mp hcond.2) hlost
        exact hstep.trans (ih _ (by rw [hstep.connection]; exact hlost))
      · next hcond =>
        refine (ih r hlost).skip fun o' ho' hplaced hreg => ?_
        obtain rfl := Option.some.inj (ho.symm.trans ho')
        exact hcond ⟨hreg, (locationCompare_address target).mpr hplaced⟩

/-- The repository loses a location, seen from the links at which it subscribes. -/
theorem disconnect_step (r : Repository) (target : Address) {connection : Connection} (h : connection ≠ .connected) :
    Step publisher (r.link q subscriber publisher)
      ((r.disconnect target.location connection).link q subscriber publisher) := by
  let cut : Repository := { r with connection := Function.update r.connection target.location connection }
  have hcut : cut.connection target.location ≠ .connected := by simpa [cut] using h
  have hlost := loseOutgoing_losesAt target (List.range r.outgoing.length) cut hcut
  have hlink : (r.disconnect target.location connection).link q subscriber publisher =
      { r.link q subscriber publisher with
        outgoing := (cut.loseOutgoing target.location (List.range r.outgoing.length)).outgoing
        nextMessageID := (cut.loseOutgoing target.location (List.range r.outgoing.length)).nextMessageID
        here := (r.link q subscriber publisher).here && target.location ≠ publisher } := by
    have hhere : decide ((cut.loseOutgoing target.location (List.range r.outgoing.length)).connection publisher =
        .connected) = (decide (r.connection publisher = .connected) && decide (target.location ≠ publisher)) := by
      rw [hlost.connection]
      by_cases htarget : target.location = publisher
      · simp [cut, ← htarget, h]
      · simp [cut, htarget, Function.update_of_ne (Ne.symm htarget)]
    have hrequests : (cut.loseOutgoing target.location (List.range r.outgoing.length)).requestsTo publisher =
        r.requestsTo publisher := by rw [requestsTo, hlost.queue, requestsTo]
    calc (r.disconnect target.location connection).link q subscriber publisher
      _ = (cut.loseOutgoing target.location (List.range r.outgoing.length)).link q subscriber publisher := rfl
      _ = _ := by
        simp only [Repository.link, hrequests, hhere, hlost.successes]
        rfl
  rw [hlink]
  refine Step.lose (l := r.link q subscriber publisher) target.location _ _ hlost.next ?_ ?_
  · refine List.ext_getElem? fun i => ?_
    rw [List.getElem?_map, List.getElem?_map]
    cases ho' : (cut.loseOutgoing target.location (List.range r.outgoing.length)).outgoing[i]? with
    | some o' =>
      obtain ⟨o, ho, hages, -⟩ := hlost.lost i o' ho'
      rw [show (r.link q subscriber publisher).outgoing[i]? = some o from ho, Option.map_some, Option.map_some,
        hages.info]
    | none =>
      have hlen := hlost.length ▸ List.getElem?_eq_none_iff.mp ho'
      rw [show (r.link q subscriber publisher).outgoing[i]? = none from List.getElem?_eq_none_iff.mpr hlen]
  · intro i o' ho'
    obtain ⟨o, ho, hages, hdead, hother, hcancel⟩ := hlost.lost i o' ho'
    refine ⟨o, ho, hages, hdead ?_, hother.imp id fun h => ⟨h.1, h.2.1⟩, hcancel⟩
    exact List.mem_range.mpr (List.getElem?_eq_some_iff.mp ho).1

end Repository

end OpenPeer.Subscriptions
