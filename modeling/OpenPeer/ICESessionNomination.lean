import OpenPeer.ICESessionRoles
import OpenPeer.ICESocketSessionTurns

/-!
# A nomination that succeeded was made on the other side too

A session that controls takes a pair for nominated when its request was answered. The
other side answered in the step in which it nominated the pair the request belongs to,
if there was one: a request from an unknown place at an address that is no local
candidate is answered as well.
-/
namespace OpenPeer

open Runs ICESocketSession

section Parties

variable {me me' peer peer' : Party} {cause : Cause}

/-- What one party has made and believes, seen beside the other. -/
structure HonestParty (me peer : Party) : Prop where
  plain : ∀ c ∈ me.created, c.2.mSTUNRequest.mClass = .request
  unique : ∀ c ∈ me.created, ∀ d ∈ me.created, c.2.id = d.2.id → c = d
  sent : ∀ p ∈ me.sent, p.mClass = .request → ∃ c ∈ me.created, c.2.mSTUNRequest = p
  nominating : ∀ r, me.nominating = some r → Nominates r.mSTUNRequest ∧ ∃ c ∈ me.created, c.2 = r
  /-- what is believed nominated was asked for, and answered by the other side -/
  nominations : ∀ id ∈ me.nominations,
    (∃ c ∈ me.created, c.2.id = id ∧ Nominates c.2.mSTUNRequest) ∧
    ∃ p ∈ peer.sent, p.mClass = .response ∧ p.mTransactionID = id

theorem HonestParty.mono (h : HonestParty me peer) (hsent : peer.sent ⊆ peer'.sent) : HonestParty me peer' where
  __ := h
  nominations id hid := by
    obtain ⟨hasked, p, hp, hanswer⟩ := h.nominations id hid
    exact ⟨hasked, p, hsent hp, hanswer⟩

theorem Act.sent (h : Act cause me me') : me.sent ⊆ me'.sent := by
  cases h <;> first | exact List.Subset.refl _ | exact List.subset_cons_self _ _

theorem HonestParty.send (h : HonestParty me peer) {packet : STUNPacket}
    (hrequest : packet.mClass = .request → ∃ c ∈ me.created, c.2.mSTUNRequest = packet) :
    HonestParty { me with sent := packet :: me.sent } peer where
  __ := h
  sent p hp hclass := by
    rcases List.mem_cons.mp hp with rfl | hp
    · exact hrequest hclass
    · exact h.sent p hp hclass

theorem HonestParty.create (h : HonestParty me peer) {r : STUNRequester} {nominating : Option STUNRequester}
    (hfresh : ∀ c ∈ me.created, c.2.id ≠ r.id) (hclass : r.mSTUNRequest.mClass = .request)
    (hnominating : nominating = me.nominating ∨ (nominating = some r ∧ Nominates r.mSTUNRequest)) :
    HonestParty { me with
      created := (me.role, r) :: me.created, watched := r :: me.watched, nominating := nominating } peer where
  plain c hc := by
    rcases List.mem_cons.mp hc with rfl | hc
    · exact hclass
    · exact h.plain c hc
  unique c hc d hd he := by
    rcases List.mem_cons.mp hc with rfl | hc <;> rcases List.mem_cons.mp hd with rfl | hd
    · rfl
    · exact absurd he.symm (hfresh d hd)
    · exact absurd he (hfresh c hc)
    · exact h.unique c hc d hd he
  sent p hp hclass := by
    obtain ⟨c, hc, hcp⟩ := h.sent p hp hclass
    exact ⟨c, List.mem_cons_of_mem _ hc, hcp⟩
  nominating r' hr' := by
    rcases hnominating with hsame | ⟨hnew, hnominates⟩
    · obtain ⟨hnominates, c, hc, hcr⟩ := h.nominating r' (hsame ▸ hr')
      exact ⟨hnominates, c, List.mem_cons_of_mem _ hc, hcr⟩
    · obtain rfl := Option.some.inj (hnew.symm.trans hr')
      exact ⟨hnominates, _, List.mem_cons_self, rfl⟩
  nominations id hid := by
    obtain ⟨⟨c, hc, hasked⟩, hanswer⟩ := h.nominations id hid
    exact ⟨⟨c, List.mem_cons_of_mem _ hc, hasked⟩, hanswer⟩

theorem HonestParty.act (h : HonestParty me peer) (hgot : ∀ packet, cause.got = some packet → packet ∈ peer.sent)
    (hact : Act cause me me') : HonestParty me' peer := by
  cases hact with
  | forget watched nominating hwatched hnominating =>
    refine ⟨h.plain, h.unique, h.sent, fun r hr => ?_, h.nominations⟩
    rcases hnominating with rfl | rfl
    · cases hr
    · exact h.nominating r hr
  | create r nominating hid hfresh hclass herror hcarries hnominating =>
    exact h.create (hid ▸ hfresh) hclass hnominating
  | transmit c hc => exact h.send fun _ => ⟨c, hc, rfl⟩
  | indicate packet hclass => exact h.send fun hrequest => nomatch hclass.symm.trans hrequest
  | succeed packet response hpacket hclass hrole hresponse =>
    exact h.send fun hrequest => nomatch hresponse.symm.trans hrequest
  | refuse response hresponse => exact h.send fun hrequest => nomatch hresponse.symm.trans hrequest
  | win packet response hpacket hclass hrole hresponse =>
    exact h.send fun hrequest => nomatch hresponse.symm.trans hrequest
  | lose => exact { h with }
  | obey => exact { h with }
  | nominated packet r r' hpacket hclass hid hr' hsame =>
    refine ⟨h.plain, h.unique, h.sent, (fun _ hr => nomatch hr), fun id hid' => ?_⟩
    rcases List.mem_cons.mp hid' with rfl | hid'
    · obtain ⟨hnominates, c, hc, rfl⟩ := h.nominating r' hr'
      exact ⟨⟨c, hc, hsame, hnominates⟩, packet, hgot packet hpacket, hclass, hid.symm⟩
    · exact h.nominations id hid'

theorem Acts.sent (h : Acts cause me me') : me.sent ⊆ me'.sent := by
  induction h with
  | refl => exact List.Subset.refl _
  | tail _ hact ih => exact List.Subset.trans ih (Act.sent hact)

theorem Acts.created (h : Acts cause me me') : me.created ⊆ me'.created := by
  induction h with
  | refl => exact List.Subset.refl _
  | tail _ hact ih => exact List.Subset.trans ih hact.created

theorem HonestParty.acts (h : HonestParty me peer) (hgot : ∀ packet, cause.got = some packet → packet ∈ peer.sent)
    (hacts : Acts cause me me') : HonestParty me' peer := by
  induction hacts with
  | refl => exact h
  | tail _ hact ih => exact ih.act hgot hact

/-- A success response is sent for a request that was received. -/
theorem Acts.response (h : Acts cause me me') {p : STUNPacket} (hp : p ∈ me'.sent) (hclass : p.mClass = .response)
    (hplain : ∀ c ∈ me'.created, c.2.mSTUNRequest.mClass = .request) (hold : p ∉ me.sent) :
    ∃ packet, cause.got = some packet ∧ packet.mClass = .request ∧ p.mTransactionID = packet.mTransactionID := by
  induction h with
  | refl => exact absurd hp hold
  | tail _ hact ih =>
    have hbefore := fun hp => ih hp fun c hc => hplain c (hact.created hc)
    cases hact with
    | transmit c hc =>
      rcases List.mem_cons.mp hp with rfl | hp
      · exact nomatch hclass.symm.trans (hplain c hc)
      · exact hbefore hp
    | indicate packet hclass' =>
      rcases List.mem_cons.mp hp with rfl | hp
      · exact nomatch hclass.symm.trans hclass'
      · exact hbefore hp
    | succeed packet response hpacket hclass' hrole hresponse herror hid =>
      rcases List.mem_cons.mp hp with rfl | hp
      · exact ⟨packet, hpacket, hclass', hid⟩
      · exact hbefore hp
    | refuse response hresponse =>
      rcases List.mem_cons.mp hp with rfl | hp
      · exact nomatch hclass.symm.trans hresponse
      · exact hbefore hp
    | win packet response hpacket hclass' hrole hresponse =>
      rcases List.mem_cons.mp hp with rfl | hp
      · exact nomatch hclass.symm.trans hresponse
      · exact hbefore hp
    | _ => exact hbefore hp

end Parties

section Answer

variable {ext : ICEExternals} {valid : STUNPacket → List UInt8 → Bool} {s : ICESocketSession} {env : Env}
  {viaLocalIP : IPAddress} {viaTransport : Types} {source : IPAddress} {stun : STUNPacket}

variable (found : Option CandidatePair)

theorem triggerCheck_sent : (s.triggerCheck env found).sent = s.sent := by
  unfold triggerCheck
  split
  · rfl
  split <;> rfl

theorem acceptNomination_sent : (s.acceptNomination stun found).sent = s.sent := by
  unfold acceptNomination
  split
  · rfl
  split <;> rfl

theorem noteSTUN_sent : (s.noteSTUN env found).sent = s.sent := by
  unfold noteSTUN
  split
  · rfl
  split <;> rfl

theorem handleAccepted_sent : (s.handleAccepted env stun found).sent = s.sent :=
  (noteSTUN_sent found).trans ((triggerCheck_sent found).trans (acceptNomination_sent found))

theorem switchRole_sent (newRole : ICEControls) : (s.switchRole newRole).sent = s.sent := by
  unfold switchRole
  split
  · rfl
  split <;> rfl

theorem findPair_sent : (s.findPair ext viaLocalIP viaTransport source).1.sent = s.sent := by
  unfold findPair
  split
  · unfold discover
    dsimp only
    split <;> rfl
  · rfl

theorem sendTo_sent (packet : STUNPacket) :
    (s.sendTo viaLocalIP viaTransport source packet).sent = s.sent ∨
      (s.sendTo viaLocalIP viaTransport source packet).sent = ⟨viaLocalIP, viaTransport, source, packet⟩ :: s.sent := by
  unfold sendTo
  split
  · exact .inl rfl
  · exact .inr rfl

/-- A success response is new among what was sent. -/
def Responds (s s' : ICESocketSession) (id : Vector UInt8 12) : Prop :=
  (∃ d ∈ s'.sent, d.packet.mClass = .response ∧ d.packet.mTransactionID = id) ∧
    ¬∃ d ∈ s.sent, d.packet.mClass = .response ∧ d.packet.mTransactionID = id

variable {id : Vector UInt8 12}

theorem not_responds_of_sent {s' : ICESocketSession} (h : s'.sent = s.sent) : ¬Responds s s' id := by
  rintro ⟨hnew, hold⟩
  rw [h] at hnew
  exact hold hnew

theorem not_responds_sendTo {packet : STUNPacket} (h : packet.mClass = .errorResponse) :
    ¬Responds s (s.sendTo viaLocalIP viaTransport source packet) id := by
  rintro ⟨⟨d, hd, hclass, hid⟩, hold⟩
  rcases @sendTo_sent s viaLocalIP viaTransport source packet
    with hsent | hsent <;> rw [hsent] at hd
  · exact hold ⟨d, hd, hclass, hid⟩
  · rcases List.mem_cons.mp hd with rfl | hd
    · exact nomatch h.symm.trans hclass
    · exact hold ⟨d, hd, hclass, hid⟩

theorem answer_responds {found : Option CandidatePair} (hrequest : stun.mClass = .request)
    (h : Responds s (s.answer env viaLocalIP viaTransport source stun found) id) :
    conflict s.mControl s.mConflictResolver stun = none ∧
      s.answer env viaLocalIP viaTransport source stun found =
        (s.sendTo viaLocalIP viaTransport source (s.successResponse stun source)).handleAccepted env stun found ∧
      stun.mTransactionID = id := by
  unfold answer at h ⊢
  rw [if_neg (hrequest ▸ by decide)] at h ⊢
  split at h
  next hrole =>
    refine ⟨hrole, rfl, ?_⟩
    obtain ⟨⟨d, hd, hclass, hid⟩, hold⟩ := h
    rw [handleAccepted_sent] at hd
    rcases @sendTo_sent s viaLocalIP viaTransport source
      (s.successResponse stun source) with hsent | hsent <;> rw [hsent] at hd
    · exact absurd ⟨d, hd, hclass, hid⟩ hold
    · rcases List.mem_cons.mp hd with rfl | hd
      · exact hid
      · exact absurd ⟨d, hd, hclass, hid⟩ hold
  next => exact absurd h (not_responds_sendTo rfl)
  next => exact absurd h (not_responds_of_sent (switchRole_sent _))

/-- A request belongs to the nominated pair, to another one, or to a new one at a local candidate. -/
def placed (ext : ICEExternals) (s : ICESocketSession) (viaLocalIP : IPAddress) (viaTransport : Types)
    (source : IPAddress) : Bool :=
  (s.matchPair ext viaLocalIP viaTransport source).isSome || (s.localCandidate ext viaLocalIP viaTransport).isSome

variable {pair : CandidatePair}

theorem pair?_mem {id : Option Nat} (h : s.pair? id = some pair) : pair ∈ s.mCandidatePairs :=
  List.mem_of_find?_eq_some h

theorem find_spec
    (h : (s.mCandidatePairs.find? fun pair => isCandidateMatch ext pair viaLocalIP viaTransport source) = some pair) :
    pair ∈ s.mCandidatePairs ∧ isCandidateMatch ext pair viaLocalIP viaTransport source = true := by
  have hmatch := List.find?_some (p := fun pair => isCandidateMatch ext pair viaLocalIP viaTransport source) h
  exact ⟨List.mem_of_find?_eq_some h, hmatch⟩

theorem matchPair_spec (h : s.matchPair ext viaLocalIP viaTransport source = some pair) :
    pair ∈ s.mCandidatePairs ∧ isCandidateMatch ext pair viaLocalIP viaTransport source = true := by
  unfold matchPair at h
  split at h
  next nominated hnominated =>
    split at h
    next hmatch =>
      obtain rfl := Option.some.inj h
      exact ⟨pair?_mem hnominated, hmatch⟩
    · exact find_spec h
  · exact find_spec h

theorem normalize_transport (relayed : Bool) : normalize (transport relayed) = transport relayed := by
  cases relayed <;> rfl

/-- A request that has its place gets a pair, one that matches where it came from. -/
theorem findPair_placed {relayed : Bool} (h : placed ext s viaLocalIP (transport relayed) source = true) :
    ∃ found, (s.findPair ext viaLocalIP (transport relayed) source).2 = some found ∧
      found ∈ (s.findPair ext viaLocalIP (transport relayed) source).1.mCandidatePairs ∧
      isCandidateMatch ext found viaLocalIP (transport relayed) source = true := by
  unfold placed at h
  unfold findPair
  cases hmatch : s.matchPair ext viaLocalIP (transport relayed) source with
  | some pair =>
    obtain ⟨hpair, hmatches⟩ := matchPair_spec hmatch
    refine ⟨_, rfl, ?_, hmatches⟩
    have hmem := List.mem_map_of_mem (f := fun p : CandidatePair =>
      if p.mID = pair.mID then { p with mReceivedRequest := true, mFailed := false } else p) hpair
    rwa [if_pos rfl] at hmem
  | none =>
    rw [hmatch, Option.isSome_none, Bool.false_or] at h
    obtain ⟨candidate, hcandidate⟩ := Option.isSome_iff_exists.mp h
    have hat := List.find?_some hcandidate
    rw [Bool.and_eq_true, beq_iff_eq, beq_iff_eq] at hat
    unfold discover
    rw [hcandidate]
    refine ⟨_, rfl, List.mem_append_right _ List.mem_cons_self, ?_⟩
    simp only [isCandidateMatch, isEqualIgnoringIPv4Format, discoveredCandidate, hat.1, hat.2, normalize_transport,
      BEq.rfl, Bool.and_self]

theorem triggerCheck_nominated : (s.triggerCheck env found).mNominated = s.mNominated := by
  unfold triggerCheck
  split
  · rfl
  split <;> rfl

theorem noteSTUN_nominated : (s.noteSTUN env found).mNominated = s.mNominated := by
  unfold noteSTUN
  split
  · rfl
  split <;> rfl

theorem noteSTUN_pairs : (s.noteSTUN env found).mCandidatePairs = s.mCandidatePairs := by
  unfold noteSTUN
  split
  · rfl
  split <;> rfl

theorem acceptNomination_pairs : (s.acceptNomination stun found).mCandidatePairs = s.mCandidatePairs := by
  unfold acceptNomination
  split
  · rfl
  split <;> rfl

theorem acceptNomination_nominated {found : CandidatePair} (huse : stun.mUseCandidateIncluded = true)
    (hcontrol : s.mControl = .controlled) : (s.acceptNomination stun (some found)).mNominated = some found.mID := by
  unfold acceptNomination
  dsimp only
  split
  · rfl
  next hsame => exact Classical.not_not.mp fun hdiffer => hsame ⟨huse, hcontrol, hdiffer⟩

theorem triggerCheck_ends {pair : CandidatePair} (found : Option CandidatePair) (h : pair ∈ s.mCandidatePairs) :
    ∃ pair' ∈ (s.triggerCheck env found).mCandidatePairs,
      pair'.mID = pair.mID ∧ pair'.mLocal = pair.mLocal ∧ pair'.mRemote = pair.mRemote := by
  unfold triggerCheck
  split
  · exact ⟨pair, h, rfl, rfl, rfl⟩
  next found =>
    split
    · exact ⟨pair, h, rfl, rfl, rfl⟩
    · refine ⟨_, List.mem_map_of_mem h, ?_⟩
      split <;> exact ⟨rfl, rfl, rfl⟩

theorem isCandidateMatch_congr {pair' : CandidatePair} (hlocal : pair'.mLocal = pair.mLocal)
    (hremote : pair'.mRemote = pair.mRemote) :
    isCandidateMatch ext pair' viaLocalIP viaTransport source = isCandidateMatch ext pair viaLocalIP viaTransport source := by
  unfold isCandidateMatch
  rw [hlocal, hremote]

/-- The session is nominated on a pair that matches where a packet came from. -/
def NominatedAt (ext : ICEExternals) (s : ICESocketSession) (viaLocalIP : IPAddress) (viaTransport : Types)
    (source : IPAddress) : Prop :=
  ∃ pair, s.pair? s.mNominated = some pair ∧ isCandidateMatch ext pair viaLocalIP viaTransport source = true

theorem handleAccepted_nominated (hnumbered : Numbered s) (huse : stun.mUseCandidateIncluded = true)
    (hcontrol : s.mControl = .controlled) {found : CandidatePair} (hfound : found ∈ s.mCandidatePairs)
    (hmatch : isCandidateMatch ext found viaLocalIP viaTransport source = true) :
    NominatedAt ext (s.handleAccepted env stun (some found)) viaLocalIP viaTransport source := by
  have hfound' : found ∈ (s.acceptNomination stun (some found)).mCandidatePairs := by
    rw [acceptNomination_pairs]
    exact hfound
  obtain ⟨pair, hpair, hid, hlocal, hremote⟩ := @triggerCheck_ends _ env _ (some found) hfound'
  have hnominated : (s.handleAccepted env stun (some found)).mNominated = some pair.mID := by
    rw [hid]
    exact (noteSTUN_nominated _).trans ((triggerCheck_nominated _).trans (acceptNomination_nominated huse hcontrol))
  refine ⟨pair, ?_, by rw [isCandidateMatch_congr hlocal hremote]; exact hmatch⟩
  rw [hnominated]
  refine (hnumbered.still (handleAccepted_still stun (some found))).pair? ?_
  unfold handleAccepted
  rw [noteSTUN_pairs]
  exact hpair

theorem controlled_of_conflict (hcontrolling : stun.mIceControllingIncluded = true)
    (h : conflict s.mControl s.mConflictResolver stun = none) : s.mControl = .controlled := by
  cases hcontrol : s.mControl with
  | controlled => rfl
  | controlling =>
    rw [hcontrol, conflict, if_pos hcontrolling] at h
    cases h

theorem findPair_mControl : (s.findPair ext viaLocalIP viaTransport source).1.mControl = s.mControl :=
  congrArg Party.role (findPair_party viaLocalIP viaTransport source)

theorem sendTo_mControl (packet : STUNPacket) : (s.sendTo viaLocalIP viaTransport source packet).mControl = s.mControl := by
  unfold sendTo
  split <;> rfl

theorem sendTo_pairs (packet : STUNPacket) :
    (s.sendTo viaLocalIP viaTransport source packet).mCandidatePairs = s.mCandidatePairs := by
  unfold sendTo
  split <;> rfl

/-- A nomination that has its place and is answered is one the session has made, in the controlled role. -/
theorem receiveSTUN_nominated {relayed : Bool} (hnumbered : Numbered s) (hrequest : stun.mClass = .request)
    (hnominates : Nominates stun)
    (hplaced : s.mControl = .controlled → placed ext s viaLocalIP (transport relayed) source = true)
    (h : Responds s (s.receiveSTUN ext env viaLocalIP (transport relayed) source stun) id) :
    s.mControl = .controlled ∧ stun.mTransactionID = id ∧
      NominatedAt ext (s.receiveSTUN ext env viaLocalIP (transport relayed) source stun) viaLocalIP
        (transport relayed) source := by
  unfold receiveSTUN at h ⊢
  rw [if_pos (.inl hrequest)] at h ⊢
  split at h
  · exact absurd h (not_responds_of_sent rfl)
  unfold handleSTUNPacket at h ⊢
  split at h
  · exact absurd h (not_responds_of_sent rfl)
  next hdelegate =>
    split at h
    · exact absurd h (not_responds_of_sent rfl)
    next hmethod =>
      split at h
      · exact absurd h (not_responds_of_sent rfl)
      next hlocal =>
        split at h
        · exact absurd h (not_responds_of_sent rfl)
        next hremote =>
          split at h
          · split at h
            · exact absurd h (not_responds_of_sent rfl)
            · exact absurd h (not_responds_sendTo rfl)
          next hvalid =>
            rw [if_neg hdelegate, if_neg hmethod, if_neg hlocal, if_neg hremote, if_neg hvalid]
            dsimp only at h ⊢
            have hresponds : Responds (s.findPair ext viaLocalIP (transport relayed) source).1 _ id :=
              ⟨h.1, findPair_sent (s := s) ▸ h.2⟩
            obtain ⟨hrole, heq, hid⟩ := answer_responds hrequest hresponds
            have hcontrol := controlled_of_conflict hnominates.2 hrole
            have hcontrol' := findPair_mControl.symm.trans hcontrol
            obtain ⟨found, hfound, hmem, hmatch⟩ := findPair_placed (hplaced hcontrol')
            refine ⟨hcontrol', hid, ?_⟩
            rw [heq, hfound]
            exact handleAccepted_nominated ((hnumbered.findPair _ _ _).still (sendTo_still _ _ _ _)) hnominates.1
              ((sendTo_mControl _).trans hcontrol) (by rw [sendTo_pairs]; exact hmem) hmatch

end Answer

namespace SessionPair

variable {ext : ICEExternals} {w : SessionPair} {e : SessionEvent} {a b : AgentStart}

/-- A nomination arrives at a session in the controlled role, belongs to none of its pairs, and arrives at no local
candidate. -/
def unplacedNomination (ext : ICEExternals) (w : SessionPair) (e : SessionEvent) : Bool :=
  match e.action with
  | .receive n viaLocalIP relayed source =>
    match (w.session e.agent.other).sent[n]? with
    | none => false
    | some sent =>
      sent.packet.mClass == .request && sent.packet.mUseCandidateIncluded && sent.packet.mIceControllingIncluded &&
        (w.session e.agent).mControl == .controlled &&
        !placed ext (w.session e.agent) viaLocalIP (transport relayed) source
  | _ => false

def NominationsPlaced (ext : ICEExternals) (w : SessionPair) (e : SessionEvent) : Prop :=
  w.unplacedNomination ext e = false

instance (w : SessionPair) (e : SessionEvent) : Decidable (NominationsPlaced ext w e) :=
  inferInstanceAs (Decidable (_ = _))

/-- Both sessions have been honest. -/
structure HonestRun (w : SessionPair) : Prop where
  honest : ∀ x : Agent, HonestParty (w.session x).party (w.session x.other).party
  signs : ∀ x : Agent, (w.session x).party.password ≠ []
  numbered : ∀ x : Agent, Numbered (w.session x)

theorem start_honestRun (ha : a.password ≠ []) (hb : b.password ≠ []) : HonestRun (start a b) where
  honest x := by cases x <;> refine ⟨?_, ?_, ?_, ?_, ?_⟩ <;> simp [start, create, party, session]
  signs x := by
    cases x with
    | first => exact hb
    | second => exact ha
  numbered x := by
    cases x <;> exact ⟨List.nodup_nil, fun _ hpair => absurd hpair List.not_mem_nil⟩

theorem honestRun_step (h : HonestRun w) :
    HonestRun (w.step ext e) ∧ ∀ x, (w.session x).party.created ⊆ ((w.step ext e).session x).party.created := by
  rcases step_cases ext true (h.signs e.agent) (fun _ _ _ => rfl) with
    hsame | ⟨hagent, hother, _, got, hgot, hacts⟩
  · rw [hsame]
    exact ⟨h, fun _ => List.Subset.refl _⟩
  · have hmine := (h.honest e.agent).acts (fun packet hpacket => (hgot packet hpacket).mem) hacts
    refine ⟨⟨forall_agent e.agent ?_ ?_, forall_agent e.agent ?_ ?_, forall_agent e.agent ?_ ?_⟩,
      forall_agent e.agent (Acts.created hacts) ?_⟩
    · rw [hother]
      exact hmine
    · have htheirs := @HonestParty.mono _ _ ((w.step ext e).session e.agent).party (h.honest e.agent.other)
        (by rw [Agent.other_other]; exact Acts.sent hacts)
      rw [hother, Agent.other_other]
      exact htheirs
    · rw [Acts.password hacts]
      exact h.signs e.agent
    · rw [hother]
      exact h.signs e.agent.other
    · rw [hagent]
      exact (h.numbered e.agent).turn (act_turn _ _)
    · rw [hother]
      exact h.numbered e.agent.other
    · rw [hother]
      exact List.Subset.refl _

theorem honestRun_run (h : HonestRun w) (es : List SessionEvent) : HonestRun (run (step ext) w es) :=
  run_invariant_always HonestRun (fun _ _ hhonest => (honestRun_step hhonest).1) w es h

theorem created_run (h : HonestRun w) (es : List SessionEvent) (x : Agent) :
    (w.session x).party.created ⊆ ((run (step ext) w es).session x).party.created := by
  refine (run_invariant_always (fun w' => HonestRun w' ∧ (w.session x).party.created ⊆ (w'.session x).party.created)
    (fun w' e hinv => ?_) w es ⟨h, List.Subset.refl _⟩).2
  obtain ⟨hhonest, hcreated⟩ := @honestRun_step ext _ e hinv.1
  exact ⟨hhonest, List.Subset.trans hinv.2 (hcreated x)⟩

/-- In this step the other side, which is controlled, answers a request and is then nominated on a pair that matches
the local address, the transport and the source with which it received the request. -/
structure AnswersNomination (ext : ICEExternals) (w : SessionPair) (e : SessionEvent) (x : Agent)
    (id : Vector UInt8 12) : Prop where
  agent : e.agent = x.other
  controlled : (w.session x.other).mControl = .controlled
  responds : Responds (w.session x.other) ((w.step ext e).session x.other) id
  nominated : ∃ n viaLocalIP relayed source, e.action = .receive n viaLocalIP relayed source ∧
    (∃ sent, (w.session x).sent[n]? = some sent ∧ sent.packet.mClass = .request ∧ sent.packet.mTransactionID = id) ∧
    NominatedAt ext ((w.step ext e).session x.other) viaLocalIP (transport relayed) source

/-- The step in which a nomination is first answered. -/
theorem answersNomination_of_responds (h : HonestRun w) (hok : NominationsPlaced ext w e) {x : Agent}
    {id : Vector UInt8 12}
    (hasked : ∀ c ∈ (w.session x).party.created, c.2.id = id → Nominates c.2.mSTUNRequest)
    (hresponds : Responds (w.session x.other) ((w.step ext e).session x.other) id) :
    AnswersNomination ext w e x id := by
  have hstep := @honestRun_step ext _ e h
  rcases step_cases ext true (h.signs e.agent) (fun _ _ _ => rfl) with
    hsame | ⟨hagent, hother, _, got, hgot, hacts⟩
  · rw [hsame] at hresponds
    exact absurd hresponds (not_responds_of_sent rfl)
  have hsides : e.agent = x.other := by
    by_contra hne
    have hx : x.other = e.agent.other := by
      cases hx : x <;> cases he : e.agent <;> simp_all [Agent.other]
    rw [hx, hother] at hresponds
    exact absurd hresponds (not_responds_of_sent rfl)
  rw [hsides, Agent.other_other] at hagent hgot
  rw [hsides] at hacts
  have ⟨⟨d, hd, hclass, hid⟩, hold⟩ := hresponds
  have hplain := (hstep.1.honest x.other).plain
  obtain ⟨packet, hpacket, hrequest, hpid⟩ := Acts.response hacts (List.mem_map_of_mem hd) hclass hplain
    (fun hmem => by
      obtain ⟨d', hd', heq⟩ := List.mem_map.mp hmem
      exact hold ⟨d', hd', heq ▸ hclass, heq ▸ hid⟩)
  obtain ⟨n, viaLocalIP, relayed, source, haction, hn⟩ := hgot packet hpacket
  obtain ⟨sent, hsent, rfl⟩ := Option.map_eq_some_iff.mp hn
  have hpacketID : sent.packet.mTransactionID = _ := hpid.symm.trans hid
  obtain ⟨c, hc, hcp⟩ := (h.honest x).sent sent.packet
    (List.mem_map_of_mem (List.mem_of_getElem? hsent)) hrequest
  have hnominates := hasked c hc (by rw [STUNRequester.id, hcp, hpacketID])
  rw [hcp] at hnominates
  have hact : (w.step ext e).session x.other = (w.session x.other).receiveSTUN ext e.env viaLocalIP (transport relayed)
      source sent.packet := by
    rw [hagent, haction, ICESocketSession.act, hsent]
  have hplaced : (w.session x.other).mControl = .controlled →
      placed ext (w.session x.other) viaLocalIP (transport relayed) source = true := by
    intro hcontrol
    unfold NominationsPlaced unplacedNomination at hok
    rw [haction, hsides, Agent.other_other] at hok
    dsimp only at hok
    rw [hsent] at hok
    simpa [hrequest, hnominates.1, hnominates.2, hcontrol] using hok
  rw [hact] at hresponds
  obtain ⟨hcontrol, -, hnominated⟩ := receiveSTUN_nominated (h.numbered x.other) hrequest hnominates hplaced hresponds
  exact ⟨hsides, hcontrol, hact ▸ hresponds, n, viaLocalIP, relayed, source, haction,
    ⟨sent, hsent, hrequest, hpacketID⟩, hact ▸ hnominated⟩

/-- The nomination run, and the response that arrives after all. -/
def answeredRun : List SessionEvent := nominationRun ++ [hostEvent .second 15 0 (arrival .second)]

/-- The host of the first session has moved to another address when the nomination still arrives at the old one,
from an address that the other side's network has just given to it. -/
def movedRun : List SessionEvent :=
  nominationRun.take 12 ++
    [{ agent := .first, action := .candidatesChanged
       env :=
        { transactionID := Vector.replicate 12 13
          socket := some { localCandidates := [{ hostCandidate .first with mIPAddress := .ipv4 0x0A000003 5000 }] } } },
      hostEvent .first 14 0 (.receive 0 (hostAddress .first) false (.ipv4 0x0A000002 6000)),
      hostEvent .second 15 0 (arrival .second)]

end SessionPair

end OpenPeer
