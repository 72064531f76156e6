import OpenPeer.ICESocketSessionHandlers
import Mathlib.Logic.Relation

/-!
# Roles and nominations, as two parties see them

What matters of an ICE session for the agreement with the other side: its role, its tie
breaker, the requests it has made and those it still waits for, what it has sent, and the
nominations that succeeded. One act of such a party is one line of a table; each handler
of the session is some acts in a row. Which roles the parties end with is settled here,
for the acts alone.
-/
namespace OpenPeer

open ICESocketSession

structure Party where
  role : ICEControls
  resolver : UInt64
  password : List UInt8
  created : List (ICEControls × STUNRequester)
  watched : List STUNRequester
  nominating : Option STUNRequester
  sent : List STUNPacket
  nominations : List (Vector UInt8 12)

/-- What an act may draw on: a packet that was received, a random number, and whether an alive
check may be made that says to control when the party does not. -/
structure Cause where
  got : Option STUNPacket
  transactionID : Vector UInt8 12
  overdue : Bool

/-- A request says that its sender has a role and this tie breaker, and nothing else. -/
def Carries (role : ICEControls) (resolver : UInt64) (request : STUNPacket) : Prop :=
  match role with
  | .controlling => request.mIceControllingIncluded ∧ request.mIceControlling = resolver ∧
      ¬request.mIceControlledIncluded
  | .controlled => request.mIceControlledIncluded ∧ request.mIceControlled = resolver ∧
      ¬request.mIceControllingIncluded

/-- A request that nominates. -/
def Nominates (request : STUNPacket) : Prop := request.mUseCandidateIncluded ∧ request.mIceControllingIncluded

inductive Act (cause : Cause) : Party → Party → Prop
  | forget (p : Party) (watched : List STUNRequester) (nominating : Option STUNRequester)
      (hwatched : ∀ r ∈ watched, r ∈ p.watched) (hnominating : nominating = none ∨ nominating = p.nominating) :
      Act cause p { p with watched := watched, nominating := nominating }
  | create (p : Party) (r : STUNRequester) (nominating : Option STUNRequester)
      (hid : r.id = cause.transactionID) (hfresh : ∀ c ∈ p.created, c.2.id ≠ cause.transactionID)
      (hclass : r.mSTUNRequest.mClass = .request) (herror : r.mSTUNRequest.mErrorCode = 0)
      (hcarries : Carries p.role p.resolver r.mSTUNRequest ∨
        (cause.overdue = true ∧ Carries .controlling p.resolver r.mSTUNRequest))
      (hnominating : nominating = p.nominating ∨ (nominating = some r ∧ Nominates r.mSTUNRequest)) :
      Act cause p { p with
        created := (p.role, r) :: p.created, watched := r :: p.watched, nominating := nominating }
  | transmit (p : Party) (c : ICEControls × STUNRequester) (hc : c ∈ p.created) :
      Act cause p { p with sent := c.2.mSTUNRequest :: p.sent }
  | indicate (p : Party) (packet : STUNPacket) (hclass : packet.mClass = .indication) (herror : packet.mErrorCode = 0) :
      Act cause p { p with sent := packet :: p.sent }
  | succeed (p : Party) (packet response : STUNPacket) (hgot : cause.got = some packet)
      (hclass : packet.mClass = .request) (hrole : conflict p.role p.resolver packet = none)
      (hresponse : response.mClass = .response) (herror : response.mErrorCode = 0)
      (hid : response.mTransactionID = packet.mTransactionID) : Act cause p { p with sent := response :: p.sent }
  | refuse (p : Party) (response : STUNPacket) (hresponse : response.mClass = .errorResponse)
      (herror : response.mErrorCode ≠ STUNPacket.errorCodeRoleConflict) :
      Act cause p { p with sent := response :: p.sent }
  | win (p : Party) (packet response : STUNPacket) (hgot : cause.got = some packet)
      (hclass : packet.mClass = .request) (hrole : conflict p.role p.resolver packet = some true)
      (hresponse : response.mClass = .errorResponse) (hid : response.mTransactionID = packet.mTransactionID) :
      Act cause p { p with sent := response :: p.sent }
  | lose (p : Party) (packet : STUNPacket) (hgot : cause.got = some packet) (hclass : packet.mClass = .request)
      (hrole : conflict p.role p.resolver packet = some false) :
      Act cause p { p with role := otherRole p.role }
  | obey (p : Party) (packet : STUNPacket) (r : STUNRequester) (hgot : cause.got = some packet)
      (herror : packet.mErrorCode = STUNPacket.errorCodeRoleConflict) (hr : r ∈ p.watched)
      (hid : r.id = packet.mTransactionID) : Act cause p { p with role := conflictRole r.mSTUNRequest }
  | nominated (p : Party) (packet : STUNPacket) (r r' : STUNRequester) (hgot : cause.got = some packet)
      (hclass : packet.mClass = .response) (hid : r.id = packet.mTransactionID) (hr' : p.nominating = some r')
      (hsame : r'.id = r.id) :
      Act cause p { p with nominating := none, nominations := r.id :: p.nominations }

/-- Some acts in a row. -/
abbrev Acts (cause : Cause) : Party → Party → Prop := Relation.ReflTransGen (Act cause)

@[simp] theorem otherRole_ne (c : ICEControls) : otherRole c ≠ c := by cases c <;> decide

theorem eq_otherRole {c d : ICEControls} (h : c ≠ d) : c = otherRole d := by
  cases c <;> cases d <;> first | rfl | exact absurd rfl h

theorem otherRole_injective {c d : ICEControls} (h : otherRole c = otherRole d) : c = d := by
  cases c <;> cases d <;> first | rfl | cases h

section Roles

/-- The role that the tie breakers give. -/
def dictated (resolver peerResolver : UInt64) : ICEControls :=
  if peerResolver < resolver then .controlling else .controlled

theorem lt_or_gt_of_ne_resolver {x y : UInt64} (h : x ≠ y) : x < y ∧ ¬y < x ∧ ¬x ≥ y ∨ y < x ∧ ¬x < y ∧ x ≥ y := by
  have hnat : x.toNat ≠ y.toNat := fun he => h (UInt64.toNat_inj.mp he)
  simp only [UInt64.lt_iff_toNat_lt, UInt64.le_iff_toNat_le, ge_iff_le]
  omega

theorem dictated_other {resolver peerResolver : UInt64} (h : resolver ≠ peerResolver) :
    dictated peerResolver resolver = otherRole (dictated resolver peerResolver) := by
  unfold dictated
  rcases lt_or_gt_of_ne_resolver h with ⟨hlt, hnot, -⟩ | ⟨hlt, hnot, -⟩
  · rw [if_pos hlt, if_neg hnot]
    rfl
  · rw [if_neg hnot, if_pos hlt]
    rfl

theorem conflict_eq {role c : ICEControls} {resolver peerResolver : UInt64} {packet : STUNPacket} {won : Bool}
    (hcarries : Carries c peerResolver packet) (hne : resolver ≠ peerResolver)
    (h : conflict role resolver packet = some won) : c = role ∧ (won = true ↔ role = dictated resolver peerResolver) := by
  unfold dictated
  cases role <;> cases c <;> simp only [conflict, Carries] at h hcarries
  · rw [if_pos hcarries.1, hcarries.2.1, Option.some.injEq] at h
    subst h
    refine ⟨rfl, ?_⟩
    rcases lt_or_gt_of_ne_resolver hne with ⟨hlt, hnot, hge⟩ | ⟨hlt, hnot, hge⟩ <;> simp [hnot, hge, hlt]
  · rw [if_neg hcarries.2.2] at h
    cases h
  · rw [if_neg hcarries.2.2] at h
    cases h
  · rw [if_pos hcarries.1, hcarries.2.1, Option.some.injEq] at h
    subst h
    refine ⟨rfl, ?_⟩
    rcases lt_or_gt_of_ne_resolver hne with ⟨hlt, hnot, -⟩ | ⟨hlt, hnot, -⟩ <;> simp [hnot, hlt]

theorem conflictRole_of_carries {c : ICEControls} {resolver : UInt64} {request : STUNPacket}
    (h : Carries c resolver request) : conflictRole request = otherRole c := by
  cases c <;> simp only [Carries] at h <;> simp [conflictRole, h, otherRole]

/-- What one party has said, seen beside the other. -/
structure Fair (me peer : Party) : Prop where
  carries : ∀ c ∈ me.created, Carries c.1 me.resolver c.2.mSTUNRequest
  plain : ∀ c ∈ me.created, c.2.mSTUNRequest.mClass = .request ∧ c.2.mSTUNRequest.mErrorCode = 0
  unique : ∀ c ∈ me.created, ∀ d ∈ me.created, c.2.id = d.2.id → c = d
  watched : ∀ r ∈ me.watched, ∃ c ∈ me.created, c.2 = r
  sent : ∀ p ∈ me.sent, p.mClass = .request → ∃ c ∈ me.created, c.2.mSTUNRequest = p
  /-- as long as the role is not the dictated one it never was -/
  past : me.role ≠ dictated me.resolver peer.resolver →
    ∀ c ∈ me.created, c.1 ≠ dictated me.resolver peer.resolver
  /-- a role conflict is won only in the dictated role, and against a request that claims it -/
  won : ∀ p ∈ me.sent, p.mErrorCode = STUNPacket.errorCodeRoleConflict →
    me.role = dictated me.resolver peer.resolver ∧
    ∃ c ∈ peer.created, c.2.id = p.mTransactionID ∧ c.1 = dictated me.resolver peer.resolver

variable {me me' peer : Party} {cause : Cause}

theorem Fair.mono (h : Fair peer me) (hresolver : me'.resolver = me.resolver) (hcreated : me.created ⊆ me'.created) :
    Fair peer me' where
  __ := h
  past := hresolver ▸ h.past
  won p hp herror := by
    obtain ⟨hrole, c, hc, hid, hclaims⟩ := h.won p hp herror
    rw [hresolver]
    exact ⟨hrole, c, hcreated hc, hid, hclaims⟩

section

variable (hpeer : Fair peer me) (hne : me.resolver ≠ peer.resolver) {packet : STUNPacket} (hsent : packet ∈ peer.sent)
  (hclass : packet.mClass = .request)
include hpeer hne hsent hclass

theorem Fair.claims {won : Bool} (hrole : conflict me.role me.resolver packet = some won) :
    ∃ c ∈ peer.created, c.2.mSTUNRequest = packet ∧ c.1 = me.role ∧
      (won = true ↔ me.role = dictated me.resolver peer.resolver) := by
  obtain ⟨c, hc, rfl⟩ := hpeer.sent packet hsent hclass
  obtain ⟨hclaims, hwon⟩ := conflict_eq (hpeer.carries c hc) hne hrole
  exact ⟨c, hc, rfl, hclaims, hwon⟩

theorem Fair.lose (hrole : conflict me.role me.resolver packet = some false) :
    otherRole me.role = dictated me.resolver peer.resolver ∧ me.role = peer.role := by
  obtain ⟨c, hc, -, hclaims, hwon⟩ := hpeer.claims hne hsent hclass hrole
  have hmine : me.role ≠ dictated me.resolver peer.resolver := fun he => nomatch hwon.mpr he
  have hother := eq_otherRole hmine
  have hdictated : dictated peer.resolver me.resolver = me.role := (dictated_other hne).trans hother.symm
  refine ⟨(eq_otherRole hmine.symm).symm, ?_⟩
  by_contra hdiffer
  exact hpeer.past (fun he => hdiffer (hdictated.symm.trans he.symm)) c hc (hclaims.trans hdictated.symm)

end

theorem Fair.obey (hme : Fair me peer) (hpeer : Fair peer me) (hne : me.resolver ≠ peer.resolver)
    {packet : STUNPacket} {r : STUNRequester} (hsent : packet ∈ peer.sent)
    (herror : packet.mErrorCode = STUNPacket.errorCodeRoleConflict) (hr : r ∈ me.watched)
    (hid : r.id = packet.mTransactionID) :
    conflictRole r.mSTUNRequest = dictated me.resolver peer.resolver ∧
      peer.role = otherRole (dictated me.resolver peer.resolver) := by
  obtain ⟨hpeerRole, c, hc, hcid, hclaims⟩ := hpeer.won packet hsent herror
  obtain ⟨d, hd, rfl⟩ := hme.watched r hr
  obtain rfl := hme.unique c hc d hd (hcid.trans hid.symm)
  have hother := dictated_other hne
  refine ⟨?_, hpeerRole.trans hother⟩
  rw [conflictRole_of_carries (hme.carries c hc), hclaims, hother]
  exact (eq_otherRole (otherRole_ne _).symm).symm

theorem Fair.changeRole (hme : Fair me peer) :
    Fair { me with role := dictated me.resolver peer.resolver } peer where
  __ := hme
  past h := absurd rfl h
  won p hp herror := ⟨rfl, (hme.won p hp herror).2⟩

theorem Fair.send (hme : Fair me peer) {packet : STUNPacket}
    (hrequest : packet.mClass = .request → ∃ c ∈ me.created, c.2.mSTUNRequest = packet)
    (hwon : packet.mErrorCode = STUNPacket.errorCodeRoleConflict →
      me.role = dictated me.resolver peer.resolver ∧
      ∃ c ∈ peer.created, c.2.id = packet.mTransactionID ∧ c.1 = dictated me.resolver peer.resolver) :
    Fair { me with sent := packet :: me.sent } peer where
  __ := hme
  sent p hp hclass := by
    rcases List.mem_cons.mp hp with rfl | hp
    · exact hrequest hclass
    · exact hme.sent p hp hclass
  won p hp herror := by
    rcases List.mem_cons.mp hp with rfl | hp
    · exact hwon herror
    · exact hme.won p hp herror

/-- A new request that carries the role is like those before it. -/
theorem Fair.create (hme : Fair me peer) {r : STUNRequester} {nominating : Option STUNRequester}
    (hfresh : ∀ c ∈ me.created, c.2.id ≠ r.id) (hclass : r.mSTUNRequest.mClass = .request)
    (herror : r.mSTUNRequest.mErrorCode = 0) (hcarries : Carries me.role me.resolver r.mSTUNRequest) :
    Fair { me with
      created := (me.role, r) :: me.created, watched := r :: me.watched, nominating := nominating } peer where
  carries c hc := by
    rcases List.mem_cons.mp hc with rfl | hc
    · exact hcarries
    · exact hme.carries c hc
  plain c hc := by
    rcases List.mem_cons.mp hc with rfl | hc
    · exact ⟨hclass, herror⟩
    · exact hme.plain c hc
  unique c hc d hd he := by
    rcases List.mem_cons.mp hc with rfl | hc <;> rcases List.mem_cons.mp hd with rfl | hd
    · rfl
    · exact absurd he.symm (hfresh d hd)
    · exact absurd he (hfresh c hc)
    · exact hme.unique c hc d hd he
  watched r' hr' := by
    rcases List.mem_cons.mp hr' with rfl | hr'
    · exact ⟨(me.role, r'), List.mem_cons_self, rfl⟩
    · obtain ⟨c, hc, hcr⟩ := hme.watched r' hr'
      exact ⟨c, List.mem_cons_of_mem _ hc, hcr⟩
  sent p hp hclass := by
    obtain ⟨c, hc, hcp⟩ := hme.sent p hp hclass
    exact ⟨c, List.mem_cons_of_mem _ hc, hcp⟩
  past h c hc := by
    rcases List.mem_cons.mp hc with rfl | hc
    · exact h
    · exact hme.past h c hc
  won := hme.won

theorem Act.resolver (h : Act cause me me') : me'.resolver = me.resolver := by cases h <;> rfl

theorem Act.created (h : Act cause me me') : me.created ⊆ me'.created := by
  cases h with
  | create => exact List.subset_cons_self _ _
  | _ => exact List.Subset.refl _

section

variable (hme : Fair me peer) (hpeer : Fair peer me) (hne : me.resolver ≠ peer.resolver)
  (hgot : ∀ packet, cause.got = some packet → packet ∈ peer.sent)
include hme hpeer hne hgot

/-- One act of a party that makes no alive check out of its role keeps what it has said fair. -/
theorem Fair.act (hoverdue : cause.overdue = false) (h : Act cause me me') : Fair me' peer := by
  cases h with
  | forget watched nominating hwatched hnominating =>
    exact ⟨hme.carries, hme.plain, hme.unique, fun r hr => hme.watched r (hwatched r hr), hme.sent, hme.past, hme.won⟩
  | create r nominating hid hfresh hclass herror hcarries hnominating =>
    refine hme.create (hid ▸ hfresh) hclass herror (hcarries.resolve_right fun hlate => ?_)
    rw [hoverdue] at hlate
    exact nomatch hlate.1
  | transmit c hc =>
    refine hme.send (fun _ => ⟨c, hc, rfl⟩) fun herror => ?_
    rw [(hme.plain c hc).2] at herror
    exact nomatch herror
  | indicate packet hclass herror =>
    refine hme.send (fun hrequest => ?_) fun hconflict => ?_
    · rw [hclass] at hrequest
      cases hrequest
    · rw [herror] at hconflict
      exact nomatch hconflict
  | succeed packet response hpacket hclass hrole hresponse herror hid =>
    refine hme.send (fun hrequest => ?_) fun hconflict => ?_
    · rw [hresponse] at hrequest
      cases hrequest
    · rw [herror] at hconflict
      exact nomatch hconflict
  | refuse response hresponse herror =>
    refine hme.send (fun hrequest => ?_) fun hconflict => absurd hconflict herror
    rw [hresponse] at hrequest
    cases hrequest
  | win packet response hpacket hclass hrole hresponse hid =>
    obtain ⟨c, hc, hcp, hclaims, hwon⟩ := hpeer.claims hne (hgot packet hpacket) hclass hrole
    refine hme.send (fun hrequest => ?_) fun _ => ⟨hwon.mp rfl, c, hc, ?_, hclaims.trans (hwon.mp rfl)⟩
    · rw [hresponse] at hrequest
      cases hrequest
    · rw [hid, ← hcp]
      rfl
  | lose packet hpacket hclass hrole =>
    rw [(hpeer.lose hne (hgot packet hpacket) hclass hrole).1]
    exact hme.changeRole
  | obey packet r hpacket herror hr hid =>
    rw [(hme.obey hpeer hne (hgot packet hpacket) herror hr hid).1]
    exact hme.changeRole
  | nominated packet r r' hpacket hclass hid hr' hsame =>
    exact { hme with }

/-- One act changes the role to the dictated one only, and not at all when the other side has the other role. -/
theorem Fair.role_act (h : Act cause me me') :
    (me'.role = me.role ∨ me'.role = dictated me.resolver peer.resolver) ∧
      (me.role ≠ peer.role → me'.role = me.role) := by
  cases h with
  | lose packet hpacket hclass hrole =>
    obtain ⟨hdictated, hsame⟩ := hpeer.lose hne (hgot packet hpacket) hclass hrole
    exact ⟨.inr hdictated, fun hdiffer => absurd hsame hdiffer⟩
  | obey packet r hpacket herror hr hid =>
    obtain ⟨hdictated, hpeerRole⟩ := hme.obey hpeer hne (hgot packet hpacket) herror hr hid
    refine ⟨.inr hdictated, fun hdiffer => ?_⟩
    rw [hpeerRole] at hdiffer
    exact hdictated.trans (otherRole_injective (eq_otherRole hdiffer.symm))
  | _ => exact ⟨.inl rfl, fun _ => rfl⟩

end

/-- The two parties, each fair to the other. -/
structure FairPair (me peer : Party) : Prop where
  mine : Fair me peer
  theirs : Fair peer me
  differ : me.resolver ≠ peer.resolver

theorem FairPair.symm (h : FairPair me peer) : FairPair peer me := ⟨h.theirs, h.mine, h.differ.symm⟩

section

variable (h : FairPair me peer) (hgot : ∀ packet, cause.got = some packet → packet ∈ peer.sent)
  (hoverdue : cause.overdue = false)
include h hgot hoverdue

theorem FairPair.act (hact : Act cause me me') : FairPair me' peer where
  mine := h.mine.act h.theirs h.differ hgot hoverdue hact
  theirs := h.theirs.mono hact.resolver hact.created
  differ := hact.resolver ▸ h.differ

theorem FairPair.acts (hacts : Acts cause me me') :
    FairPair me' peer ∧ me'.resolver = me.resolver ∧
      (me'.role = me.role ∨ me'.role = dictated me.resolver peer.resolver) ∧
      (me.role ≠ peer.role → me'.role = me.role) := by
  induction hacts with
  | refl => exact ⟨h, rfl, .inl rfl, fun _ => rfl⟩
  | tail _ hact ih =>
    obtain ⟨hfair, hresolver, hrole, hkeeps⟩ := ih
    obtain ⟨hrole', hkeeps'⟩ := hfair.mine.role_act hfair.theirs hfair.differ hgot hact
    rw [hresolver] at hrole'
    refine ⟨hfair.act hgot hoverdue hact, hact.resolver.trans hresolver, ?_, fun hdiffer => ?_⟩
    · rcases hrole' with hsame | hdictated
      · rw [hsame]
        exact hrole
      · exact .inr hdictated
    · have hsame := hkeeps hdiffer
      exact (hkeeps' (hsame ▸ hdiffer)).trans hsame

end

end Roles

end OpenPeer
