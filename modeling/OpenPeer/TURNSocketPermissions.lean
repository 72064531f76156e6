import OpenPeer.Keyed
import OpenPeer.Mailboxes
import OpenPeer.TURNSocketRelay

/-!
# The permissions of a TURN socket

Data for a peer waits with its permission. A permission that is installed has nothing that
waits, and one that is not is being installed with the current requester, or with none. A
response of the current requester that is not signed breaks this: the requester is forgotten
while permissions are still being installed with it.
-/
namespace OpenPeer.TURNSocketRelay

open Mailboxes TURNSocketRelay.TURNSocket

/-- What concerns permissions and the data that is sent. -/
structure Desk where
  requester : Pointer
  permissions : List Permission
  packets : Nat
  queued : List Packet
  sent : List Sending
  dropped : List Packet
  permitted : List ICESocket.IPAddress

def TURNSocket.desk (s : TURNSocket) : Desk where
  requester := s.mPermissionRequester
  permissions := s.mPermissions
  packets := s.packets
  queued := s.queued
  sent := s.sent
  dropped := s.dropped
  permitted := s.permitted

/-- Each permission is a box in which the data for its peer waits. -/
def Desk.office (d : Desk) : Office ICESocket.IPAddress Packet where
  boxes := d.permissions.map fun permission => (permission.mPeerAddress, permission.mPendingData)
  queued := d.queued
  sent := d.sent.map Sending.packet
  dropped := d.dropped
  next := d.packets

/-- What holds of the data whichever requester is the current one. -/
structure Desk.Held (d : Desk) : Prop where
  office : Orderly Packet.peer Packet.number d.office
  emptied : ∀ permission ∈ d.permissions, permission.mInstalled = true → permission.mPendingData = []
  settled : ∀ permission ∈ d.permissions, permission.mInstalled = true → permission.mInstallingWithRequester = none
  known : ∀ permission ∈ d.permissions, permission.mInstalled = true → permission.mPeerAddress ∈ d.permitted
  permitted : ∀ sending ∈ d.sent, sending.permitted = true

/-- Permissions are being installed with the current requester or none. -/
def Desk.Current (d : Desk) : Prop :=
  ∀ permission ∈ d.permissions,
    permission.mInstallingWithRequester = none ∨ permission.mInstallingWithRequester = d.requester

structure Desk.Inv (d : Desk) : Prop where
  held : d.Held
  current : d.Current

section Frames

variable (s : TURNSocket)

variable (requester : Nat)

variable (response : Response)

@[simp] theorem desk_handleAuthorizationErrors :
    (s.handleAuthorizationErrors requester response).2.desk = s.desk := by
  unfold handleAuthorizationErrors
  split
  · rfl
  split
  · rfl
  split
  · split <;> rfl
  split
  · split <;> rfl
  · rfl

@[simp] theorem complete_desk : (s.complete requester).desk = s.desk := by
  unfold complete
  split <;> rfl

theorem removeChannels_desk (is : List Nat) : (is.foldl removeChannel s).desk = s.desk := by
  induction is generalizing s with
  | nil => rfl
  | cons i is ih => exact ih (s.removeChannel i)

theorem refreshChannels_desk (now : Nat) : (s.refreshChannels now).desk = s.desk :=
  removeChannels_desk s (s.boundChannels.filter fun i => now > (s.infos i).mLastSentDataAt + removeIfNoData)

theorem bindChannel_desk (destination : ICESocket.IPAddress) (draws : Nat → Nat) (now : Nat) :
    (s.bindChannel destination draws now).desk = s.desk := by
  unfold bindChannel
  split
  · rfl
  · split <;> rfl

theorem channelTimer_desk (i : Nat) : (s.channelTimer i).desk = s.desk := by
  unfold channelTimer
  split
  · rfl
  · split <;> rfl

theorem activateServer_desk (place : Nat) : (s.activateServer place).desk = s.desk := by
  unfold activateServer
  split
  · rfl
  · split <;> rfl

theorem handleAllocateRequester_desk : (s.handleAllocateRequester requester response).1.desk = s.desk := by
  unfold handleAllocateRequester
  split
  · rfl
  · dsimp only
    split
    · exact desk_handleAuthorizationErrors s requester response
    split
    · split
      · rfl
      · split <;> rfl
    · split <;> rfl

theorem handleDeallocRequester_desk : (s.handleDeallocRequester requester response).1.desk = s.desk := by
  have hretry := desk_handleAuthorizationErrors s requester response
  unfold handleDeallocRequester
  split
  · rfl
  · dsimp only
    split <;> exact hretry

theorem handleChannelRequester_desk : (s.handleChannelRequester requester response).1.desk = s.desk := by
  have hretry := desk_handleAuthorizationErrors s requester response
  unfold handleChannelRequester
  split
  · rfl
  · dsimp only
    split
    · exact hretry
    split
    · exact hretry
    · split <;> exact hretry

end Frames

section Keeping

variable {s : TURNSocket}

theorem office_keys (d : Desk) : d.office.keys = d.permissions.map Permission.mPeerAddress := by
  simp [Desk.office, Office.keys]

theorem Desk.Held.nodup (h : s.desk.Held) : (s.mPermissions.map Permission.mPeerAddress).Nodup := by
  have hkeys := h.office.keys
  rwa [office_keys] at hkeys

theorem Desk.Held.forget (h : s.desk.Held) (requester : Pointer) :
    (TURNSocket.desk { s with mPermissionRequester := requester }).Held :=
  { h with }

variable {kept : List Permission}

theorem office_retain (h : s.desk.Held) (hkept : kept.Sublist s.mPermissions) :
    (s.retain kept).desk.office = s.desk.office.discard fun peer => peer ∉ kept.map Permission.mPeerAddress := by
  have hsame := Keyed.filter_keys hkept h.nodup
  simp only [Desk.office, TURNSocket.desk, retain, Office.discard, List.filter_map, List.flatMap_map]
  congr 1
  conv_lhs => rw [← hsame]
  congr 1
  apply List.filter_congr
  intro permission _
  simp [-List.mem_map]

theorem Desk.Held.retain (h : s.desk.Held) (hkept : kept.Sublist s.mPermissions) :
    (s.retain kept).desk.Held where
  office := by
    rw [office_retain h hkept]
    exact h.office.discard _
  emptied permission hmem := h.emptied permission (hkept.subset hmem)
  settled permission hmem := h.settled permission (hkept.subset hmem)
  known permission hmem := h.known permission (hkept.subset hmem)
  permitted := h.permitted

/-- The state of each permission may change but for its peer and what waits for it. -/
theorem Desk.Held.map (h : s.desk.Held) (f : Permission → Permission)
    (hpeer : ∀ permission, (f permission).mPeerAddress = permission.mPeerAddress)
    (hpending : ∀ permission, (f permission).mPendingData = permission.mPendingData)
    (hinstalled : ∀ permission, (f permission).mInstalled = permission.mInstalled)
    (hsettled : ∀ permission, permission.mInstalled = true → permission.mInstallingWithRequester = none →
      (f permission).mInstallingWithRequester = none) (requester : Pointer) :
    TURNSocket.desk { s with mPermissions := s.mPermissions.map f, mPermissionRequester := requester } |>.Held where
  office := by
    have hoffice : Desk.office (TURNSocket.desk
        { s with mPermissions := s.mPermissions.map f, mPermissionRequester := requester }) = s.desk.office := by
      simp [Desk.office, TURNSocket.desk, hpeer, hpending, Function.comp_def]
    rw [hoffice]
    exact h.office
  emptied := by
    intro permission hmem hin
    obtain ⟨old, hold, rfl⟩ := List.mem_map.mp hmem
    rw [hpending]
    exact h.emptied old hold (hinstalled old ▸ hin)
  settled := by
    intro permission hmem hin
    obtain ⟨old, hold, rfl⟩ := List.mem_map.mp hmem
    rw [hinstalled] at hin
    exact hsettled old hin (h.settled old hold hin)
  known := by
    intro permission hmem hin
    obtain ⟨old, hold, rfl⟩ := List.mem_map.mp hmem
    rw [hpeer]
    exact h.known old hold (hinstalled old ▸ hin)
  permitted := h.permitted

theorem Desk.Held.reinstall (h : s.desk.Held) (requester : Nat) (other current : Pointer) :
    TURNSocket.desk { s.reinstall requester other with mPermissionRequester := current } |>.Held := by
  apply h.map
  · intro permission
    split <;> rfl
  · intro permission
    split <;> rfl
  · intro permission
    split <;> rfl
  · intro permission _ hnone
    simp [hnone]

variable {requester : Nat}

theorem current_reinstall (h : s.desk.Current) (hrequester : s.mPermissionRequester = some requester)
    (other : Pointer) :
    Desk.Current (TURNSocket.desk { s.reinstall requester other with mPermissionRequester := other }) := by
  intro permission hmem
  obtain ⟨old, hold, rfl⟩ := List.mem_map.mp hmem
  obtain hnone | hcurrent := h old hold
  · simp [hnone]
  · right
    rw [if_pos (hcurrent.trans hrequester)]
    rfl

theorem Desk.Held.requestPermissions (h : s.desk.Held) : s.requestPermissions.desk.Inv where
  held := by
    have hmapped := h.map (fun permission =>
      if permission.mInstalled then permission else { permission with mInstallingWithRequester := some s.next })
      (by intro permission; split <;> rfl) (by intro permission; split <;> rfl) (by intro permission; split <;> rfl)
      (by intro permission hin hnone; simpa [hin] using hnone) (some s.next)
    exact hmapped
  current := by
    intro permission hmem
    obtain ⟨old, hold, rfl⟩ := List.mem_map.mp hmem
    by_cases hin : old.mInstalled = true
    · left
      simpa [hin] using h.settled old hold hin
    · right
      simp [hin, TURNSocket.requestPermissions, TURNSocket.desk]

theorem requestPermissionsNow_inv (h : s.desk.Held) (now : Nat) : (s.requestPermissionsNow now).desk.Inv := by
  have hforgotten := h.forget none
  unfold requestPermissionsNow
  split
  · refine ⟨hforgotten.retain (List.nil_sublist _), fun permission hmem => ?_⟩
    cases hmem
  · apply Desk.Held.requestPermissions
    apply hforgotten.retain
    exact trim_sublist.trans List.filter_sublist

/-- The peers of the permissions that are being installed with a requester. -/
def installingPeers (s : TURNSocket) (requester : Nat) : List ICESocket.IPAddress :=
  (s.mPermissions.filter fun permission => permission.mInstallingWithRequester = some requester).map
    Permission.mPeerAddress

theorem mem_installingPeers (h : s.desk.Held) (requester : Nat) {permission : Permission}
    (hmem : permission ∈ s.mPermissions) :
    permission.mPeerAddress ∈ installingPeers s requester ↔ permission.mInstallingWithRequester = some requester := by
  constructor
  · intro hpeer
    obtain ⟨other, hother, hsame⟩ := List.mem_map.mp hpeer
    obtain ⟨hin, hinstalling⟩ := List.mem_filter.mp hother
    rw [List.inj_on_of_nodup_map h.nodup hmem hin hsame.symm]
    exact of_decide_eq_true hinstalling
  · intro hinstalling
    exact List.mem_map_of_mem (List.mem_filter.mpr ⟨hmem, decide_eq_true hinstalling⟩)

theorem office_install (h : s.desk.Held) (requester : Nat) :
    (s.install requester).desk.office = s.desk.office.deliver fun peer => peer ∈ installingPeers s requester := by
  have hfilter : (s.mPermissions.filter fun permission => permission.mPeerAddress ∈ installingPeers s requester) =
      s.mPermissions.filter fun permission => permission.mInstallingWithRequester = some requester := by
    apply List.filter_congr
    intro permission hmem
    simp [mem_installingPeers h requester hmem]
  simp only [Desk.office, TURNSocket.desk, install, Office.deliver, List.map_map, List.map_append]
  congr 1
  · apply List.map_congr_left
    intro permission hmem
    by_cases hinstalling : permission.mInstallingWithRequester = some requester
    · simp [hinstalling, (mem_installingPeers h requester hmem).mpr hinstalling]
    · have hnot := mt (mem_installingPeers h requester hmem).mp hinstalling
      simp [hinstalling, hnot]
  · congr 1
    rw [List.filter_map, List.flatMap_map]
    have hsame := congrArg (List.flatMap Permission.mPendingData) hfilter
    simpa [Function.comp_def] using hsame.symm

/-- What waits for the permissions that are installed is sent. -/
theorem Desk.Held.install (h : s.desk.Held) (requester : Nat) : (s.install requester).desk.Held where
  office := by
    rw [office_install h]
    exact h.office.deliver _
  emptied := by
    intro permission hmem hin
    obtain ⟨old, hold, rfl⟩ := List.mem_map.mp hmem
    by_cases hinstalling : old.mInstallingWithRequester = some requester
    · simp [hinstalling]
    · rw [if_neg hinstalling] at hin ⊢
      exact h.emptied old hold hin
  settled := by
    intro permission hmem hin
    obtain ⟨old, hold, rfl⟩ := List.mem_map.mp hmem
    by_cases hinstalling : old.mInstallingWithRequester = some requester
    · simp [hinstalling]
    · rw [if_neg hinstalling] at hin ⊢
      exact h.settled old hold hin
  known := by
    intro permission hmem hin
    obtain ⟨old, hold, rfl⟩ := List.mem_map.mp hmem
    by_cases hinstalling : old.mInstallingWithRequester = some requester
    · rw [if_pos hinstalling]
      exact List.mem_append_right _ ((mem_installingPeers h requester hold).mpr hinstalling)
    · rw [if_neg hinstalling] at hin ⊢
      exact List.mem_append_left _ (h.known old hold hin)
  permitted := by
    intro sending hmem
    obtain hold | hnew := List.mem_append.mp hmem
    · exact h.permitted sending hold
    · obtain ⟨packet, -, rfl⟩ := List.mem_map.mp hnew
      rfl

theorem current_install (h : s.desk.Current) (hrequester : s.mPermissionRequester = some requester) :
    Desk.Current (TURNSocket.desk { s.install requester with mPermissionRequester := none }) := by
  intro permission hmem
  obtain ⟨old, hold, rfl⟩ := List.mem_map.mp hmem
  obtain hnone | hcurrent := h old hold
  · simp [hnone]
  · left
    rw [if_pos (hcurrent.trans hrequester)]

variable {response : Response}

/-- The accounts survive every response of the current requester that is an error or signed. -/
theorem handlePermissionRequester_inv (h : s.desk.Inv)
    (hsigned : s.mPermissionRequester = some requester → response.isError = true ∨ response.isValidMessageIntegrity = true ∨ ∀ permission ∈ s.mPermissions, permission.mInstallingWithRequester ≠ some requester) :
    (s.handlePermissionRequester requester response).1.desk.Inv := by
  unfold handlePermissionRequester
  by_cases hrequester : s.mPermissionRequester = some requester
  · have hretry := desk_handleAuthorizationErrors s requester response
    generalize s.handleAuthorizationErrors requester response = retry at hretry ⊢
    obtain ⟨other, t⟩ := retry
    have ht : t.desk.Inv := hretry ▸ h
    have hcurrent : t.mPermissionRequester = some requester := (congrArg Desk.requester hretry).trans hrequester
    have hmoved : ∀ pointer, Desk.Inv (TURNSocket.desk
        { t.reinstall requester pointer with mPermissionRequester := pointer }) :=
      fun pointer => ⟨ht.held.reinstall requester pointer pointer, current_reinstall ht.current hcurrent pointer⟩
    simp only [hrequester, ne_eq, not_true_eq_false, if_false]
    cases other with
    | some next => exact hmoved (some next)
    | none =>
      by_cases herror : response.isError = true
      · have hreleased := hmoved none
        simp only [Option.isSome_none, Bool.false_eq_true, if_false, herror, if_true]
        split <;> exact hreleased
      · by_cases hvalid : response.isValidMessageIntegrity = true
        · have hinstalled : Desk.Held (TURNSocket.desk
              (install { t with mPermissionRequester := none } requester)) :=
            (ht.held.forget none).install requester
          simpa [herror, hvalid] using Desk.Inv.mk hinstalled (current_install ht.current hcurrent)
        · simp only [Option.isSome_none, Bool.false_eq_true, if_false, herror, hvalid, Bool.not_false, if_true]
          refine ⟨ht.held.forget none, fun permission hmem => ?_⟩
          have hpermissions : t.mPermissions = s.mPermissions := congrArg Desk.permissions hretry
          have hother := ((hsigned hrequester).resolve_left herror).resolve_left hvalid permission (hpermissions ▸ hmem)
          obtain hnone | hsame := ht.current permission hmem
          · exact .inl hnone
          · exact absurd (hsame.trans hcurrent) hother
  · rw [if_pos hrequester]
    exact h

theorem cancel_inv (h : s.desk.Inv) : s.cancel.desk.Inv := by
  unfold cancel
  split
  · exact h
  · have hempty : Desk.Inv (TURNSocket.desk { s.retain [] with mPermissionRequester := none }) := by
      refine ⟨(h.held.retain (List.nil_sublist _)).forget none, fun permission hmem => ?_⟩
      cases hmem
    dsimp only
    split <;> split <;> exact hempty

theorem step_inv (h : s.desk.Inv) (now : Nat) : (s.step now).desk.Inv := by
  unfold step
  split
  · exact cancel_inv h
  split
  · exact h
  · dsimp only
    rw [refreshChannels_desk]
    split
    · exact requestPermissionsNow_inv h.held now
    · exact h

theorem handleRefreshRequester_inv (h : s.desk.Inv) (requester : Nat) (response : Response) :
    (s.handleRefreshRequester requester response).1.desk.Inv := by
  have hretry := desk_handleAuthorizationErrors s requester response
  unfold handleRefreshRequester
  split
  · exact h
  · dsimp only
    split
    · apply cancel_inv
      exact hretry ▸ h
    · split <;> exact hretry ▸ h

theorem Desk.Inv.send (h : s.desk.Inv) {packet : Packet} (hnumber : packet.number = s.packets)
    (hpermitted : packet.peer ∈ s.permitted) :
    Desk.Inv (TURNSocket.desk { s.send packet with packets := s.packets + 1 }) where
  held :=
    { office := by
        have hoffice : Desk.office (TURNSocket.desk { s.send packet with packets := s.packets + 1 }) =
            s.desk.office.pass packet := by
          simp [Desk.office, TURNSocket.desk, TURNSocket.send, Office.pass]
        rw [hoffice]
        exact h.held.office.pass hnumber
      emptied := h.held.emptied
      settled := h.held.settled
      known := h.held.known
      permitted := by
        intro sending hmem
        obtain hold | hnew := List.mem_append.mp hmem
        · exact h.held.permitted sending hold
        · rw [List.mem_singleton.mp hnew]
          exact decide_eq_true hpermitted }
  current := h.current

theorem Desk.Inv.lose (h : s.desk.Inv) : Desk.Inv (TURNSocket.desk { s with packets := s.packets + 1 }) :=
  ⟨⟨h.held.office.lose, h.held.emptied, h.held.settled, h.held.known, h.held.permitted⟩, h.current⟩

variable {packet : Packet}

/-- A packet waits for a new permission. -/
theorem Desk.Inv.newPermission (h : s.desk.Inv) (hnumber : packet.number = s.packets)
    (hnew : packet.peer ∉ s.mPermissions.map Permission.mPeerAddress) (now : Nat) :
    Desk.Inv (TURNSocket.desk
      { s with
        packets := s.packets + 1
        mPermissions := s.mPermissions ++
          [{ mPeerAddress := packet.peer, mLastSentDataAt := now, mPendingData := [packet] }]
        queued := s.queued ++ [packet] }) := by
  have hmem : ∀ {permission}, permission ∈ s.mPermissions ++
      [{ mPeerAddress := packet.peer, mLastSentDataAt := now, mPendingData := [packet] }] →
      permission ∈ s.mPermissions ∨ permission.mInstalled = false ∧ permission.mInstallingWithRequester = none := by
    intro permission hin
    obtain hold | hnew := List.mem_append.mp hin
    · exact .inl hold
    · rw [List.mem_singleton.mp hnew]
      exact .inr ⟨rfl, rfl⟩
  refine ⟨⟨?_, ?_, ?_, ?_, h.held.permitted⟩, ?_⟩
  · have hwait := h.held.office.wait hnumber rfl
    have hboxes : put packet.peer packet s.desk.office.boxes = s.desk.office.boxes ++ [(packet.peer, [packet])] := by
      apply put_eq_append
      rwa [← Office.keys, office_keys]
    rw [Office.wait, hboxes] at hwait
    simpa [Desk.office, TURNSocket.desk] using hwait
  · intro permission hin hinstalled
    obtain hold | hnot := hmem hin
    · exact h.held.emptied permission hold hinstalled
    · rw [hnot.1] at hinstalled
      cases hinstalled
  · intro permission hin hinstalled
    obtain hold | hnot := hmem hin
    · exact h.held.settled permission hold hinstalled
    · exact hnot.2
  · intro permission hin hinstalled
    obtain hold | hnot := hmem hin
    · exact h.held.known permission hold hinstalled
    · rw [hnot.1] at hinstalled
      cases hinstalled
  · intro permission hin
    obtain hold | hnot := hmem hin
    · exact h.current permission hold
    · exact .inl hnot.2

/-- A packet waits for a permission that is not installed yet. -/
theorem Desk.Inv.queue (h : s.desk.Inv) (hnumber : packet.number = s.packets) {found : Permission}
    (hfound : found ∈ s.mPermissions) (hpeer : found.mPeerAddress = packet.peer)
    (hnot : found.mInstalled = false) (now : Nat) :
    Desk.Inv (TURNSocket.desk
      { s.changePermission packet.peer fun permission =>
          { permission with mLastSentDataAt := now, mPendingData := permission.mPendingData ++ [packet] } with
        packets := s.packets + 1
        queued := s.queued ++ [packet] }) := by
  have hsame : ∀ {old}, old ∈ s.mPermissions → old.mPeerAddress = packet.peer → old.mInstalled = false := by
    intro old hold hpeer'
    rw [List.inj_on_of_nodup_map h.held.nodup hold hfound (hpeer'.trans hpeer.symm)]
    exact hnot
  refine ⟨⟨?_, ?_, ?_, ?_, h.held.permitted⟩, ?_⟩
  · have hwait := h.held.office.wait hnumber rfl
    have hboxes := put_eq_map (k := packet.peer) h.held.office.keys
      (by rw [← Office.keys, office_keys]; exact hpeer ▸ List.mem_map_of_mem hfound) packet
    rw [Office.wait, hboxes] at hwait
    have hoffice : (s.desk.office.boxes.map fun box =>
        if box.1 = packet.peer then (box.1, box.2 ++ [packet]) else box) =
        (s.mPermissions.map fun permission =>
          if permission.mPeerAddress = packet.peer then
            { permission with mLastSentDataAt := now, mPendingData := permission.mPendingData ++ [packet] }
          else permission).map fun permission => (permission.mPeerAddress, permission.mPendingData) := by
      simp only [Desk.office, TURNSocket.desk, List.map_map]
      apply List.map_congr_left
      intro permission _
      by_cases hpeer : permission.mPeerAddress = packet.peer <;> simp [hpeer]
    rw [hoffice] at hwait
    exact hwait
  · intro permission hin hinstalled
    obtain ⟨old, hold, rfl⟩ := List.mem_map.mp hin
    by_cases hpeer : old.mPeerAddress = packet.peer
    · simp [hpeer, hsame hold hpeer] at hinstalled
    · rw [if_neg hpeer] at hinstalled ⊢
      exact h.held.emptied old hold hinstalled
  · intro permission hin hinstalled
    obtain ⟨old, hold, rfl⟩ := List.mem_map.mp hin
    by_cases hpeer : old.mPeerAddress = packet.peer
    · simp [hpeer, hsame hold hpeer] at hinstalled
    · rw [if_neg hpeer] at hinstalled ⊢
      exact h.held.settled old hold hinstalled
  · intro permission hin hinstalled
    obtain ⟨old, hold, rfl⟩ := List.mem_map.mp hin
    by_cases hpeer : old.mPeerAddress = packet.peer
    · simp [hpeer, hsame hold hpeer] at hinstalled
    · rw [if_neg hpeer] at hinstalled ⊢
      exact h.held.known old hold hinstalled
  · intro permission hin
    obtain ⟨old, hold, rfl⟩ := List.mem_map.mp hin
    have hcurrent := h.current old hold
    split <;> exact hcurrent

theorem Desk.Inv.touch (h : s.desk.Inv) (peer : ICESocket.IPAddress) (now : Nat) :
    Desk.Inv (TURNSocket.desk
      (s.changePermission peer fun permission => { permission with mLastSentDataAt := now })) := by
  refine ⟨?_, ?_⟩
  · apply h.held.map
    · intro permission
      split <;> rfl
    · intro permission
      split <;> rfl
    · intro permission
      split <;> rfl
    · intro permission _ hnone
      split <;> exact hnone
  · intro permission hin
    obtain ⟨old, hold, rfl⟩ := List.mem_map.mp hin
    have hcurrent := h.current old hold
    split <;> exact hcurrent

theorem sendIndication_inv (h : s.desk.Inv) (hnumber : packet.number = s.packets) (now : Nat) :
    Desk.Inv (TURNSocket.desk (sendIndication { s with packets := s.packets + 1 } packet now)) := by
  unfold sendIndication
  cases hfound : s.mPermissions.find? fun permission => permission.mPeerAddress = packet.peer with
  | none =>
    have hnew : packet.peer ∉ s.mPermissions.map Permission.mPeerAddress := by
      intro hmem
      obtain ⟨permission, hin, hpeer⟩ := List.mem_map.mp hmem
      simpa [hpeer] using List.find?_eq_none.mp hfound permission hin
    exact h.newPermission hnumber hnew now
  | some found =>
    have hin : found ∈ s.mPermissions := List.mem_of_find?_eq_some hfound
    have hpeer : found.mPeerAddress = packet.peer := by simpa using List.find?_some hfound
    by_cases hinstalled : found.mInstalled = true
    · simp only [hinstalled, if_true]
      have hpermitted : packet.peer ∈ s.permitted := hpeer ▸ h.held.known found hin hinstalled
      exact (h.touch packet.peer now).send hnumber hpermitted
    · have hnot : found.mInstalled = false := by simpa using hinstalled
      simp only [hnot, Bool.false_eq_true, if_false]
      exact h.queue hnumber hin hpeer hnot now

variable {t : TURNSocket}

theorem sendIndication_desk (h : s.desk = t.desk) (packet : Packet) (now : Nat) :
    (s.sendIndication packet now).desk = (t.sendIndication packet now).desk := by
  obtain ⟨hrequester, hpermissions, hpackets, hqueued, hsent, hdropped, hpermitted⟩ := Desk.mk.inj h
  unfold sendIndication
  rw [hpermissions]
  split
  · simp [TURNSocket.desk, hrequester, hpackets, hqueued, hsent, hdropped, hpermitted]
  · split <;>
      simp [TURNSocket.desk, changePermission, TURNSocket.send, hrequester, hpermissions, hpackets, hqueued,
        hsent, hdropped, hpermitted]

/-- Data may be sent on a channel that is bound only to a peer for which a permission was installed. -/
def TURNSocket.MaySend (s : TURNSocket) (destination : ICESocket.IPAddress) (length : Nat) : Prop :=
  s.mCurrentState = .ready → destination.address ≠ 0 → destination.port ≠ 0 → length ≠ 0 → length ≤ 65535 →
    ∀ i, s.boundTo destination = some i → destination ∈ s.permitted

theorem sendPacket_inv (h : s.desk.Inv) {destination : ICESocket.IPAddress} {length : Nat} {bindChannelIfPossible : Bool}
    {draws : Nat → Nat} {now : Nat} (hmay : s.MaySend destination length) :
    (s.sendPacket destination length bindChannelIfPossible draws now).desk.Inv := by
  unfold sendPacket
  split
  · exact h
  case isFalse hsends =>
    simp only [not_or, not_not, not_lt] at hsends
    obtain ⟨haddress, hport, hlength, hlimit, hready⟩ := hsends
    have hpermitted := hmay hready haddress hport hlength hlimit
    have hbound : boundTo { s with packets := s.packets + 1 } destination = s.boundTo destination := rfl
    dsimp only
    rw [hbound]
    cases hchannel : s.boundTo destination with
    | some i =>
      let packet : Packet := { peer := destination, number := s.packets }
      have hnumber : packet.number = s.packets := rfl
      exact h.send hnumber (hpermitted i hchannel)
    | none =>
      dsimp only
      split
      · have hbind := bindChannel_desk { s with packets := s.packets + 1 } destination draws now
        split
        · rw [hbind]
          exact h.lose
        · rw [sendIndication_desk hbind]
          exact sendIndication_inv h rfl now
      · split
        · exact h.lose
        · exact sendIndication_inv h rfl now

theorem handleRefreshRequester_desk {requester : Nat} {response : Response}
    (h : (s.handleRefreshRequester requester response).2 = false) :
    (s.handleRefreshRequester requester response).1.desk = s.desk := by
  have hretry := desk_handleAuthorizationErrors s requester response
  unfold handleRefreshRequester at h ⊢
  split
  · rfl
  case isFalse hrequester =>
    by_cases herror : response.isError = true
    · simp [hrequester, herror] at h
    · simp only [herror, Bool.false_eq_true, if_false]
      split <;> exact hretry

/-- The response is an error or signed when permissions are being installed with its requester. -/
def TURNSocket.Settles (s : TURNSocket) (requester : Nat) (response : Response) : Prop :=
  s.mPermissionRequester = some requester → response.isError = true ∨ response.isValidMessageIntegrity = true ∨
    ∀ permission ∈ s.mPermissions, permission.mInstallingWithRequester ≠ some requester

theorem settles_congr (h : s.desk = t.desk) (requester : Nat) (response : Response) :
    s.Settles requester response ↔ t.Settles requester response := by
  have hrequester : s.mPermissionRequester = t.mPermissionRequester := congrArg Desk.requester h
  have hpermissions : s.mPermissions = t.mPermissions := congrArg Desk.permissions h
  simp [TURNSocket.Settles, hrequester, hpermissions]

theorem handleSTUNRequesterResponse_inv (h : s.desk.Inv) (hsettles : s.Settles requester response) :
    (s.handleSTUNRequesterResponse requester response).desk.Inv := by
  have hallocate := handleAllocateRequester_desk s requester response
  unfold handleSTUNRequesterResponse
  dsimp only
  generalize s.handleAllocateRequester requester response = allocated at hallocate ⊢
  have hallocated : allocated.1.desk.Inv := hallocate ▸ h
  have hrefreshed := handleRefreshRequester_inv hallocated requester response
  have hkept := @handleRefreshRequester_desk allocated.1 requester response
  generalize allocated.1.handleRefreshRequester requester response = refreshed at hrefreshed hkept ⊢
  have hdealloc := handleDeallocRequester_desk refreshed.1 requester response
  generalize refreshed.1.handleDeallocRequester requester response = deallocated at hdealloc ⊢
  have hbind := handleChannelRequester_desk deallocated.1 requester response
  generalize deallocated.1.handleChannelRequester requester response = bound at hbind ⊢
  have hbound : bound.1.desk = refreshed.1.desk := hbind.trans hdealloc
  split
  · rw [complete_desk]
    exact hallocated
  split
  · rw [complete_desk]
    exact hrefreshed
  case isFalse hnot =>
    have hsame : s.desk = bound.1.desk :=
      hallocate.symm.trans ((hkept (by simpa using hnot)).symm.trans hbound.symm)
    have hinstalled := handlePermissionRequester_inv (hsame ▸ h) ((settles_congr hsame requester response).mp hsettles)
    split
    · rw [complete_desk, hdealloc]
      exact hrefreshed
    split
    · rw [complete_desk, hbound]
      exact hrefreshed
    · split
      · rw [complete_desk]
        exact hinstalled
      · exact hinstalled

theorem onSTUNRequesterTimedOut_inv (h : s.desk.Inv) (requester now : Nat) :
    (s.onSTUNRequesterTimedOut requester now).desk.Inv := by
  unfold onSTUNRequesterTimedOut
  split
  · exact h
  split
  · apply step_inv
    exact h
  split
  · apply cancel_inv
    exact h
  split
  · rw [complete_desk]
    apply cancel_inv
    exact h
  split
  case isTrue hrequester =>
    apply step_inv
    exact ⟨h.held.reinstall requester none none, current_reinstall h.current hrequester none⟩
  · split <;> exact h

/-- When an event keeps what is promised of the data. -/
def TURNSocket.Orders (s : TURNSocket) : Event → Prop
  | .sendPacket destination length _ _ _ => s.MaySend destination length
  | .handleSTUNRequesterResponse requester response => s.Settles requester response
  | _ => True

theorem take_inv (h : s.desk.Inv) {e : Event} (horders : s.Orders e) : (s.take e).desk.Inv := by
  unfold take
  split
  · exact h
  cases e with
  | prepareServers servers =>
    dsimp only
    split <;> exact h
  | activateServer place => exact (activateServer_desk s place).symm ▸ h
  | eraseServer place => exact h
  | onWake now => exact step_inv h now
  | sendPacket destination length bindChannelIfPossible draws now => exact sendPacket_inv h horders
  | handleSTUNRequesterResponse requester response => exact handleSTUNRequesterResponse_inv h horders
  | onSTUNRequesterTimedOut requester now => exact onSTUNRequesterTimedOut_inv h requester now
  | refreshTimer =>
    dsimp only
    split <;> exact h
  | permissionTimer now =>
    dsimp only
    split
    · exact h
    · exact step_inv (requestPermissionsNow_inv h.held now) now
  | channelTimer channel =>
    dsimp only
    split
    · exact h
    · exact (channelTimer_desk s channel).symm ▸ h
  | deallocTimer =>
    dsimp only
    split
    · exact cancel_inv h
    · exact h
  | shutdown => exact cancel_inv h

end Keeping

open TURNSocketRelay.TURNSocket (create take)

/-- What is promised of the data. -/
structure DataWaits (s : TURNSocket) : Prop where
  /-- Data leaves for a peer when a permission for it was installed. -/
  permitted : ∀ sending ∈ s.sent, sending.permitted = true
  /-- Data waits with the permission of its peer. -/
  owned : ∀ permission ∈ s.mPermissions, ∀ packet ∈ permission.mPendingData, packet.peer = permission.mPeerAddress
  /-- What had to wait was sent, was removed with its permission, or still waits. -/
  found : ∀ packet ∈ s.queued, packet ∈ s.sent.map Sending.packet ∨ packet ∈ s.dropped ∨
    packet ∈ s.mPermissions.flatMap Permission.mPendingData
  once : (s.sent.map Sending.packet ++ (s.dropped ++ s.mPermissions.flatMap Permission.mPendingData)).Nodup
  /-- What had to wait for a permission is sent in order. -/
  ordered : ∀ peer, ((s.sent.map Sending.packet).filter fun packet => packet.peer = peer ∧ packet ∈ s.queued).Pairwise
    fun packet packet' => packet.number < packet'.number
  emptied : ∀ permission ∈ s.mPermissions, permission.mInstalled = true → permission.mPendingData = []
  current : ∀ permission ∈ s.mPermissions,
    permission.mInstallingWithRequester = none ∨ permission.mInstallingWithRequester = s.mPermissionRequester

theorem Desk.Inv.dataWaits {s : TURNSocket} (h : s.desk.Inv) : DataWaits s := by
  have hwaiting : s.desk.office.waiting = s.mPermissions.flatMap Permission.mPendingData := by
    simp [Office.waiting, Desk.office, TURNSocket.desk, List.flatMap_map]
  have hall : s.desk.office.all =
      s.sent.map Sending.packet ++ (s.dropped ++ s.mPermissions.flatMap Permission.mPendingData) := by
    rw [Office.all, hwaiting]
    rfl
  constructor
  · exact h.held.permitted
  · intro permission hmem
    apply h.held.office.owned (permission.mPeerAddress, permission.mPendingData)
    exact List.mem_map_of_mem hmem
  · intro packet hqueued
    have hfound := h.held.office.found packet hqueued
    rw [hall] at hfound
    simpa only [List.mem_append] using hfound
  · rw [← hall]
    exact h.held.office.once
  · intro peer
    exact (List.pairwise_append.mp (h.held.office.ordered peer)).1
  · exact h.held.emptied
  · exact h.current

theorem create_inv (range : ChannelRange) (useChannelBinding : Bool) (username password : String) :
    (create range useChannelBinding username password).desk.Inv where
  held :=
    { office := orderly_empty
      emptied := by simp [create, TURNSocket.desk]
      settled := by simp [create, TURNSocket.desk]
      known := by simp [create, TURNSocket.desk]
      permitted := by simp [create, TURNSocket.desk] }
  current := by simp [create, TURNSocket.desk, Desk.Current]

/-- A server accepts the allocation, data is sent to a peer, and the socket asks for the permission. -/
def asksPermission : List Event :=
  [.prepareServers [{ mIsUDP := true, mServerIP := ⟨1, 3478⟩, mActivateAfter := 0 }], .activateServer 0,
    .handleSTUNRequesterResponse 0 { isValidMessageIntegrity := true, mRelayedAddress := ⟨2, 50000⟩ },
    .sendPacket ⟨3, 4000⟩ 1 true (fun _ => 0) 0, .onWake 0]

/-- The socket after the request was sent and further events happened. -/
def afterAsking (es : List Event) : TURNSocket :=
  Runs.run take (create ⟨0x4000, 0x7FFF, by decide⟩ true "user" "password") (asksPermission ++ es)

end OpenPeer.TURNSocketRelay
