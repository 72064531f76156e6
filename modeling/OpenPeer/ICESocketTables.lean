import OpenPeer.ICESocketBinding
import OpenPeer.Index

/-!
# The tables of an ICE socket

Each of the four tables indexes the local sockets by a key of theirs. What is done to one
local socket, by STUN, by TURN and when it is closed, keeps them so.
-/
namespace OpenPeer.ICESocket

open Index

section Tables

def socketKey (l : LocalSocket) : Option Pointer := l.mSocket.map some

def localIPKey (l : LocalSocket) : Option IPAddress := l.mSocket.map fun _ => l.mLocal

def turnKey (l : LocalSocket) : Option Pointer := l.mTURNSocket.map some

def stunKey (l : LocalSocket) : Option Pointer := l.mSTUNDiscovery.map some

/-- Only a local socket with a UDP socket has a TURN socket and a discovery, and all objects are allocated. -/
structure Well (allocated i : Nat) (l : LocalSocket) : Prop where
  idle : l.mSocket = none → l.mTURNSocket = none ∧ l.mSTUNDiscovery = none
  unused : allocated ≤ i → l.mSocket = none
  socket_lt : ∀ n, l.mSocket = some n → n < allocated
  turn_lt : ∀ n, l.mTURNSocket = some n → n < allocated
  stun_lt : ∀ n, l.mSTUNDiscovery = some n → n < allocated

theorem Well.mono {allocated allocated' i : Nat} {l : LocalSocket} (h : Well allocated i l)
    (hle : allocated ≤ allocated') : Well allocated' i l where
  idle := h.idle
  unused hi := h.unused (Nat.le_trans hle hi)
  socket_lt n hn := Nat.lt_of_lt_of_le (h.socket_lt n hn) hle
  turn_lt n hn := Nat.lt_of_lt_of_le (h.turn_lt n hn) hle
  stun_lt n hn := Nat.lt_of_lt_of_le (h.stun_lt n hn) hle

/-- The tables lead to the local sockets by their keys. -/
structure Tables (sockets : AList fun _ : Pointer => Nat) (localIPs : AList fun _ : IPAddress => Nat)
    (turns stuns : AList fun _ : Pointer => Nat) (localSockets : Nat → LocalSocket) (allocated : Nat) : Prop where
  sockets : Indexes sockets fun i => socketKey (localSockets i)
  localIPs : Indexes localIPs fun i => localIPKey (localSockets i)
  turns : Indexes turns fun i => turnKey (localSockets i)
  stuns : Indexes stuns fun i => stunKey (localSockets i)
  well : ∀ i, Well allocated i (localSockets i)

def Sound (s : ICESocket) : Prop :=
  Tables s.mSockets s.mSocketLocalIPs s.mSocketTURNs s.mSocketSTUNs s.localSockets s.allocated

/-- The local socket has a UDP socket that is open. -/
def Live (s : ICESocket) (i : Nat) : Prop := (s.localSockets i).mSocket ≠ none

/-- The tables describe the same local sockets, the live ones, and have no null key. -/
structure Agree (s : ICESocket) : Prop where
  mSockets : ∀ socket i, s.mSockets.lookup socket = some i ↔
    Live s i ∧ socket ≠ none ∧ (s.localSockets i).mSocket = socket
  mSocketLocalIPs : ∀ ip i, s.mSocketLocalIPs.lookup ip = some i ↔ Live s i ∧ (s.localSockets i).mLocal = ip
  mSocketTURNs : ∀ turn i, s.mSocketTURNs.lookup turn = some i ↔
    Live s i ∧ turn ≠ none ∧ (s.localSockets i).mTURNSocket = turn
  mSocketSTUNs : ∀ stun i, s.mSocketSTUNs.lookup stun = some i ↔
    Live s i ∧ stun ≠ none ∧ (s.localSockets i).mSTUNDiscovery = stun

theorem map_some_eq {pointer key : Pointer} : pointer.map some = some key ↔ key ≠ none ∧ pointer = key := by
  cases pointer with
  | none =>
    simp only [Option.map_none, reduceCtorEq, false_iff, not_and]
    exact fun hkey heq => hkey heq.symm
  | some n =>
    simp only [Option.map_some, Option.some.injEq]
    constructor
    · rintro rfl
      exact ⟨Option.some_ne_none n, rfl⟩
    · exact fun h => h.2

theorem Sound.agree {s : ICESocket} (h : Sound s) : Agree s where
  mSockets socket i := by
    refine (h.sockets socket i).trans (map_some_eq.trans ⟨fun hkey => ?_, fun hkey => hkey.2⟩)
    exact ⟨fun hnone => hkey.1 (hkey.2 ▸ hnone), hkey⟩
  mSocketLocalIPs ip i := by
    apply (h.localIPs ip i).trans
    simp only [localIPKey, Live]
    cases (s.localSockets i).mSocket with
    | none => simp
    | some n => simp
  mSocketTURNs turn i := by
    refine (h.turns turn i).trans (map_some_eq.trans ⟨fun hkey => ?_, fun hkey => hkey.2⟩)
    exact ⟨fun hnone => hkey.1 (hkey.2 ▸ ((h.well i).idle hnone).1), hkey⟩
  mSocketSTUNs stun i := by
    refine (h.stuns stun i).trans (map_some_eq.trans ⟨fun hkey => ?_, fun hkey => hkey.2⟩)
    exact ⟨fun hnone => hkey.1 (hkey.2 ▸ ((h.well i).idle hnone).2), hkey⟩

end Tables

section Changes

variable {s : ICESocket} {i : Nat}

theorem Sound.allocate (h : Sound s) : Sound s.allocate :=
  ⟨h.sockets, h.localIPs, h.turns, h.stuns, fun i => (h.well i).mono (Nat.le_succ _)⟩

theorem well_update {allocated : Nat} {localSockets : Nat → LocalSocket} {l : LocalSocket}
    (h : ∀ j, Well allocated j (localSockets j)) (hl : Well allocated i l) (j : Nat) :
    Well allocated j (Function.update localSockets i l j) :=
  (Function.forall_update_iff localSockets fun j l => Well allocated j l).mpr ⟨hl, fun j _ => h j⟩ j

theorem Sound.edit (h : Sound s) {f : LocalSocket → LocalSocket}
    (hsocket : (f (s.localSockets i)).mSocket = (s.localSockets i).mSocket)
    (hlocal : (f (s.localSockets i)).mLocal = (s.localSockets i).mLocal)
    (hturn : (f (s.localSockets i)).mTURNSocket = (s.localSockets i).mTURNSocket)
    (hstun : (f (s.localSockets i)).mSTUNDiscovery = (s.localSockets i).mSTUNDiscovery) : Sound (s.edit i f) where
  sockets := h.sockets.update (by rw [socketKey, hsocket, socketKey])
  localIPs := h.localIPs.update (by rw [localIPKey, hsocket, hlocal, localIPKey])
  turns := h.turns.update (by rw [turnKey, hturn, turnKey])
  stuns := h.stuns.update (by rw [stunKey, hstun, stunKey])
  well := by
    apply well_update h.well
    have hwell := h.well i
    constructor
    · rw [hsocket, hturn, hstun]
      exact hwell.idle
    · rw [hsocket]
      exact hwell.unused
    · rw [hsocket]
      exact hwell.socket_lt
    · rw [hturn]
      exact hwell.turn_lt
    · rw [hstun]
      exact hwell.stun_lt

theorem Sound.resetTURN (h : Sound s) : Sound (s.resetTURN i) := by
  have hwell := h.well i
  have hrest : Well s.allocated i { s.localSockets i with mTURNSocket := none } :=
    { hwell with
      idle := fun hnone => ⟨rfl, (hwell.idle hnone).2⟩
      turn_lt := by simp }
  unfold ICESocket.resetTURN clearTURN
  split
  next hnone => exact h.edit rfl rfl (hnone ▸ rfl) rfl
  next hturn =>
    exact ⟨h.sockets.update rfl, h.localIPs.update rfl, h.turns.erase_update (map_some_eq.mpr ⟨hturn, rfl⟩) rfl,
      h.stuns.update rfl, well_update h.well hrest⟩

theorem Sound.resetSTUN (h : Sound s) : Sound (s.resetSTUN i) := by
  have hwell := h.well i
  have hrest : Well s.allocated i { s.localSockets i with mSTUNDiscovery := none } :=
    { hwell with
      idle := fun hnone => ⟨(hwell.idle hnone).1, rfl⟩
      stun_lt := by simp }
  unfold ICESocket.resetSTUN clearSTUN
  split
  next hnone => exact h.edit rfl rfl rfl (hnone ▸ rfl)
  next hstun =>
    exact ⟨h.sockets.update rfl, h.localIPs.update rfl, h.turns.update rfl,
      h.stuns.erase_update (map_some_eq.mpr ⟨hstun, rfl⟩) rfl, well_update h.well hrest⟩

/-- A local socket without TURN socket and discovery is closed, and leaves both tables it is in. -/
theorem Sound.closeSocket {socket : Pointer} (h : Sound s) (hsocket : s.mSockets.lookup socket = some i)
    (hturn : (s.localSockets i).mTURNSocket = none) (hstun : (s.localSockets i).mSTUNDiscovery = none) :
    Sound (({ s with mSocketLocalIPs := s.mSocketLocalIPs.erase (s.localSockets i).mLocal }).closeSocket socket i) := by
  have hwell := h.well i
  have hkey : (s.localSockets i).mSocket.map some = some socket := (h.sockets socket i).mp hsocket
  have hlocal : localIPKey (s.localSockets i) = some (s.localSockets i).mLocal := by
    rw [localIPKey]
    cases hopen : (s.localSockets i).mSocket with
    | none => simp [hopen] at hkey
    | some n => rfl
  refine ⟨h.sockets.erase_update hkey rfl, h.localIPs.erase_update hlocal rfl, h.turns.update rfl,
    h.stuns.update rfl, well_update h.well ?_⟩
  exact ⟨fun _ => ⟨hturn, hstun⟩, fun _ => rfl, by simp, hwell.turn_lt, hwell.stun_lt⟩

theorem lookup_of_live (h : Sound s) (hlive : Live s i) : s.mSockets.lookup (s.localSockets i).mSocket = some i :=
  (h.sockets _ i).mpr (map_some_eq.mpr ⟨hlive, rfl⟩)

theorem isOpen_of_live (h : Sound s) (hlive : Live s i) : s.isOpen (s.localSockets i).mLocal = true := by
  have hmem := AList.mem_lookup_iff.mp (lookup_of_live h hlive)
  exact List.any_eq_true.mpr ⟨_, hmem, by simp⟩

/-- A local socket is added for an address that no open socket has. -/
theorem Sound.addLocalSocket {bindIP : IPAddress} (h : Sound s) (hopen : s.isOpen bindIP = false) :
    Sound (s.addLocalSocket bindIP) := by
  have hnone : (s.localSockets s.allocated).mSocket = none := (h.well s.allocated).unused (Nat.le_refl _)
  obtain ⟨hturn, hstun⟩ := (h.well s.allocated).idle hnone
  have hsocket : ∀ j, socketKey (s.localSockets j) ≠ some (some (s.allocated + 1)) := by
    intro j hj
    have hlt := (h.well j).socket_lt _ (map_some_eq.mp hj).2
    omega
  have hlocal : ∀ j, localIPKey (s.localSockets j) ≠ some bindIP := by
    intro j hj
    rw [localIPKey, Option.map_eq_some_iff] at hj
    obtain ⟨n, hn, hip⟩ := hj
    have hother := isOpen_of_live h (show Live s j by rw [Live, hn]; exact Option.some_ne_none n)
    rw [hip, hopen] at hother
    cases hother
  have hadded : Well (s.allocated + 2) s.allocated { mSocket := some (s.allocated + 1), mLocal := bindIP } := by
    constructor
    · simp
    · intro hle
      omega
    · intro n hn
      simp only [Option.some.injEq] at hn
      omega
    · simp
    · simp
  exact ⟨h.sockets.insert_update hsocket (by rw [socketKey, hnone]; rfl) rfl,
    h.localIPs.insert_update hlocal (by rw [localIPKey, hnone]; rfl) rfl,
    h.turns.update (by rw [turnKey, turnKey, hturn]), h.stuns.update (by rw [stunKey, stunKey, hstun]),
    well_update (fun j => (h.well j).mono (Nat.le_add_right _ 2)) hadded⟩

theorem Sound.createTURN (h : Sound s) (hlive : Live s i) (hturn : (s.localSockets i).mTURNSocket = none) :
    Sound (s.createTURN i) := by
  have hwell := (h.well i).mono (Nat.le_succ s.allocated)
  have hnew : ∀ j, turnKey (s.localSockets j) ≠ some (some s.allocated) := by
    intro j hj
    have hlt := (h.well j).turn_lt _ (map_some_eq.mp hj).2
    omega
  have hcreated : Well (s.allocated + 1) i { s.localSockets i with mTURNSocket := some s.allocated } := by
    refine { hwell with idle := fun hnone => absurd hnone hlive, turn_lt := ?_ }
    intro n hn
    simp only [Option.some.injEq] at hn
    omega
  exact ⟨h.sockets.update rfl, h.localIPs.update rfl, h.turns.insert_update hnew (by rw [turnKey, hturn]; rfl) rfl,
    h.stuns.update rfl, well_update (fun j => (h.well j).mono (Nat.le_succ _)) hcreated⟩

def Configured (s : ICESocket) : Prop := s.mSTUNSRVResult = true ∨ s.mSTUNServer ≠ ""

theorem discover_eq (h : Configured s) (i : Nat) : ∃ stun allocated, s.allocated ≤ stun ∧ stun < allocated ∧
    s.discover i = { s with
      allocated := allocated
      localSockets := Function.update s.localSockets i
        { s.localSockets i with mReflexive := {}, mSTUNDiscovery := some stun }
      mSocketSTUNs := s.mSocketSTUNs.insert (some stun) i } := by
  cases hresult : s.mSTUNSRVResult with
  | false =>
    have hserver : s.mSTUNServer ≠ "" := h.resolve_left (by simp [hresult])
    refine ⟨s.allocated, s.allocated + 1, Nat.le_refl _, Nat.lt_succ_self _, ?_⟩
    simp [discover, createDiscovery, ICESocket.edit, ICESocket.allocate, hresult, hserver]
  | true =>
    by_cases hserver : s.mSTUNServer = ""
    · refine ⟨s.allocated, s.allocated + 1, Nat.le_refl _, Nat.lt_succ_self _, ?_⟩
      simp [discover, createDiscovery, ICESocket.edit, ICESocket.allocate, hresult, hserver]
    · refine ⟨s.allocated + 1, s.allocated + 2, Nat.le_succ _, Nat.lt_succ_self _, ?_⟩
      simp [discover, createDiscovery, ICESocket.edit, ICESocket.allocate, hresult, hserver]

theorem Sound.discover (h : Sound s) (hconfigured : Configured s) (hlive : Live s i)
    (hstun : (s.localSockets i).mSTUNDiscovery = none) : Sound (s.discover i) := by
  obtain ⟨stun, allocated, hle, hlt, heq⟩ := discover_eq hconfigured i
  have hgrown := Nat.le_of_lt (Nat.lt_of_le_of_lt hle hlt)
  have hwell := (h.well i).mono hgrown
  have hnew : ∀ j, stunKey (s.localSockets j) ≠ some (some stun) := by
    intro j hj
    have hold := (h.well j).stun_lt _ (map_some_eq.mp hj).2
    omega
  have hdiscovered : Well allocated i { s.localSockets i with mReflexive := {}, mSTUNDiscovery := some stun } := by
    refine ⟨fun hnone => absurd hnone hlive, hwell.unused, hwell.socket_lt, hwell.turn_lt, fun n hn => ?_⟩
    simp only [Option.some.injEq] at hn
    omega
  rw [heq]
  exact ⟨h.sockets.update rfl, h.localIPs.update rfl, h.turns.update rfl,
    h.stuns.insert_update hnew (by rw [stunKey, hstun]; rfl) rfl,
    well_update (fun j => (h.well j).mono hgrown) hdiscovered⟩

end Changes

section Servers

/-- The tables still lead to the local sockets, of which there are as many, and the servers are the same. -/
structure Steady (s s' : ICESocket) : Prop where
  sound : Sound s'
  mSockets : s'.mSockets = s.mSockets
  mSTUNSRVResult : s'.mSTUNSRVResult = s.mSTUNSRVResult
  mSTUNServer : s'.mSTUNServer = s.mSTUNServer

variable {s s' s'' : ICESocket} {i : Nat} {socket : Pointer} {around : Surroundings}

theorem Steady.refl (h : Sound s) : Steady s s := ⟨h, rfl, rfl, rfl⟩

theorem Steady.trans (h : Steady s s') (h' : Steady s' s'') : Steady s s'' where
  sound := h'.sound
  mSockets := h'.mSockets.trans h.mSockets
  mSTUNSRVResult := h'.mSTUNSRVResult.trans h.mSTUNSRVResult
  mSTUNServer := h'.mSTUNServer.trans h.mSTUNServer

theorem Steady.configured (h : Steady s s') (hconfigured : Configured s) : Configured s' := by
  rw [Configured, h.mSTUNSRVResult, h.mSTUNServer]
  exact hconfigured

theorem Steady.lookup (h : Steady s s') (hlookup : s.mSockets.lookup socket = some i) :
    s'.mSockets.lookup socket = some i := by
  rw [h.mSockets]
  exact hlookup

section

variable (h : Sound s)
include h

theorem live_of_lookup (hlookup : s.mSockets.lookup socket = some i) : Live s i := by
  have hkey := map_some_eq.mp ((h.sockets socket i).mp hlookup)
  rw [Live, hkey.2]
  exact hkey.1

theorem steady_edit {f : LocalSocket → LocalSocket}
    (hsocket : (f (s.localSockets i)).mSocket = (s.localSockets i).mSocket)
    (hlocal : (f (s.localSockets i)).mLocal = (s.localSockets i).mLocal)
    (hturn : (f (s.localSockets i)).mTURNSocket = (s.localSockets i).mTURNSocket)
    (hstun : (f (s.localSockets i)).mSTUNDiscovery = (s.localSockets i).mSTUNDiscovery) : Steady s (s.edit i f) :=
  ⟨h.edit hsocket hlocal hturn hstun, rfl, rfl, rfl⟩

theorem steady_resetTURN : Steady s (s.resetTURN i) := by
  refine ⟨h.resetTURN, ?_, ?_, ?_⟩
  all_goals
    unfold resetTURN clearTURN
    split
    · rfl
    · rfl

theorem steady_resetSTUN : Steady s (s.resetSTUN i) := by
  refine ⟨h.resetSTUN, ?_, ?_, ?_⟩
  all_goals
    unfold resetSTUN clearSTUN
    split
    · rfl
    · rfl

theorem steady_discover (hconfigured : Configured s) (hlookup : s.mSockets.lookup socket = some i)
    (hstun : (s.localSockets i).mSTUNDiscovery = none) : Steady s (s.discover i) := by
  have hsound := h.discover hconfigured (live_of_lookup h hlookup) hstun
  obtain ⟨stun, allocated, -, -, heq⟩ := discover_eq hconfigured i
  exact ⟨hsound, by rw [heq], by rw [heq], by rw [heq]⟩

theorem steady_reflect : Steady s (s.reflect around i) := by
  unfold reflect
  split
  · exact .refl h
  · split
    · exact steady_edit h rfl rfl rfl rfl
    · exact .refl h

theorem steady_stepSTUNSocket (hconfigured : Configured s) (socket : Pointer) :
    Steady s (stepSTUNSocket around s socket) := by
  unfold stepSTUNSocket
  cases hlookup : s.mSockets.lookup socket with
  | none => exact .refl h
  | some i =>
    dsimp only
    split
    next hstun =>
      have hdiscover := steady_discover h hconfigured hlookup hstun
      exact hdiscover.trans (steady_reflect hdiscover.sound)
    next => exact steady_reflect h

theorem steady_stepSTUN (hconfigured : Configured s) : Steady s (s.stepSTUN around) := by
  unfold stepSTUN
  generalize around.order s.mSockets.keys = sockets
  induction sockets generalizing s with
  | nil => exact .refl h
  | cons socket sockets ih =>
    have hfirst := @steady_stepSTUNSocket _ around h hconfigured socket
    exact hfirst.trans (ih hfirst.sound (hfirst.configured hconfigured))

theorem steady_retryTURN : Steady s (s.retryTURN i) := by
  unfold retryTURN
  split
  · have hallocate : Steady s s.allocate := ⟨h.allocate, rfl, rfl, rfl⟩
    exact hallocate.trans (steady_edit hallocate.sound rfl rfl rfl rfl)
  · exact .refl h

end

theorem steady_contactTURN {ending : TURNEnding} (h : Sound s) (hlookup : s.mSockets.lookup socket = some i)
    (hturn : (s.localSockets i).mTURNSocket = none) : Steady s (s.contactTURN around i ending).1 := by
  have hrelay : Steady s (s.edit i fun localSocket => { localSocket with mRelay := {} }) :=
    steady_edit h rfl rfl rfl rfl
  have hnone : ((s.edit i fun localSocket => { localSocket with mRelay := {} }).localSockets i).mTURNSocket = none := by
    simpa [edit] using hturn
  unfold contactTURN
  split
  · exact .refl h
  split
  · exact .refl h
  dsimp only
  split
  · split
    · exact hrelay
    · have hlive := live_of_lookup hrelay.sound (hrelay.lookup hlookup)
      exact hrelay.trans ⟨hrelay.sound.createTURN hlive hnone, rfl, rfl, rfl⟩
  · exact hrelay.trans (steady_retryTURN hrelay.sound)

theorem steady_checkTURN {turn : Nat} (h : Sound s) : Steady s (s.checkTURN around i turn).1 := by
  unfold checkTURN
  split
  · exact .refl h
  · exact .refl h
  · dsimp only
    exact steady_edit h rfl rfl rfl rfl
  · have hreset : Steady s (s.resetTURN i) := steady_resetTURN h
    dsimp only
    exact hreset.trans (steady_edit hreset.sound rfl rfl rfl rfl)

theorem steady_wakeTURN (h : Sound s) (hlookup : s.mSockets.lookup socket = some i) :
    Steady s (s.wakeTURN around i).1 := by
  unfold wakeTURN
  cases hturn : (s.localSockets i).mTURNSocket with
  | none => exact steady_contactTURN h hlookup hturn
  | some turn =>
    have hcheck : Steady s (s.checkTURN around i turn).1 := steady_checkTURN h
    dsimp only
    split
    next hnone => exact hcheck.trans (steady_contactTURN hcheck.sound (hcheck.lookup hlookup) hnone)
    next => exact hcheck

theorem steady_sleepTURN (h : Sound s) : Steady s (s.sleepTURN around i).1 := by
  unfold sleepTURN
  split
  · exact .refl h
  · split
    · exact .refl h
    · exact steady_resetTURN h

theorem steady_stepTURNSocket (h : Sound s) (shouldSleep : Bool) (socket : Pointer) :
    Steady s (stepTURNSocket around shouldSleep s socket).1 := by
  unfold stepTURNSocket
  cases hlookup : s.mSockets.lookup socket with
  | none => exact .refl h
  | some i =>
    dsimp only
    split
    · exact steady_sleepTURN h
    · exact steady_wakeTURN h hlookup

theorem steady_stepTURNSockets (h : Sound s) (shouldSleep : Bool) (sockets : List Pointer) (all : Bool) :
    Steady s (stepTURNSockets around shouldSleep sockets s all).1 := by
  induction sockets generalizing s all with
  | nil => exact .refl h
  | cons socket sockets ih =>
    have hfirst := @steady_stepTURNSocket _ around h shouldSleep socket
    rw [stepTURNSockets]
    split
    next s' heq =>
      rw [heq] at hfirst
      exact hfirst
    next s' heq =>
      rw [heq] at hfirst
      exact hfirst.trans (ih hfirst.sound false)
    next s' heq =>
      rw [heq] at hfirst
      exact hfirst.trans (ih hfirst.sound all)

theorem steady_stepTURN (h : Sound s) : Steady s (s.stepTURN around).1 := by
  unfold stepTURN
  split
  · have hsleep := @steady_stepTURNSockets { s with mTURNShutdownIfNotUsedBy := 600000 } around h true
      (around.order s.mSockets.keys) true
    dsimp only
    split
    next s' heq =>
      rw [heq] at hsleep
      exact { hsleep with }
    next s' allSleeping heq =>
      rw [heq] at hsleep
      exact { hsleep with }
  · exact steady_stepTURNSockets h false _ true

end Servers

section Closing

variable {s : ICESocket} {socket : Pointer} {around : Surroundings}

@[simp] theorem resetTURN_localSockets_turn (s : ICESocket) (i : Nat) :
    ((s.resetTURN i).localSockets i).mTURNSocket = none := by
  simp [resetTURN, edit]

theorem resetTURN_localSockets_stun (s : ICESocket) (i : Nat) :
    ((s.resetTURN i).localSockets i).mSTUNDiscovery = (s.localSockets i).mSTUNDiscovery := by
  unfold resetTURN clearTURN
  split
  · simp [edit]
  · simp [edit]

@[simp] theorem resetSTUN_localSockets_stun (s : ICESocket) (i : Nat) :
    ((s.resetSTUN i).localSockets i).mSTUNDiscovery = none := by
  simp [resetSTUN, edit]

/-- Sound tables with the same servers. -/
structure Reduced (s s' : ICESocket) : Prop where
  sound : Sound s'
  keys : ∀ socket ∈ s'.mSockets.keys, socket ∈ s.mSockets.keys
  mSTUNSRVResult : s'.mSTUNSRVResult = s.mSTUNSRVResult
  mSTUNServer : s'.mSTUNServer = s.mSTUNServer

theorem reduced_cancelSocket (h : Sound s) (socket : Pointer) : Reduced s (cancelSocket around s socket) := by
  unfold cancelSocket
  cases hlookup : s.mSockets.lookup socket with
  | none => exact ⟨h, fun _ h => h, rfl, rfl⟩
  | some i =>
    dsimp only
    have htimer : Steady s (s.edit i fun localSocket => { localSocket with mTURNRetryTimer := none }) :=
      steady_edit h rfl rfl rfl rfl
    have hstun := htimer.trans (steady_resetSTUN (i := i) htimer.sound)
    have hturn := hstun.trans (steady_resetTURN (i := i) hstun.sound)
    split
    · exact ⟨hstun.sound, fun _ hmem => hstun.mSockets ▸ hmem, hstun.mSTUNSRVResult, hstun.mSTUNServer⟩
    · refine ⟨hturn.sound.closeSocket (hturn.lookup hlookup) (resetTURN_localSockets_turn _ i) ?_, ?_,
        hturn.mSTUNSRVResult, hturn.mSTUNServer⟩
      · rw [resetTURN_localSockets_stun, resetSTUN_localSockets_stun]
      · intro key hkey
        rw [← hturn.mSockets]
        exact (AList.mem_erase.mp hkey).2

theorem reduced_cancelSockets (h : Sound s) (sockets : List Pointer) :
    Reduced s (sockets.foldl (cancelSocket around) s) := by
  induction sockets generalizing s with
  | nil => exact ⟨h, fun _ hmem => hmem, rfl, rfl⟩
  | cons socket sockets ih =>
    have hfirst := @reduced_cancelSocket _ around h socket
    have hrest := ih hfirst.sound
    exact ⟨hrest.sound, fun key hkey => hfirst.keys key (hrest.keys key hkey),
      hrest.mSTUNSRVResult.trans hfirst.mSTUNSRVResult, hrest.mSTUNServer.trans hfirst.mSTUNServer⟩

/-- The tables are sound, and without a server for STUN no socket is bound. -/
structure Inv (s : ICESocket) : Prop where
  sound : Sound s
  configured : Configured s ∨ s.mSockets.keys = []

theorem Inv.steady {s' : ICESocket} (h : Inv s) (hsteady : Steady s s') : Inv s' where
  sound := hsteady.sound
  configured := by
    rw [hsteady.mSockets]
    exact h.configured.imp_left hsteady.configured

theorem Inv.reduced {s' : ICESocket} (h : Inv s) (hreduced : Reduced s s') : Inv s' where
  sound := hreduced.sound
  configured := by
    cases h.configured with
    | inl hconfigured =>
      left
      rw [Configured, hreduced.mSTUNSRVResult, hreduced.mSTUNServer]
      exact hconfigured
    | inr hempty =>
      right
      apply List.eq_nil_iff_forall_not_mem.mpr
      intro socket hsocket
      have hmem := hreduced.keys socket hsocket
      rw [hempty] at hmem
      cases hmem

theorem Inv.cancel (h : Inv s) : Inv (s.cancel around) := by
  unfold ICESocket.cancel
  split
  · exact h
  have hclosing : Inv { s.setState .shuttingDown with mRebindTimer := none } := ⟨h.sound, h.configured⟩
  have hreduced := @reduced_cancelSockets _ around hclosing.sound (around.order s.mSockets.keys)
  have hcancelled := hclosing.reduced hreduced
  dsimp only
  split
  next => exact hcancelled
  next hkeys => exact ⟨hcancelled.sound, .inr (not_not.mp hkeys)⟩

end Closing

end OpenPeer.ICESocket
