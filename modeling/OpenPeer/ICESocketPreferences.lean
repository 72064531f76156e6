import OpenPeer.ICESocketInterfaces
import OpenPeer.ICECandidates
import OpenPeer.Runs

/-!
# The local preferences of an ICE socket

Each local socket that is bound gets the next local preference, which is fifteen less than
the one before; below zero it is meant to be folded back into sixteen bits. The priorities
of the candidates of the local socket are computed from it.
-/
namespace OpenPeer.ICESocket

section Priorities

variable {w : Nat}

/-- The local preference after the one that was given; the width is that of `ULONG`. -/
def nextPreference (mNextLocalPreference : BitVec w) : BitVec w :=
  let less := mNextLocalPreference - 0xF#w
  if 0xFFFF#w < less then (less - 1#w) ||| 0xFFFF#w else less

def priority (type : Types) (localPreference componentID : UInt16) : UInt32 :=
  ((1 : UInt32) <<< 24) * type.toCode + ((1 : UInt32) <<< 8) * localPreference.toUInt32 + (256 - componentID.toUInt32)

/-- The candidates of a local socket, and the local preference that it was given. -/
structure LocalCandidates (w : Nat) where
  nextLocalPreference : BitVec w
  mLocal : Candidate
  mReflexive : Candidate
  mRelay : Candidate

/-- A candidate with a local preference that is cut to sixteen bits. -/
def newCandidate (type : Types) (componentID : UInt16) (nextLocalPreference : BitVec w) : Candidate :=
  let localPreference := UInt16.ofBitVec (nextLocalPreference.setWidth 16)
  { mType := type
    mComponentID := componentID
    mLocalPreference := localPreference
    mPriority := priority type localPreference componentID }

/-- `LocalSocket::LocalSocket` -/
def newLocalSocket (componentID : UInt16) (nextLocalPreference : BitVec w) : LocalCandidates w where
  nextLocalPreference := nextLocalPreference
  mLocal := newCandidate .typeLocal componentID nextLocalPreference
  mReflexive := newCandidate .typeServerReflexive componentID nextLocalPreference
  mRelay := newCandidate .typeRelayed componentID nextLocalPreference

/-- The local preference of the socket after so many. -/
def preference (w : Nat) : Nat → BitVec w
  | 0 => 0xFFFF#w
  | n + 1 => nextPreference (preference w n)

/-- The priority in exact arithmetic. -/
def exactPriority (type : Types) (localPreference componentID : Nat) : Nat :=
  2 ^ 24 * type.toCode.toNat + 2 ^ 8 * localPreference + (256 - componentID)

variable (type : Types)

theorem toCode_le : type.toCode.toNat ≤ 126 := by
  cases type
  all_goals decide

theorem priority_exact (localPreference componentID : UInt16) (hlow : 1 ≤ componentID.toNat)
    (hhigh : componentID.toNat ≤ 256) :
    (priority type localPreference componentID).toNat = exactPriority type localPreference.toNat componentID.toNat := by
  have htype := toCode_le type
  have hpref := localPreference.toNat_lt
  have hcomponent : (256 - componentID.toUInt32 : UInt32).toNat = 256 - componentID.toNat := by
    rw [UInt32.toNat_sub_of_le]
    · rfl
    · rw [UInt32.le_iff_toNat_le, UInt16.toNat_toUInt32]
      exact hhigh
  have hshift : ((1 : UInt32) <<< 24).toNat = 2 ^ 24 := by decide
  have hshift' : ((1 : UInt32) <<< 8).toNat = 2 ^ 8 := by decide
  rw [priority, exactPriority, UInt32.toNat_add, UInt32.toNat_add, UInt32.toNat_mul, UInt32.toNat_mul, hcomponent,
    hshift, hshift', UInt16.toNat_toUInt32]
  omega

variable {localPreference componentID : Nat}

theorem exactPriority_lt (hpref : localPreference < 2 ^ 16) (hlow : 1 ≤ componentID) :
    exactPriority type localPreference componentID < 2 ^ 32 := by
  have htype := toCode_le type
  unfold exactPriority
  omega

theorem exactPriority_type {type type' : Types} {localPreference' componentID' : Nat}
    (htype : type'.toCode.toNat < type.toCode.toNat) (hpref : localPreference' < 2 ^ 16)
    (hlow : 1 ≤ componentID') :
    exactPriority type' localPreference' componentID' < exactPriority type localPreference componentID := by
  unfold exactPriority
  omega

variable {k : Nat}

theorem not_or_ffff (hk : k < 2 ^ 16) : ~~~(BitVec.ofNat w k) ||| 0xFFFF#w = BitVec.allOnes w := by
  apply BitVec.eq_of_getLsbD_eq
  intro i hi
  simp only [BitVec.getLsbD_or, BitVec.getLsbD_not, BitVec.getLsbD_ofNat, BitVec.getLsbD_allOnes, hi, decide_true,
    Bool.true_and]
  by_cases hlow : i < 16
  · have hset : Nat.testBit 65535 i = true := by
      have hones : (65535 : Nat) = 2 ^ 16 - 1 := by decide
      rw [hones, Nat.testBit_two_pow_sub_one]
      exact decide_eq_true hlow
    rw [hset, Bool.or_true]
  · have hclear : Nat.testBit k i = false :=
      Nat.testBit_lt_two_pow (Nat.lt_of_lt_of_le hk (Nat.pow_le_pow_right (by decide) (Nat.le_of_not_lt hlow)))
    rw [hclear]
    rfl

theorem lt_two_pow (hw : 16 < w) (hk : k < 2 ^ 17) : k < 2 ^ w :=
  Nat.lt_of_lt_of_le hk (Nat.pow_le_pow_right (by decide) hw)

theorem nextPreference_ofNat (hw : 16 < w) (hlow : 15 ≤ k) (hhigh : k ≤ 65535) :
    nextPreference (BitVec.ofNat w k) = BitVec.ofNat w (k - 15) := by
  have hless : BitVec.ofNat w k - 0xF#w = BitVec.ofNat w (k - 15) := by
    apply BitVec.eq_of_toNat_eq
    have hk := lt_two_pow hw (show k < 2 ^ 17 by omega)
    simp only [BitVec.toNat_sub, BitVec.toNat_ofNat, Nat.mod_eq_of_lt hk,
      Nat.mod_eq_of_lt (lt_two_pow hw (show 15 < 2 ^ 17 by decide)), Nat.mod_eq_of_lt (show k - 15 < 2 ^ w by omega)]
    have hsum : 2 ^ w - 15 + k = (k - 15) + 2 ^ w := by
      have h15 := lt_two_pow hw (show 15 < 2 ^ 17 by decide)
      omega
    rw [hsum, Nat.add_mod_right, Nat.mod_eq_of_lt (by omega)]
  have hbelow : ¬0xFFFF#w < BitVec.ofNat w (k - 15) := by
    rw [BitVec.lt_def, BitVec.toNat_ofNat, BitVec.toNat_ofNat, Nat.mod_eq_of_lt (lt_two_pow hw (by decide)),
      Nat.mod_eq_of_lt (lt_two_pow hw (by omega))]
    omega
  rw [nextPreference, hless]
  exact if_neg hbelow

/-- Below zero all bits are set, and they stay so. -/
theorem nextPreference_wrapped (hw : 16 < w) (hk : k < 2 ^ 16 - 1) (hhigh : 2 ^ 16 ≤ 2 ^ w - (k + 1))
    {p : BitVec w} (hp : p - 0xF#w = ~~~(BitVec.ofNat w k)) : nextPreference p = BitVec.allOnes w := by
  have hwrapped : 0xFFFF#w < ~~~(BitVec.ofNat w k) := by
    rw [BitVec.lt_def, BitVec.toNat_not, BitVec.toNat_ofNat, BitVec.toNat_ofNat,
      Nat.mod_eq_of_lt (lt_two_pow hw (by decide)), Nat.mod_eq_of_lt (lt_two_pow hw (by omega))]
    omega
  have hless : ~~~(BitVec.ofNat w k) - 1#w = ~~~(BitVec.ofNat w (k + 1)) := by
    rw [BitVec.not_eq_neg_add, BitVec.not_eq_neg_add, BitVec.ofNat_add]
    grind
  rw [nextPreference, hp, if_pos hwrapped, hless, not_or_ffff (by omega)]

theorem nextPreference_zero (hw : 16 < w) : nextPreference 0#w = BitVec.allOnes w := by
  have hfits := lt_two_pow hw (show 2 ^ 16 + 15 < 2 ^ 17 by decide)
  apply nextPreference_wrapped hw (k := 14) (by decide) (by omega)
  rw [BitVec.not_eq_neg_add]
  grind

theorem nextPreference_allOnes (hw : 16 < w) : nextPreference (BitVec.allOnes w) = BitVec.allOnes w := by
  have hfits := lt_two_pow hw (show 2 ^ 16 + 16 < 2 ^ 17 by decide)
  exact nextPreference_wrapped hw (k := 15) (by decide) (by omega) (BitVec.allOnes_sub_eq_not _)

variable {n : Nat}

theorem preference_of_le (hw : 16 < w) (hn : n ≤ 4369) : preference w n = BitVec.ofNat w (65535 - 15 * n) := by
  induction n with
  | zero => rfl
  | succ n ih =>
    rw [preference, ih (by omega), nextPreference_ofNat hw (by omega) (by omega)]
    congr 1

theorem preference_of_gt (hw : 16 < w) (hn : 4369 < n) : preference w n = BitVec.allOnes w := by
  induction n with
  | zero => omega
  | succ n ih =>
    rw [preference]
    by_cases hlast : n = 4369
    · rw [hlast, preference_of_le hw (Nat.le_refl _)]
      exact nextPreference_zero hw
    · rw [ih (by omega)]
      exact nextPreference_allOnes hw

theorem preference_toNat (hw : 16 < w) (hn : n ≤ 4369) : (preference w n).toNat = 65535 - 15 * n := by
  rw [preference_of_le hw hn, BitVec.toNat_ofNat]
  exact Nat.mod_eq_of_lt (lt_two_pow hw (by omega))

end Priorities

section Runs

variable {w : Nat}

/-- An ICE socket with the preference that is next, and the local sockets that were bound, the first one first. -/
structure Preferring (w : Nat) where
  socket : ICESocket
  mComponentID : UInt16
  mNextLocalPreference : BitVec w := 0xFFFF#w
  bound : List (LocalCandidates w) := []

/-- A socket is bound on the interface, which is not found. -/
def binds (s : ICESocket) (port : Nat) (ip : Interface) : Bool :=
  (s.mSocketLocalIPs.lookup ⟨ip.address, s.mBindPort⟩).isNone &&
    ip.bind.any fun free => grantedPort port free ≠ 0 && !s.isOpen ⟨ip.address, grantedPort port free⟩

/-- One address of `stepBind`, which gives the preference that is next to a socket that it binds. -/
def Preferring.bindLocalIP (port : Nat) (p : Preferring w) (ip : Interface) : Preferring w :=
  if p.socket.binds port ip then
    { p with
      socket := ICESocket.bindLocalIP port p.socket ip
      mNextLocalPreference := nextPreference p.mNextLocalPreference
      bound := p.bound ++ [newLocalSocket p.mComponentID p.mNextLocalPreference] }
  else { p with socket := ICESocket.bindLocalIP port p.socket ip }

/-- A call, with the sockets that are bound when it goes through the addresses. -/
def Preferring.take (p : Preferring w) (call : Event × Surroundings) : Preferring w :=
  match p.socket.searches call with
  | none => { p with socket := p.socket.take call }
  | some t =>
    { call.2.localIPs.foldl (Preferring.bindLocalIP t.mBindPort) { p with socket := t.checkedNow } with
      socket := p.socket.take call }

theorem binds_iff {s : ICESocket} {port : Nat} {ip : Interface} :
    s.binds port ip = true ↔ CanBind s port ip ∧ ¬Found s ip := by
  unfold binds CanBind Found
  cases s.mSocketLocalIPs.lookup ⟨ip.address, s.mBindPort⟩ with
  | none => simp [Option.any_eq_true]
  | some i => simp

/-- Each socket that was bound has the preference of its turn. -/
structure Numbered (componentID : UInt16) (p : Preferring w) : Prop where
  mComponentID : p.mComponentID = componentID
  next : p.mNextLocalPreference = preference w p.bound.length
  bound : p.bound = (List.range p.bound.length).map fun n => newLocalSocket componentID (preference w n)

variable {componentID : UInt16} {p : Preferring w}

theorem Numbered.withSocket (h : Numbered componentID p) (s : ICESocket) :
    Numbered componentID { p with socket := s } := { h with }

theorem Numbered.bindLocalIP (h : Numbered componentID p) (port : Nat) (ip : Interface) :
    Numbered componentID (p.bindLocalIP port ip) := by
  unfold Preferring.bindLocalIP
  split
  · have hlength : (p.bound ++ [newLocalSocket p.mComponentID p.mNextLocalPreference]).length = p.bound.length + 1 := by
      simp
    refine ⟨h.mComponentID, ?_, ?_⟩
    · rw [hlength, h.next]
      rfl
    · rw [hlength, List.range_succ, List.map_append, ← h.bound, h.mComponentID, h.next]
      rfl
  · exact h.withSocket _

theorem Numbered.bindLocalIPs (h : Numbered componentID p) (port : Nat) (ips : List Interface) :
    Numbered componentID (ips.foldl (Preferring.bindLocalIP port) p) := by
  induction ips generalizing p with
  | nil => exact h
  | cons ip ips ih => exact ih (h.bindLocalIP port ip)

theorem Numbered.take (h : Numbered componentID p) (call : Event × Surroundings) :
    Numbered componentID (p.take call) := by
  unfold Preferring.take
  split
  · exact h.withSocket _
  · exact ((h.withSocket _).bindLocalIPs _ _).withSocket _

theorem numbered_run (s : ICESocket) (componentID : UInt16) (calls : List (Event × Surroundings)) :
    Numbered componentID
      (Runs.run Preferring.take ({ socket := s, mComponentID := componentID } : Preferring w) calls) :=
  Runs.run_invariant_always (Numbered componentID) (fun _ call h => h.take call) _ calls ⟨rfl, rfl, rfl⟩

def LocalCandidates.candidates (l : LocalCandidates w) : List Candidate := [l.mLocal, l.mReflexive, l.mRelay]

/-- The preferences that were given are in sixteen bits, the priorities are exact, preferences of sockets that are
bound soon after each other differ, and a more preferred type has the higher priority. -/
structure Prioritised (bound : List (LocalCandidates w)) : Prop where
  inRange : ∀ l ∈ bound, l.nextLocalPreference.toNat ≤ 0xFFFF
  exact : ∀ l ∈ bound, ∀ candidate ∈ l.candidates, candidate.mPriority.toNat =
    exactPriority candidate.mType l.nextLocalPreference.toNat candidate.mComponentID.toNat
  fits : ∀ l ∈ bound, ∀ candidate ∈ l.candidates,
    exactPriority candidate.mType l.nextLocalPreference.toNat candidate.mComponentID.toNat < 2 ^ 32
  differ : ∀ i j, i < j → j < i + 65536 → ∀ l l', bound[i]? = some l → bound[j]? = some l' →
    l.mLocal.mLocalPreference ≠ l'.mLocal.mLocalPreference
  ordered : ∀ l ∈ bound, ∀ l' ∈ bound, ∀ candidate ∈ l.candidates, ∀ candidate' ∈ l'.candidates,
    candidate'.mType.toCode.toNat < candidate.mType.toCode.toNat → candidate'.mPriority < candidate.mPriority

variable {l : LocalCandidates w} {n : Nat}

theorem mem_candidates (hl : l = newLocalSocket componentID (preference w n)) {candidate : Candidate}
    (hmem : candidate ∈ l.candidates) :
    candidate = newCandidate candidate.mType componentID (preference w n) := by
  subst hl
  simp only [LocalCandidates.candidates, newLocalSocket, List.mem_cons, List.not_mem_nil, or_false] at hmem
  rcases hmem with rfl | rfl | rfl
  · rfl
  · rfl
  · rfl

theorem newCandidate_toNat (type : Types) (componentID : UInt16) (nextLocalPreference : BitVec w) :
    (newCandidate type componentID nextLocalPreference).mLocalPreference.toNat =
      nextLocalPreference.toNat % 2 ^ 16 := by
  show (nextLocalPreference.setWidth 16).toNat = _
  rw [BitVec.toNat_setWidth]

theorem localPreference_toNat (hw : 16 < w) (type : Types) (componentID : UInt16) (hn : n ≤ 4369) :
    (newCandidate type componentID (preference w n)).mLocalPreference.toNat = (preference w n).toNat := by
  rw [newCandidate_toNat, preference_toNat hw hn]
  omega

theorem localPreference_again (hw : 16 < w) (type : Types) (componentID : UInt16) :
    (newCandidate type componentID (preference w 0)).mLocalPreference =
      (newCandidate type componentID (preference w 4370)).mLocalPreference := by
  apply UInt16.toNat_inj.mp
  rw [newCandidate_toNat, newCandidate_toNat, preference_toNat hw (by decide), preference_of_gt hw (by decide),
    BitVec.toNat_allOnes]
  have hdvd : 2 ^ w = 2 ^ 16 * 2 ^ (w - 16) := by
    rw [← Nat.pow_add]
    congr 1
    omega
  have hpos : 0 < 2 ^ (w - 16) := Nat.two_pow_pos _
  omega

theorem mPriority_newCandidate (hw : 16 < w) (hlow : 1 ≤ componentID.toNat)
    (hhigh : componentID.toNat ≤ 256) (type : Types) (hn : n ≤ 4369) :
    (newCandidate type componentID (preference w n)).mPriority.toNat =
      exactPriority type (preference w n).toNat componentID.toNat := by
  have hpref := localPreference_toNat hw type componentID hn
  show (priority type (newCandidate type componentID (preference w n)).mLocalPreference componentID).toNat = _
  rw [priority_exact type _ componentID hlow hhigh, hpref]

theorem getElem?_numbered {i : Nat}
    (h : ((List.range n).map fun n => newLocalSocket componentID (preference w n))[i]? = some l) :
    i < n ∧ l = newLocalSocket componentID (preference w i) := by
  rw [List.getElem?_map, Option.map_eq_some_iff] at h
  obtain ⟨k, hk, hl⟩ := h
  obtain ⟨hi, rfl⟩ := List.getElem?_eq_some_iff.mp hk
  rw [List.length_range] at hi
  rw [List.getElem_range] at hl
  exact ⟨hi, hl.symm⟩

theorem prioritised_of_le (hw : 16 < w) (hlow : 1 ≤ componentID.toNat) (hhigh : componentID.toNat ≤ 256)
    (hn : n ≤ 4370) :
    Prioritised ((List.range n).map fun n => newLocalSocket componentID (preference w n)) := by
  have hmem : ∀ l ∈ (List.range n).map (fun n => newLocalSocket componentID (preference w n)),
      ∃ i, i ≤ 4369 ∧ l = newLocalSocket componentID (preference w i) := by
    intro l hl
    obtain ⟨i, hi, rfl⟩ := List.mem_map.mp hl
    have hlt := List.mem_range.mp hi
    exact ⟨i, by omega, rfl⟩
  have hexact : ∀ i, i ≤ 4369 → ∀ candidate ∈ (newLocalSocket componentID (preference w i)).candidates,
      candidate.mPriority.toNat = exactPriority candidate.mType (preference w i).toNat candidate.mComponentID.toNat ∧
        candidate.mComponentID = componentID := by
    intro i hi candidate hcandidate
    have heq := mem_candidates rfl hcandidate
    have hpriority := mPriority_newCandidate hw hlow hhigh candidate.mType hi
    rw [← heq] at hpriority
    have hcomponent : candidate.mComponentID = componentID := congrArg Candidate.mComponentID heq
    rw [hcomponent]
    exact ⟨hpriority, rfl⟩
  have hpref : ∀ i, i ≤ 4369 → (preference w i).toNat < 2 ^ 16 := by
    intro i hi
    rw [preference_toNat hw hi]
    omega
  constructor
  · intro l hl
    obtain ⟨i, hi, rfl⟩ := hmem l hl
    exact Nat.le_of_lt_succ (hpref i hi)
  · intro l hl candidate hcandidate
    obtain ⟨i, hi, rfl⟩ := hmem l hl
    exact (hexact i hi candidate hcandidate).1
  · intro l hl candidate hcandidate
    obtain ⟨i, hi, rfl⟩ := hmem l hl
    rw [(hexact i hi candidate hcandidate).2]
    exact exactPriority_lt candidate.mType (hpref i hi) hlow
  · intro i j hij _ l l' hl hl' hsame
    obtain ⟨hi, rfl⟩ := getElem?_numbered hl
    obtain ⟨hj, rfl⟩ := getElem?_numbered hl'
    have hnat := congrArg UInt16.toNat hsame
    change (newCandidate _ _ _).mLocalPreference.toNat = (newCandidate _ _ _).mLocalPreference.toNat at hnat
    rw [localPreference_toNat hw _ _ (by omega), localPreference_toNat hw _ _ (by omega),
      preference_toNat hw (by omega), preference_toNat hw (by omega)] at hnat
    omega
  · intro l hl l' hl' candidate hcandidate candidate' hcandidate' htype
    obtain ⟨i, hi, rfl⟩ := hmem l hl
    obtain ⟨j, hj, rfl⟩ := hmem l' hl'
    obtain ⟨hpriority, -⟩ := hexact i hi candidate hcandidate
    obtain ⟨hpriority', hcomponent'⟩ := hexact j hj candidate' hcandidate'
    rw [UInt32.lt_iff_toNat_lt, hpriority, hpriority']
    exact exactPriority_type htype (hpref j hj) (by rw [hcomponent']; exact hlow)

theorem not_prioritised_of_gt (hw : 16 < w) (componentID : UInt16) (hn : 4370 < n) :
    ¬Prioritised ((List.range n).map fun n => newLocalSocket componentID (preference w n)) := by
  intro h
  have hget : ∀ i, i < n → ((List.range n).map fun n => newLocalSocket componentID (preference w n))[i]? =
      some (newLocalSocket componentID (preference w i)) := by
    intro i hi
    rw [List.getElem?_map, List.getElem?_range hi]
    rfl
  exact h.differ 0 4370 (by decide) (by decide) _ _ (hget 0 (by omega)) (hget 4370 hn)
    (localPreference_again hw .typeLocal componentID)

/-- The priorities are as they should be in the runs in which at most 4370 sockets are bound, and in no other. -/
theorem priorities_iff (hw : 16 < w) (s : ICESocket) (componentID : UInt16) (hlow : 1 ≤ componentID.toNat)
    (hhigh : componentID.toNat ≤ 256) (calls : List (Event × Surroundings)) :
    let p := Runs.run Preferring.take ({ socket := s, mComponentID := componentID } : Preferring w) calls
    Prioritised p.bound ↔ p.bound.length ≤ 4370 := by
  intro p
  have hnumbered : Numbered componentID p := numbered_run s componentID calls
  rw [hnumbered.bound, List.length_map, List.length_range]
  constructor
  · intro h
    by_contra hmore
    exact not_prioritised_of_gt hw componentID (Nat.lt_of_not_le hmore) h
  · exact prioritised_of_le hw hlow hhigh

section Many

theorem isOpen_false_of_lookup {s : ICESocket} (h : Kept s) {ip : IPAddress}
    (hnone : s.mSocketLocalIPs.lookup ip = none) : s.isOpen ip = false := by
  by_contra hopen
  obtain ⟨i, hlive, rfl⟩ := (isOpen_iff h ip).mp (Bool.not_eq_false _ ▸ hopen)
  rw [h.localIPs i hlive] at hnone
  cases hnone

/-- On interfaces that are new and can be bound a socket each is bound, with the port that is asked for. -/
theorem length_bindLocalIPs {port : Nat} (hport : port ≠ 0) (ips : List Interface) (p : Preferring w)
    (hkept : Kept p.socket) (hknown : p.socket.mBindPort = port) (hset : (ips.map Interface.address).Nodup)
    (hfree : ∀ ip ∈ ips, ip.bind ≠ none ∧ p.socket.mSocketLocalIPs.lookup ⟨ip.address, port⟩ = none) :
    (ips.foldl (Preferring.bindLocalIP port) p).bound.length = p.bound.length + ips.length := by
  induction ips generalizing p with
  | nil => rfl
  | cons ip ips ih =>
    obtain ⟨hip, hset⟩ := List.nodup_cons.mp hset
    obtain ⟨hbind, hlookup⟩ := hfree ip List.mem_cons_self
    obtain ⟨free, hsome⟩ := Option.ne_none_iff_exists'.mp hbind
    have hcan : CanBind p.socket port ip := by
      refine ⟨free, hsome, grantedPort_ne_zero.mpr (.inl hport), ?_⟩
      rw [grantedPort, if_neg hport]
      exact isOpen_false_of_lookup hkept hlookup
    have hnot : ¬Found p.socket ip := by
      rw [Found, hknown, hlookup]
      decide
    obtain ⟨bindPort, hsame, hne, hopen, heq⟩ := bindLocalIP_bound hcan hnot
    rw [hsame hport] at hopen heq
    have hported : Kept { p.socket with mBindPort := port } :=
      { hkept with }
    have hadded : p.bindLocalIP port ip = { p with
        socket := ({ p.socket with mBindPort := port }).addLocalSocket ⟨ip.address, port⟩
        mNextLocalPreference := nextPreference p.mNextLocalPreference
        bound := p.bound ++ [newLocalSocket p.mComponentID p.mNextLocalPreference] } := by
      rw [Preferring.bindLocalIP, if_pos (binds_iff.mpr ⟨hcan, hnot⟩), heq]
    rw [List.foldl_cons, hadded, ih _ (hported.addLocalSocket hopen hport) rfl hset]
    · simp only [List.length_append, List.length_cons, List.length_nil]
      omega
    · intro ip' hip'
      obtain ⟨hbind', hlookup'⟩ := hfree ip' (List.mem_cons_of_mem ip hip')
      have hother : (⟨ip'.address, port⟩ : IPAddress) ≠ ⟨ip.address, port⟩ := by
        intro hsame
        have haddress : ip'.address = ip.address := congrArg IPAddress.address hsame
        exact hip (haddress ▸ List.mem_map_of_mem hip')
      exact ⟨hbind', (AList.lookup_insert_ne hother).trans hlookup'⟩

/-- So many interfaces, on all of which sockets can be bound. -/
def interfaces (n : Nat) : Surroundings := { quiet with localIPs := (List.range n).map fun i => ⟨i, some 5000⟩ }

theorem length_interfaces (n : Nat) : (Runs.run Preferring.take
    ({ socket := create "turn" "stun" 5000 0, mComponentID := 1 } : Preferring w)
      [(.stepped, interfaces n)]).bound.length = n := by
  have hkept := kept_new (.create "turn" "stun" 5000 0)
  have hset : ((interfaces n).localIPs.map Interface.address).Nodup := by
    have haddresses : (interfaces n).localIPs.map Interface.address = List.range n := by
      rw [interfaces, List.map_map]
      exact List.map_id _
    rw [haddresses]
    exact List.nodup_range
  have hported : (5000 : Nat) ≠ 0 := by decide
  have hlength := @length_bindLocalIPs w 5000 hported (interfaces n).localIPs
    { socket := create "turn" "stun" 5000 0, mComponentID := 1 } hkept rfl hset
  have hsome : (interfaces n).localIPs.length = n := by simp [interfaces]
  rw [hsome] at hlength
  refine (hlength ?_).trans (Nat.zero_add n)
  intro ip hip
  obtain ⟨i, -, rfl⟩ := List.mem_map.mp hip
  exact ⟨Option.some_ne_none 5000, rfl⟩

end Many

end Runs

section Samples

/-- With 4371 interfaces the last socket has the preference of the first one. -/
theorem priorities_of_many : ¬Prioritised (Runs.run Preferring.take
    ({ socket := create "turn" "stun" 5000 0, mComponentID := 1 } : Preferring 64)
      [(.stepped, interfaces 4371)]).bound := by
  have hnumbered := numbered_run (w := 64) (create "turn" "stun" 5000 0) 1 [(.stepped, interfaces 4371)]
  rw [hnumbered.bound, length_interfaces 4371]
  exact not_prioritised_of_gt (by decide) 1 (by decide)

theorem priorities_iff_one :
    let p := Runs.run Preferring.take ({ socket := create "turn" "stun" 5000 0, mComponentID := 1 } : Preferring 32)
      [(.stepped, interfaces 1)]
    Prioritised p.bound ↔ p.bound.length ≤ 4370 :=
  priorities_iff (by decide) (create "turn" "stun" 5000 0) 1 (by decide) (by decide) [(.stepped, interfaces 1)]

end Samples

end OpenPeer.ICESocket
