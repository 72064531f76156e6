import OpenPeer.ICESocketBinding
import OpenPeer.Taking

/-!
# The list of the TURN servers

The addresses of the two look-ups are put into one list of servers in turn, and first two of
UDP. An address is extracted from the look-up that gave it. When a look-up whose turn it is
has no more address, what is left of the other is not put into the list.
-/
namespace OpenPeer.TURNSocketServers

open Taking

/-- `OPENPEER_SERVICES_TURN_ACTIVATE_NEXT_SERVER_IN_SECONDS` in milliseconds. -/
def activateNextServer : Nat := 4000

structure SRVRecord where
  mAResult : Option (List ICESocket.IPAddress) := none
  mAAAAResult : Option (List ICESocket.IPAddress) := none
  deriving DecidableEq

/-- A result by its records. -/
abbrev SRVResult := List SRVRecord

def isValid (ip : ICESocket.IPAddress) : Bool := ip.address ≠ 0 && ip.port ≠ 0

/-- The first address of a record: of the A result, or of the AAAA result when that has none. -/
def SRVRecord.extract (record : SRVRecord) : Option (ICESocket.IPAddress × SRVRecord) :=
  match record.mAResult with
  | some (ip :: ips) => some (ip, { record with mAResult := some ips })
  | _ =>
    match record.mAAAAResult with
    | some (ip :: ips) => some (ip, { mAResult := none, mAAAAResult := some ips })
    | _ => none

/-- A record without addresses is popped. -/
def extractNextIP : SRVResult → Option ICESocket.IPAddress × SRVResult
  | [] => (none, [])
  | record :: records =>
    match record.extract with
    | some (ip, rest) => (some ip, rest :: records)
    | none => extractNextIP records

def SRVRecord.addresses (record : SRVRecord) : List ICESocket.IPAddress :=
  record.mAResult.getD [] ++ record.mAAAAResult.getD []

/-- All addresses of a result, in the order they are extracted in. -/
def addresses (srv : SRVResult) : List ICESocket.IPAddress := srv.flatMap SRVRecord.addresses

theorem SRVRecord.extract_none {record : SRVRecord} (h : record.extract = none) : record.addresses = [] := by
  obtain ⟨_ | _ | ⟨ip, ips⟩, _ | _ | ⟨ip', ips'⟩⟩ := record <;> simp_all [extract, addresses]

variable {ip : ICESocket.IPAddress}

theorem SRVRecord.extract_some {record rest : SRVRecord} (h : record.extract = some (ip, rest)) :
    record.addresses = ip :: rest.addresses := by
  obtain ⟨_ | _ | ⟨ip', ips⟩, _ | _ | ⟨ip', ips'⟩⟩ := record <;> simp_all [extract, addresses] <;>
    · obtain ⟨-, rfl⟩ := h
      simp

theorem extractNextIP_eq (srv : SRVResult) :
    (extractNextIP srv).1 = (addresses srv).head? ∧ addresses (extractNextIP srv).2 = (addresses srv).tail := by
  induction srv with
  | nil => simp [extractNextIP, addresses]
  | cons record records ih =>
    cases hextract : record.extract with
    | none =>
      have hnone := SRVRecord.extract_none hextract
      simp only [extractNextIP, hextract, addresses, List.flatMap_cons, hnone, List.nil_append]
      exact ih
    | some extracted =>
      obtain ⟨ip, rest⟩ := extracted
      have hsome := SRVRecord.extract_some hextract
      simp [extractNextIP, hextract, addresses, hsome]

/-- What `stepGetNextServer` is called with: the addresses that were added, and the result if there is one. -/
structure LookUp where
  previouslyAdded : List ICESocket.IPAddress := []
  srv : Option SRVResult

namespace LookUp

def remaining (lookUp : LookUp) : List ICESocket.IPAddress := addresses (lookUp.srv.getD [])

def extract (lookUp : LookUp) : Option ICESocket.IPAddress × LookUp :=
  match lookUp.srv with
  | none => (none, lookUp)
  | some srv => ((extractNextIP srv).1, { lookUp with srv := some (extractNextIP srv).2 })

theorem extract_eq (lookUp : LookUp) :
    lookUp.extract.1 = lookUp.remaining.head? ∧ lookUp.extract.2.remaining = lookUp.remaining.tail ∧
      lookUp.extract.2.previouslyAdded = lookUp.previouslyAdded := by
  cases hsrv : lookUp.srv with
  | none => simp [extract, remaining, hsrv, addresses]
  | some srv => simp [extract, remaining, hsrv, extractNextIP_eq srv]

variable {lookUp rest : LookUp}

theorem extract_none (h : lookUp.extract = (none, rest)) : lookUp.remaining = [] ∧ rest.remaining = [] := by
  have heq := lookUp.extract_eq
  rw [h] at heq
  have hnil : lookUp.remaining = [] := List.head?_eq_none_iff.mp heq.1.symm
  exact ⟨hnil, by rw [heq.2.1, hnil]; rfl⟩

variable {ip : ICESocket.IPAddress}

theorem extract_some (h : lookUp.extract = (some ip, rest)) :
    lookUp.remaining = ip :: rest.remaining ∧ rest.previouslyAdded = lookUp.previouslyAdded := by
  have heq := lookUp.extract_eq
  rw [h] at heq
  constructor
  · rw [heq.2.1]
    exact (List.cons_head?_tail heq.1.symm).symm
  · exact heq.2.2

/-- The next valid address that was not added before; none when there are no more. -/
def stepGetNextServer (lookUp : LookUp) : Option ICESocket.IPAddress × LookUp :=
  match _ : lookUp.extract with
  | (none, rest) => (none, rest)
  | (some ip, rest) =>
    if isValid ip ∧ ip ∉ rest.previouslyAdded then
      (some ip, { rest with previouslyAdded := rest.previouslyAdded ++ [ip] })
    else stepGetNextServer rest
termination_by lookUp.remaining.length
decreasing_by simp [extract_some ‹lookUp.extract = (some ip, rest)›]

/-- The addresses that are still to be found: each of the remaining that is valid and was not added, once. -/
def fresh (lookUp : LookUp) : List ICESocket.IPAddress := firsts isValid lookUp.previouslyAdded lookUp.remaining

theorem fresh_found (h : lookUp.extract = (some ip, rest)) :
    lookUp.fresh = firsts isValid rest.previouslyAdded (ip :: rest.remaining) := by
  rw [fresh, (extract_some h).1, (extract_some h).2]

theorem stepGetNextServer_eq (lookUp : LookUp) :
    lookUp.stepGetNextServer.1 = lookUp.fresh.head? ∧ lookUp.stepGetNextServer.2.fresh = lookUp.fresh.tail ∧
      (lookUp.stepGetNextServer.1 = none → lookUp.stepGetNextServer.2.remaining = []) := by
  induction lookUp using stepGetNextServer.induct with
  | case1 lookUp rest hextract =>
    obtain ⟨hnone, hrest⟩ := extract_none hextract
    rw [stepGetNextServer, hextract]
    simp [fresh, firsts, hnone, hrest]
  | case2 lookUp ip rest hextract hnew =>
    rw [stepGetNextServer, hextract, fresh_found hextract, firsts, if_pos hnew]
    simp [hnew, fresh, remaining]
  | case3 lookUp ip rest hextract hskip ih =>
    rw [stepGetNextServer, hextract, fresh_found hextract, firsts, if_neg hskip]
    simp only [hskip, if_false]
    exact ih

theorem stepGetNextServer_none (h : lookUp.stepGetNextServer = (none, rest)) :
    lookUp.fresh = [] ∧ rest.fresh = [] ∧ rest.remaining = [] := by
  have heq := lookUp.stepGetNextServer_eq
  rw [h] at heq
  have hnil : lookUp.fresh = [] := List.head?_eq_none_iff.mp heq.1.symm
  exact ⟨hnil, by rw [heq.2.1, hnil]; rfl, heq.2.2 rfl⟩

theorem stepGetNextServer_some (h : lookUp.stepGetNextServer = (some ip, rest)) :
    lookUp.fresh = ip :: rest.fresh := by
  have heq := lookUp.stepGetNextServer_eq
  rw [h] at heq
  rw [heq.2.1]
  exact (List.cons_head?_tail heq.1.symm).symm

end LookUp

structure Server where
  mIsUDP : Bool
  mServerIP : ICESocket.IPAddress
  mActivateAfter : Nat
  mTCPSocket : Pointer := none
  mIsConnected : Bool := false
  mAllocateRequester : Pointer := none
  deriving DecidableEq

/-- The transport and the address of a server. -/
def Server.entry (server : Server) : Bool × ICESocket.IPAddress := (server.mIsUDP, server.mServerIP)

/-- UDP, UDP, TCP, UDP, TCP, and so on. -/
def toggle (count : Nat) : Bool := if count = 0 then true else count % 2 = 1

variable {count : Nat}

theorem toggle_succ (h : 0 < count) : toggle (count + 1) = !toggle count := by
  rw [toggle, toggle, if_neg (by omega), if_neg (by omega), ← decide_not, decide_eq_decide]
  omega

/-- The loop of `stepPrepareServers`, which ends when the look-up whose turn it is has no more: the servers that are
added, and what is left of the look-ups, that of UDP at `true`. -/
def prepare (count activateAfter : Nat) (lookUps : Bool → LookUp) : List Server × (Bool → LookUp) :=
  match _ : (lookUps (toggle count)).stepGetNextServer with
  | (none, rest) => ([], Function.update lookUps (toggle count) rest)
  | (some ip, rest) =>
    let prepared :=
      prepare (count + 1) (activateAfter + activateNextServer) (Function.update lookUps (toggle count) rest)
    ({ mIsUDP := toggle count, mServerIP := ip, mActivateAfter := activateAfter } :: prepared.1, prepared.2)
termination_by (lookUps true).fresh.length + (lookUps false).fresh.length
decreasing_by
  have hfresh := LookUp.stepGetNextServer_some ‹(lookUps (toggle count)).stepGetNextServer = (some ip, rest)›
  cases htoggle : toggle count <;> rw [htoggle] at hfresh <;> simp [hfresh]

variable {activateAfter : Nat} {lookUps : Bool → LookUp}

theorem prepare_none {rest : LookUp} (h : (lookUps (toggle count)).stepGetNextServer = (none, rest)) :
    prepare count activateAfter lookUps = ([], Function.update lookUps (toggle count) rest) := by
  rw [prepare, h]

theorem prepare_some {rest : LookUp} (h : (lookUps (toggle count)).stepGetNextServer = (some ip, rest)) :
    prepare count activateAfter lookUps =
      ({ mIsUDP := toggle count, mServerIP := ip, mActivateAfter := activateAfter } ::
          (prepare (count + 1) (activateAfter + activateNextServer) (Function.update lookUps (toggle count) rest)).1,
        (prepare (count + 1) (activateAfter + activateNextServer) (Function.update lookUps (toggle count) rest)).2) := by
  rw [prepare, h]

theorem prepare_entries (count activateAfter : Nat) (lookUps : Bool → LookUp) (hcount : 0 < count) :
    (prepare count activateAfter lookUps).1.map Server.entry =
      inTurn (toggle count) (lookUps (toggle count)).fresh (lookUps (!toggle count)).fresh := by
  induction count, activateAfter, lookUps using prepare.induct with
  | case1 count activateAfter lookUps rest hnext =>
    simp [prepare_none hnext, inTurn, (LookUp.stepGetNextServer_none hnext).1]
  | case2 count activateAfter lookUps ip rest hnext ih =>
    have hrest := ih (Nat.succ_pos _)
    rw [toggle_succ hcount, Bool.not_not, Function.update_self,
      Function.update_of_ne (by cases toggle count <;> simp)] at hrest
    rw [prepare_some hnext, LookUp.stepGetNextServer_some hnext, inTurn, ← hrest]
    simp [Server.entry]

/-- The servers of one transport are the first fresh addresses of it, and as many as the other transport allows. -/
theorem prepare_parts (activateAfter : Nat) (lookUps : Bool → LookUp) :
    part true ((prepare 0 activateAfter lookUps).1.map Server.entry) =
        (lookUps true).fresh.take ((lookUps false).fresh.length + 2) ∧
      part false ((prepare 0 activateAfter lookUps).1.map Server.entry) =
        (lookUps false).fresh.take ((lookUps true).fresh.length - 1) := by
  cases hnext : (lookUps (toggle 0)).stepGetNextServer with
  | mk next rest =>
    cases next with
    | none =>
      have hfresh : (lookUps true).fresh = [] := (LookUp.stepGetNextServer_none hnext).1
      simp [prepare_none hnext, hfresh]
    | some ip =>
      have hfresh : (lookUps true).fresh = ip :: rest.fresh := LookUp.stepGetNextServer_some hnext
      have hrest :=
        prepare_entries 1 (activateAfter + activateNextServer) (Function.update lookUps true rest) Nat.one_pos
      have hentries : (prepare 0 activateAfter lookUps).1.map Server.entry =
          (true, ip) :: inTurn true rest.fresh (lookUps false).fresh := by
        simpa [prepare_some hnext, Server.entry, toggle] using hrest
      have hparts := part_inTurn true rest.fresh (lookUps false).fresh
      rw [hentries, hfresh]
      constructor
      · rw [part_cons_self, hparts.1]
        rfl
      · exact (part_cons_not true ip _).trans hparts.2

theorem prepare_left (count activateAfter : Nat) (lookUps : Bool → LookUp) {isUDP : Bool}
    (hip : ip ∈ (lookUps isUDP).fresh) :
    (isUDP, ip) ∈ (prepare count activateAfter lookUps).1.map Server.entry ∨
      ip ∈ ((prepare count activateAfter lookUps).2 isUDP).fresh := by
  induction count, activateAfter, lookUps using prepare.induct with
  | case1 count activateAfter lookUps rest hnext =>
    rw [prepare_none hnext]
    right
    by_cases hside : isUDP = toggle count
    · rw [hside, (LookUp.stepGetNextServer_none hnext).1] at hip
      simp at hip
    · simpa [hside] using hip
  | case2 count activateAfter lookUps ip' rest hnext ih =>
    rw [prepare_some hnext]
    by_cases hside : isUDP = toggle count
    · subst hside
      rw [LookUp.stepGetNextServer_some hnext] at hip
      obtain rfl | hmem := List.mem_cons.mp hip
      · exact .inl List.mem_cons_self
      · exact (ih (by simpa using hmem)).imp (List.mem_cons_of_mem _) id
    · exact (ih (by simpa [hside] using hip)).imp (List.mem_cons_of_mem _) id

theorem prepare_nil (h : (prepare count activateAfter lookUps).1 = []) :
    ((prepare count activateAfter lookUps).2 (toggle count)).remaining = [] := by
  cases hnext : (lookUps (toggle count)).stepGetNextServer with
  | mk next rest =>
    cases next with
    | none => simp [prepare_none hnext, (LookUp.stepGetNextServer_none hnext).2.2]
    | some ip => simp [prepare_some hnext] at h

end OpenPeer.TURNSocketServers
